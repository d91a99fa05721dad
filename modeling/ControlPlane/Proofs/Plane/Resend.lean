import ControlPlane.Proofs.Discovery.Resend
import ControlPlane.Proofs.Plane.Flight
import ControlPlane.Proofs.Plane.Versions

/-! No response without a cause: a kind is sent twice at one version only if the subscriber asked
for it again in between. -/

namespace ControlPlane.Plane

variable {start plane : Plane} {events : List Event} {event : Event} {name : String}
  {connection : Connection} {responses : List DiscoveryResponse} {stream : Stream}

/-- Whether a turn is a request that asks again for the kind of a response: it comes when the
response was sent, after those before it, and at most some others after it. -/
def AsksAgain (start : Plane) (name : String) (sent : List DiscoveryResponse)
    (first : DiscoveryResponse) (between : List DiscoveryResponse) (earlier : List Event)
    (event : Event) : Prop :=
  ∃ request old stream, event = .request name request ∧
    (start.turns earlier).connections.get? name = some old ∧ old.phase = .serving stream ∧
    sent ++ [first] <+: old.responses ∧ old.responses <+: sent ++ first :: between ∧
    stream.session.AsksAgain first.kind request

/-- A request that came before some responses came before these and others. -/
theorem AsksAgain.widen {sent between more : List DiscoveryResponse} {first : DiscoveryResponse}
    {earlier : List Event} (again : start.AsksAgain name sent first between earlier event) :
    start.AsksAgain name sent first (between ++ more) earlier event := by
  obtain ⟨request, old, stream, same, found, serving, after, upTo, asks⟩ := again
  refine ⟨request, old, stream, same, found, serving, after, upTo.trans ?_, asks⟩
  exact ⟨more, by simp⟩

/-- Whether a stream was asked for all that was sent on it, and was asked again for what is due at
the version that it was sent at before. -/
structure Owing (start : Plane) (events : List Event) (name : String)
    (responses : List DiscoveryResponse) (stream : Stream) : Prop where
  asked : ∀ response ∈ responses, (stream.session.of response.kind).subscribed = true
  again : ∀ sent first between, responses = sent ++ first :: between →
    (stream.session.of first.kind).queued = true → first.version = stream.current.version →
    During name events (start.AsksAgain name sent first between)

/-- Whether of any two responses of a kind and a version the later one was asked for, and the stream
owes what it was asked for. -/
structure Provoked (start : Plane) (events : List Event) (name : String) (connection : Connection) :
    Prop where
  pairs : ∀ sent first between second,
    sent ++ first :: between ++ [second] <+: connection.responses →
    second.kind = first.kind → second.version = first.version →
    During name events (start.AsksAgain name sent first between)
  owing : ∀ stream, connection.phase = .serving stream →
    start.Owing events name connection.responses stream

/-- Where nothing was sent nothing is owed. -/
theorem owing_nil : start.Owing events name [] stream where
  asked _ member := absurd member List.not_mem_nil
  again _ _ _ split := by simp at split

/-- What a stream owes it goes on to owe as long as nothing happens to it. -/
theorem Owing.concat (owing : start.Owing events name responses stream)
    (stays : event ≠ .opened name) : start.Owing (events ++ [event]) name responses stream where
  asked := owing.asked
  again sent first between split due version :=
    (owing.again sent first between split due version).concat stays

/-- What was asked for stays so as long as nothing happens to the connection. -/
theorem Provoked.concat (provoked : start.Provoked events name connection)
    (stays : event ≠ .opened name) : start.Provoked (events ++ [event]) name connection where
  pairs sent first between second inside kind version :=
    (provoked.pairs sent first between second inside kind version).concat stays
  owing stream serving := (provoked.owing stream serving).concat stays

/-- What a stream is given has it owe nothing that it is not asked for. -/
theorem Receives.owing {before : Stream} {told : StreamEvent}
    (receives : (start.turns events).Receives name connection event before told stream)
    (found : (start.turns events).connections.get? name = some connection)
    (serving : connection.phase = .serving before) (steady : before.Steady connection.responses)
    (owing : start.Owing events name connection.responses before) :
    start.Owing (events ++ [event]) name connection.responses stream := by
  obtain ⟨stays, _, rfl, request, accounted, newer, _⟩ := receives
  refine ⟨fun response member => Stream.subscribed_receive (owing.asked response member), ?_⟩
  intro sent first between split due version
  have member : first ∈ connection.responses := by simp [split]
  have subscribed := owing.asked first member
  -- The response is not newer than what the stream held, and that is not newer than what it holds.
  have held : first.version = before.current.version :=
    Nat.le_antisymm (steady.bounded first member) (version ▸ newer)
  by_cases queued : (before.session.of first.kind).queued = true
  · exact (owing.again sent first between split queued held).concat stays
  rcases Stream.queued_receive subscribed due with
    due' | ⟨asks, told, again⟩ | ⟨snapshot, rfl, other⟩
  · exact absurd due' queued
  · -- The kind is queued in this turn, by a request.
    refine .last ⟨asks, connection, before, request asks told, found, serving, ?_, ?_, again⟩
    · exact ⟨between, by simp [split]⟩
    · exact split ▸ List.prefix_rfl
  · -- A kind that was not queued was sent at the version held, which is the one that is shown.
    obtain ⟨last, latest, same, _⟩ :=
      accounted.owed first.kind subscribed (Bool.eq_false_iff.mpr queued)
    rw [accounted.logged, latest] at other
    have shown : first.version = snapshot.version := version
    exact absurd (by simp [same, ← held, shown]) other

/-- Sending what is due leaves owing what else is due. -/
theorem Owing.push (owing : start.Owing events name responses stream)
    (tracks : stream.session.Tracks) (nonce : String) (now : Duration) :
    start.Owing events name (responses ++ (stream.push nonce now).2.toList)
      (stream.push nonce now).1 := by
  rcases stream.push_cases nonce now with ⟨_, none⟩ | ⟨kind, due, _, some⟩
  · -- Nothing is sent, so nothing changes.
    rw [none, Option.toList_none, List.append_nil]
    exact owing
  rw [some, Option.toList_some]
  constructor
  · intro response member
    rw [Stream.of_afterSending]
    rcases List.mem_append.mp member with before | only
    · split
      · rename_i here
        exact here ▸ owing.asked response before
      · exact owing.asked response before
    · -- What is sent now was queued, so it was asked for.
      cases List.mem_singleton.mp only
      simpa [Stream.response] using tracks.queued kind due
  · intro sent first between split queued version
    rw [Stream.of_afterSending] at queued
    -- The kind that is sent is queued no more, so the last response is not the one in question.
    split at queued
    · cases queued
    rename_i apart
    rcases List.eq_nil_or_concat' between with rfl | ⟨before, last, rfl⟩
    · have same := (List.append_inj' split rfl).2
      cases same
      exact absurd rfl apart
    · -- What lies between ends with what is sent now, which is no reason to owe less.
      have same : responses ++ [stream.response kind nonce] =
          (sent ++ first :: before) ++ [last] := by simp [split]
      obtain ⟨earlier, _⟩ := List.append_inj' same rfl
      exact (owing.again sent first before earlier queued version).imp fun _ _ => AsksAgain.widen

/-- A connection on which a stream sends what is due was asked for every repetition. -/
theorem Owing.sentOn (owing : start.Owing events name connection.responses stream)
    (tracks : stream.session.Tracks)
    (pairs : ∀ sent first between second,
      sent ++ first :: between ++ [second] <+: connection.responses →
      second.kind = first.kind → second.version = first.version →
      During name events (start.AsksAgain name sent first between)) :
    start.Provoked events name (plane.sentOn connection stream) := by
  let nonce := plane.nonceOf connection.responses.length
  refine ⟨?_, fun next serving => by (cases serving; exact owing.push tracks nonce plane.now)⟩
  intro sent first between second inside kind version
  have added : (plane.sentOn connection stream).responses =
      connection.responses ++ (stream.push nonce plane.now).2.toList := rfl
  rw [added] at inside
  rcases stream.push_cases nonce plane.now with ⟨_, none⟩ | ⟨due, queued, _, some⟩
  · rw [none, Option.toList_none, List.append_nil] at inside
    exact pairs sent first between second inside kind version
  · rw [some, Option.toList_some] at inside
    rcases List.prefix_concat_iff.mp inside with whole | before
    · -- The second response is the one that is sent now, from the version that the stream holds.
      obtain ⟨split, only⟩ := List.append_inj' whole rfl
      cases only
      have own : due = first.kind := kind
      exact owing.again sent first between split.symm (own ▸ queued) version.symm
    · exact pairs sent first between second before kind version

/-- After any turns, every connection was asked for what was sent on it again. -/
theorem provoked_turns (fresh : start.Fresh) (events : List Event)
    (found : (start.turns events).connections.get? name = some connection) :
    start.Provoked events name connection := by
  -- The induction is on the last turn, which is a new connection or goes on with one.
  induction events using List.reverseRecOn generalizing connection with
  | nil =>
    have unconnected : start.connections.get? name = none := by rw [fresh.connections]; rfl
    cases unconnected.symm.trans found
  | append_singleton events event ih =>
    rw [turns_concat] at found
    by_cases opening : event = .opened name
    · -- On a new connection nothing was sent.
      subst opening
      have blank : ((start.turns events).turn (.opened name)).connections.get? name = some {} :=
        (get?_put ..).trans (if_pos rfl)
      cases blank.symm.trans found
      refine ⟨fun sent first between second inside => ?_, fun _ serving => by (cases serving)⟩
      exact absurd (List.prefix_nil.mp inside) (by simp)
    cases (start.turns events).turned event name with
    | untouched same => exact (ih (same.1.symm.trans found)).concat opening
    | begun opened _ => exact absurd opened opening
    | ended was ends =>
      -- Nothing more is sent, and no stream is left that could owe something.
      cases ends.symm.trans found
      exact ⟨((ih was).concat opening).pairs, fun _ serving => by (cases serving)⟩
    | deafened was waiting still =>
      -- The connection waits for its first request, so there is no stream yet.
      cases still.symm.trans found
      refine ⟨((ih was).concat opening).pairs, fun _ serving => ?_⟩
      cases waiting.symm.trans serving
    | @served connection stream _ was given sent _ =>
      have between := fresh.orderly_turns events
      have tracked : (start.turns events).Tracked := by
        refine Tracked.turns (fun _ _ _ here => ?_) events
        rw [fresh.connections] at here
        cases here
      obtain ⟨before, told, receives⟩ := given.exists_receives between was
      -- A new stream was sent nothing, and one that goes on was asked for what it was sent.
      have owing : start.Owing (events ++ [event]) name connection.responses stream := by
        rcases receives.origin with serving | ⟨waiting, _, _⟩
        · obtain ⟨label, traces⟩ := exists_traces fresh events was
          exact receives.owing was serving (traces.explains before serving).steady
            ((ih was).owing before serving)
        · rw [(between name connection was).1 waiting]
          exact owing_nil
      cases sent.symm.trans found
      exact owing.sentOn (given.tracks tracked was) ((ih was).concat opening).pairs

/-- After any turns, if two responses on a connection are of one kind and one version, then between
them the stream was asked for the kind again: by a request without a nonce, or by one that echoes
the last response of the kind and has other names. Such a request is known by its outcome, so none
that is stale, of an unknown type or about another kind, and no answer with the names on record,
makes a stream send a version again; nor does waking up or giving up an answer. -/
theorem resent_only_if_asked (compileOptions : CompileOptions) (listener : ListenerSettings)
    (maxExtracted : Nat) (ackTimeout : Duration) (nonceOf : Nat → String) (events : List Event)
    {name : String} {connection : Connection}
    (found : ((idle compileOptions listener maxExtracted ackTimeout nonceOf).turns
      events).connections.get? name = some connection)
    {sent between rest : List DiscoveryResponse} {first second : DiscoveryResponse}
    (inside : connection.responses = sent ++ first :: between ++ second :: rest)
    (kind : second.kind = first.kind) (version : second.version = first.version) :
    let start := idle compileOptions listener maxExtracted ackTimeout nonceOf
    During name events (start.AsksAgain name sent first between) ∧
    ∀ (session : Session) (kind : ResourceKind) (request : DiscoveryRequest),
      (session.of kind).subscribed = true → session.AsksAgain kind request →
      (session.handle request).2 = .subscribed kind ∨
        OrderedSet.ofList request.names ≠ (session.of kind).names ∧
          ∃ version, session.Answers request kind version := by
  intro start
  have fresh : start.Fresh := ⟨rfl, rfl⟩
  refine ⟨?_, fun session kind request subscribed again => again.outcome subscribed⟩
  refine (provoked_turns fresh events found).pairs sent first between second ?_ kind version
  exact ⟨rest, by simp [inside]⟩

/-- A subscriber to endpoints accepts what it was sent and asks for one cluster alone, then it
rejects what it gets. -/
def renamed : List Event :=
  [.opened "edge", .request "edge" ⟨ResourceKind.endpoint.typeUrl, "", [], none, none⟩,
    .request "edge" ⟨ResourceKind.endpoint.typeUrl, "n1", ["pets"], none, none⟩,
    .request "edge" ⟨ResourceKind.endpoint.typeUrl, "n2", ["pets"], some "bad", none⟩]

/-- The endpoints are sent twice at the first version, for the request that changes the names. -/
theorem resent_only_if_asked_renamed :
    let start := idle {} ⟨"default", "0.0.0.0", 9090, none⟩ 0 (.ofSeconds 30) countedNonce
    ∃ connection, (start.turns renamed).connections.get? "edge" = some connection ∧
      connection.responses = [⟨.endpoint, 0, "n1", []⟩, ⟨.endpoint, 0, "n2", []⟩] ∧
      During "edge" renamed (start.AsksAgain "edge" [] ⟨.endpoint, 0, "n1", []⟩ []) := by
  intro start
  have computed : ((start.turns renamed).connections.get? "edge").map Connection.responses =
      some [⟨.endpoint, 0, "n1", []⟩, ⟨.endpoint, 0, "n2", []⟩] := by decide +kernel
  obtain ⟨connection, found, sent⟩ := Option.map_eq_some_iff.mp computed
  -- The second response follows the first at once, and nothing follows the second.
  have inside : connection.responses = [] ++ ⟨.endpoint, 0, "n1", []⟩ :: [] ++
      ⟨.endpoint, 0, "n2", []⟩ :: [] := sent
  obtain ⟨again, _⟩ := resent_only_if_asked {} ⟨"default", "0.0.0.0", 9090, none⟩ 0
    (.ofSeconds 30) countedNonce renamed found inside rfl rfl
  exact ⟨connection, found, sent, again⟩

end ControlPlane.Plane
