import ControlPlane.Proofs.Discovery.Rejection
import ControlPlane.Proofs.Discovery.Stream

/-! The versions on a stream never go back, neither those that are sent nor those accepted. -/

namespace ControlPlane

/-- The last response of a kind is one of the responses, and of the kind. -/
theorem DiscoveryResponse.of_latest {kind : ResourceKind} {responses : List DiscoveryResponse}
    {response : DiscoveryResponse} (last : latest kind responses = some response) :
    response ∈ responses ∧ response.kind = kind := by
  have member := List.mem_of_getLast? last
  simpa using member

namespace Stream

variable {stream : Stream} {responses : List DiscoveryResponse}

/-- The call by which a stream tells its session of an event. -/
def callOf : StreamEvent → Session.Call
  | .request request => .request request
  | .snapshot snapshot => .snapshot snapshot.version
  | .deadline => .expire

/-- A stream takes an event into account by one call to its session. -/
theorem session_receive (stream : Stream) (event : StreamEvent) :
    (stream.receive event).session = stream.session.call (callOf event) := by
  cases event <;> rfl

/-- After an event the accepted version of a kind is what it was, or it is that of the last
response, which the event acknowledges. -/
theorem accepted_receive (stream : Stream) (event : StreamEvent) (kind : ResourceKind) :
    ((stream.receive event).session.of kind).accepted = (stream.session.of kind).accepted ∨
      ∃ request version, event = .request request ∧
        stream.session.Answers request kind version ∧ request.rejection = none ∧
        ((stream.receive event).session.of kind).accepted = some version := by
  -- What is accepted afterwards is what the call accepts, or else what was accepted before.
  rw [session_receive, (Session.call_follows (callOf event)).accepted]
  cases accepts : stream.session.accepts kind (callOf event) with
  | none => exact Or.inl rfl
  | some version =>
    -- Only an acknowledgement accepts something, and it is about a version that was sent.
    obtain ⟨request, called, acked⟩ := Session.exists_of_accepts accepts
    obtain ⟨answer, plain⟩ := Session.acked_iff.mp acked
    cases event with
    | request _ =>
      cases called
      exact Or.inr ⟨request, version, rfl, answer, plain, rfl⟩
    | snapshot _ => cases called
    | deadline => cases called

/-- Sending accepts nothing. -/
@[simp] theorem accepted_push (stream : Stream) (nonce : String) (now : Duration)
    (kind : ResourceKind) :
    ((stream.push nonce now).1.session.of kind).accepted = (stream.session.of kind).accepted := by
  -- Either nothing is due, or one kind is recorded as sent, which leaves what it accepted.
  rcases stream.push_cases nonce now with ⟨_, none⟩ | ⟨other, _, _, some⟩
  · rw [none]
  · rw [some, of_afterSending]
    split
    · rename_i same; rw [same]
    · rfl

/-- Whether the versions on a stream stand in order: those sent ascend to the one that the stream
holds, and of no kind a version is accepted that is greater than the one sent last. -/
structure Steady (stream : Stream) (responses : List DiscoveryResponse) : Prop where
  ordered : responses.Pairwise fun early late => early.version ≤ late.version
  bounded : ∀ response ∈ responses, response.version ≤ stream.current.version
  accepted : ∀ kind version, (stream.session.of kind).accepted = some version →
    ∃ last, DiscoveryResponse.latest kind responses = some last ∧ version ≤ last.version

/-- Whether a stream is a later state of another: it has the label, holds no smaller version, and
has accepted no smaller versions. -/
structure Grows (before after : Stream) : Prop where
  label : after.session.label = before.session.label
  current : before.current.version ≤ after.current.version
  accepted : ∀ kind version, (before.session.of kind).accepted = some version →
    ∃ later, (after.session.of kind).accepted = some later ∧ version ≤ later

/-- A stream that nothing happened to has grown by nothing. -/
theorem Grows.refl (stream : Stream) : stream.Grows stream :=
  ⟨rfl, Nat.le_refl _, fun _ version accepted => ⟨version, accepted, Nat.le_refl _⟩⟩

/-- A stream that grew twice has grown. -/
theorem Grows.trans {first second third : Stream} (early : first.Grows second)
    (late : second.Grows third) : first.Grows third where
  label := late.label.trans early.label
  current := Nat.le_trans early.current late.current
  accepted kind version accepted := by
    -- The version in between links the two.
    obtain ⟨middle, accepted, less⟩ := early.accepted kind version accepted
    obtain ⟨last, accepted, more⟩ := late.accepted kind middle accepted
    exact ⟨last, accepted, Nat.le_trans less more⟩

/-- On a stream on which nothing was asked for no version is out of order. -/
theorem steady_new (snapshot : Snapshot) : Steady ⟨.new snapshot.label, snapshot⟩ [] where
  ordered := .nil
  bounded _ member := absurd member List.not_mem_nil
  accepted kind version accepted := by simp at accepted

/-- An answer is to the last response of the kind. -/
theorem Accounted.latest_of_answers (accounted : stream.Accounted responses)
    {request : DiscoveryRequest} {kind : ResourceKind} {version : Nat}
    (answer : stream.session.Answers request kind version) :
    ∃ last, DiscoveryResponse.latest kind responses = some last ∧ last.version = version ∧
      last.nonce = request.nonce := by
  -- What the session remembers as sent is the last response of the kind.
  have logged := (accounted.logged kind).symm.trans answer.last
  obtain ⟨last, latest, same⟩ := Option.map_eq_some_iff.mp logged
  obtain ⟨version, nonce⟩ := Sent.mk.inj same
  exact ⟨last, latest, version, nonce⟩

/-- Every event keeps the versions in order, if no snapshot it shows is older than the one held. -/
theorem Steady.receive (steady : stream.Steady responses) (accounted : stream.Accounted responses)
    {event : StreamEvent}
    (newer : stream.current.version ≤ (stream.receive event).current.version) :
    (stream.receive event).Steady responses ∧ stream.Grows (stream.receive event) := by
  -- The responses are the same as before: it is the bound, the accepted versions and the growth
  -- that have to be shown.
  refine ⟨⟨steady.ordered, fun response member => ?_, fun kind version accepted => ?_⟩,
    stream.label_receive event, newer, fun kind version accepted => ?_⟩
  · -- The bound can only rise.
    exact Nat.le_trans (steady.bounded response member) newer
  · -- Either the event accepts nothing for the kind, or it is an acknowledgement.
    rcases stream.accepted_receive event kind with
      same | ⟨request, other, _, answer, _, acknowledged⟩
    · exact steady.accepted kind version (same.symm.trans accepted)
    · -- What is accepted now was sent last.
      obtain ⟨last, latest, same, _⟩ := accounted.latest_of_answers answer
      cases acknowledged.symm.trans accepted
      exact ⟨last, latest, Nat.le_of_eq same.symm⟩
  · -- The same two ways for what was accepted before.
    rcases stream.accepted_receive event kind with
      same | ⟨request, other, _, answer, _, acknowledged⟩
    · exact ⟨version, same.trans accepted, Nat.le_refl _⟩
    · -- What was accepted before is not greater than what was sent last.
      obtain ⟨last, latest, same, _⟩ := accounted.latest_of_answers answer
      obtain ⟨last', latest', less⟩ := steady.accepted kind version accepted
      cases latest.symm.trans latest'
      exact ⟨other, acknowledged, same ▸ less⟩

/-- Sending what is due keeps the versions in order. -/
theorem Steady.push (steady : stream.Steady responses) (nonce : String) (now : Duration) :
    (stream.push nonce now).1.Steady (responses ++ (stream.push nonce now).2.toList) ∧
      stream.Grows (stream.push nonce now).1 := by
  -- Sending changes neither the snapshot that is held nor what is accepted.
  refine ⟨?_, stream.label_push nonce now, Nat.le_of_eq (by rw [current_push]),
    fun kind version accepted => ⟨version, by rwa [accepted_push], Nat.le_refl _⟩⟩
  -- There is one response more, or there is none.
  rcases stream.push_cases nonce now with ⟨_, none⟩ | ⟨kind, _, _, some⟩
  · rw [none, Option.toList_none, List.append_nil]
    exact steady
  · refine ⟨?_, ?_, fun other version accepted => ?_⟩
    · -- Nothing that was sent before has a greater version than the stream holds.
      refine List.pairwise_append.mpr ⟨steady.ordered, ?_, fun early member late only => ?_⟩
      · rw [some]
        exact List.pairwise_singleton ..
      · rw [some, Option.toList_some, List.mem_singleton] at only
        exact only ▸ steady.bounded early member
    · -- The one response more has the version that the stream holds.
      intro response member
      rw [current_push]
      rcases List.mem_append.mp member with before | only
      · exact steady.bounded response before
      · rw [some, Option.toList_some, List.mem_singleton] at only
        exact only ▸ Nat.le_refl _
    · -- Of the kind that is sent the last version is the new one, which is not smaller.
      rw [accepted_push] at accepted
      obtain ⟨last, latest, less⟩ := steady.accepted other version accepted
      rw [some, Option.toList_some, DiscoveryResponse.latest_append]
      split
      · exact ⟨_, rfl, Nat.le_trans less
          (steady.bounded last (DiscoveryResponse.of_latest latest).1)⟩
      · exact ⟨last, latest, less⟩

end Stream

end ControlPlane
