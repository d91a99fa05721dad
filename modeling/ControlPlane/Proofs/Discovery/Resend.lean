import ControlPlane.Proofs.Discovery.Rejection
import ControlPlane.Proofs.Discovery.Stream

/-! Why a response of a kind is due: a request asks for it again, or the version that was sent last
is another one than the stream holds. Nothing else queues a kind. -/

namespace ControlPlane

namespace Session

variable {session : Session} {kind : ResourceKind} {request : DiscoveryRequest}

/-- Whether a request asks for a kind again: it has no nonce, or it echoes the last response of the
kind with a set of names other than that on record. -/
def AsksAgain (session : Session) (kind : ResourceKind) (request : DiscoveryRequest) : Prop :=
  ResourceKind.ofTypeUrl? request.typeUrl = some kind ∧
    (request.nonce.isEmpty = true ∨
      (session.of kind).lastSent.map Sent.nonce = some request.nonce ∧
        OrderedSet.ofList request.names ≠ (session.of kind).names)

/-- Other names queue a kind, and the names on record do not. -/
theorem queued_rename (session : Session) (other kind : ResourceKind) (names : OrderedSet String) :
    ((session.rename other names).of kind).queued =
      ((session.of kind).queued || decide (other = kind ∧ names ≠ (session.of kind).names)) := by
  unfold rename
  by_cases same : names = (session.of other).names
  · -- The names are those on record, so nothing changes.
    rw [if_pos same]
    by_cases here : other = kind
    · simp [← here, same]
    · simp [here]
  · rw [if_neg same, of_update]
    by_cases here : other = kind
    · subst here
      simp [same]
    · simp [here]

/-- Recording an answer queues nothing, and leaves the names on record. -/
theorem queued_answered (session : Session) (other kind : ResourceKind) (version : Nat)
    (request : DiscoveryRequest) :
    ((session.answered other version request).1.of kind).queued = (session.of kind).queued ∧
      ((session.answered other version request).1.of kind).names = (session.of kind).names := by
  unfold answered
  split
  · exact ⟨rfl, rfl⟩
  · -- Only the accepted version of the kind that is answered changes.
    rw [of_update]
    split
    · rename_i here
      exact here ▸ ⟨rfl, rfl⟩
    · exact ⟨rfl, rfl⟩

/-- A request queues a subscribed kind only if it asks for the kind again. -/
theorem queued_handle (subscribed : (session.of kind).subscribed = true)
    (due : ((session.handle request).1.of kind).queued = true) :
    (session.of kind).queued = true ∨ session.AsksAgain kind request := by
  have meaning := session.handled request
  generalize session.handle request = handled at meaning due
  cases meaning with
  | unknown _ => exact Or.inl due
  | @asked other named first =>
    rw [ask, of_update] at due
    by_cases here : other = kind
    · -- The kind is subscribed already, so the request has no nonce.
      subst here
      rcases first with silent | unasked
      · exact Or.inr ⟨named, Or.inl silent⟩
      · exact absurd (subscribed.symm.trans unasked) (by simp)
    · rw [if_neg here] at due
      exact Or.inl due
  | stale _ _ _ _ => exact Or.inl due
  | @answered other sent named _ _ last own =>
    -- An answer queues the kind by its names alone.
    obtain ⟨queued, names⟩ :=
      (session.settle other request.nonce).queued_answered other kind sent.version request
    rw [of_settle] at queued names
    rw [queued_rename, queued, names, Bool.or_eq_true, decide_eq_true_eq] at due
    rcases due with before | ⟨rfl, fresh⟩
    · exact Or.inl before
    · refine Or.inr ⟨named, Or.inr ⟨?_, fresh⟩⟩
      rw [last, Option.map_some, own]

/-- A request that asks again for a subscribed kind is known by its outcome: it subscribes, or it
answers the last response of the kind and changes the names. So no request that is stale, of an
unknown type or about another kind does so, and no answer with the names on record. -/
theorem AsksAgain.outcome (again : session.AsksAgain kind request)
    (subscribed : (session.of kind).subscribed = true) :
    (session.handle request).2 = .subscribed kind ∨
      OrderedSet.ofList request.names ≠ (session.of kind).names ∧
        ∃ version, session.Answers request kind version := by
  obtain ⟨named, reason⟩ := again
  have meaning := session.handled request
  generalize session.handle request = handled at meaning
  cases meaning with
  | unknown foreign => cases foreign.symm.trans named
  | asked other _ =>
    cases named.symm.trans other
    exact Or.inl rfl
  | stale other echoes _ foreign =>
    -- The request would have to echo the last response, which a stale one does not.
    cases named.symm.trans other
    rcases reason with silent | ⟨own, _⟩
    · exact absurd (silent.symm.trans echoes) (by simp)
    · obtain ⟨sent, last, same⟩ := Option.map_eq_some_iff.mp own
      exact absurd same (foreign sent last)
  | @answered _ sent other echoes _ last own =>
    cases named.symm.trans other
    rcases reason with silent | ⟨_, fresh⟩
    · exact absurd (silent.symm.trans echoes) (by simp)
    · exact Or.inr ⟨fresh, sent.version, named, echoes, subscribed, by rw [last, ← own]⟩

end Session

namespace Stream

variable {stream : Stream} {kind : ResourceKind} {responses : List DiscoveryResponse}

/-- A subscribed kind is queued by an event only if a request asks for it again, or if a snapshot is
shown at another version than the last response had. -/
theorem queued_receive {event : StreamEvent}
    (subscribed : (stream.session.of kind).subscribed = true)
    (due : ((stream.receive event).session.of kind).queued = true) :
    (stream.session.of kind).queued = true ∨
      (∃ request, event = .request request ∧ stream.session.AsksAgain kind request) ∨
      ∃ snapshot, event = .snapshot snapshot ∧
        (stream.session.of kind).lastSent.map Sent.version ≠ some snapshot.version := by
  cases event with
  | request request =>
    rcases Session.queued_handle subscribed due with before | again
    · exact Or.inl before
    · exact Or.inr (Or.inl ⟨request, rfl, again⟩)
  | deadline => exact Or.inl due
  | snapshot snapshot =>
    simp only [receive, Session.of_onSnapshot] at due
    split at due
    · -- The kind lacks the version, which it does by its last response.
      rename_i lacking
      refine Or.inr (Or.inr ⟨snapshot, rfl, ?_⟩)
      simpa [Session.lacks, subscribed] using lacking
    · exact Or.inl due

/-- A kind stays subscribed, whatever happens to the stream. -/
theorem subscribed_receive {event : StreamEvent}
    (subscribed : (stream.session.of kind).subscribed = true) :
    ((stream.receive event).session.of kind).subscribed = true := by
  cases event with
  | request request => exact (stream.session.handle_follows kind request).subscribed subscribed
  | deadline => exact subscribed
  | snapshot snapshot =>
    simp only [receive, Session.of_onSnapshot]
    split <;> exact subscribed

end Stream

end ControlPlane
