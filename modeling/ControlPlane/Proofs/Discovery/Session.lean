import ControlPlane.Discovery.Session

/-! What a session makes of requests, snapshots and its queue, one kind at a time. -/

namespace ControlPlane

/-- The kinds are listed by their rank. -/
theorem ResourceKind.all_ascending : ResourceKind.all.Pairwise fun a b => a.rank < b.rank := by
  decide

namespace Session

variable (session : Session)

/-- A change of one kind leaves the others as they are. -/
@[simp] theorem of_update (kind other : ResourceKind) (change : Subscription → Subscription) :
    (session.update kind change).of other =
      if kind = other then change (session.of kind) else session.of other :=
  PerKind.get_set ..

/-- At first nothing is known of any kind. -/
@[simp] theorem of_new (label : Label) (kind : ResourceKind) : (new label).of kind = {} :=
  PerKind.get_always ..

/-- Settling a response leaves all kinds as they are. -/
@[simp] theorem of_settle (kind other : ResourceKind) (nonce : String) :
    (session.settle kind nonce).of other = session.of other := by
  -- Settling concerns the response in flight alone.
  unfold settle
  split
  · -- It is in flight or not, and if it is, it is the one that is settled or not.
    split <;> rfl
  · rfl

/-- Recording a response concerns its own kind. -/
@[simp] theorem of_recordSent (kind other : ResourceKind) (version : Nat) (nonce : String)
    (now : Duration) :
    (session.recordSent kind version nonce now).of other =
      if kind = other then { session.of kind with lastSent := some ⟨version, nonce⟩ }
      else session.of other :=
  PerKind.get_set ..

/-- A new version queues every kind that lacks it, and changes nothing else. -/
theorem of_onSnapshot (version : Nat) (kind : ResourceKind) :
    (session.onSnapshot version).of kind =
      if lacks version (session.of kind) then { session.of kind with queued := true }
      else session.of kind :=
  PerKind.get_map ..

/-- What a request can mean, and what each meaning does to the session. -/
inductive Handled (request : DiscoveryRequest) : Session × Outcome → Prop where
  | unknown (foreign : ResourceKind.ofTypeUrl? request.typeUrl = none) :
    Handled request (session, .unknownType request.typeUrl)
  | asked {kind : ResourceKind} (named : ResourceKind.ofTypeUrl? request.typeUrl = some kind)
    (first : request.nonce.isEmpty = true ∨ (session.of kind).subscribed = false) :
    Handled request (session.ask kind (.ofList request.names), .subscribed kind)
  | stale {kind : ResourceKind} (named : ResourceKind.ofTypeUrl? request.typeUrl = some kind)
    (echoes : request.nonce.isEmpty = false) (subscribed : (session.of kind).subscribed = true)
    (foreign : ∀ sent ∈ (session.of kind).lastSent, sent.nonce ≠ request.nonce) :
    Handled request (session, .stale kind)
  | answered {kind : ResourceKind} {sent : Sent}
    (named : ResourceKind.ofTypeUrl? request.typeUrl = some kind)
    (echoes : request.nonce.isEmpty = false) (subscribed : (session.of kind).subscribed = true)
    (last : (session.of kind).lastSent = some sent) (own : sent.nonce = request.nonce) :
    Handled request
      ((((session.settle kind request.nonce).answered kind sent.version request).1.rename kind
          (.ofList request.names)),
        ((session.settle kind request.nonce).answered kind sent.version request).2)

/-- Every request is handled in one of these ways. -/
theorem handled (request : DiscoveryRequest) :
    session.Handled request (session.handle request) := by
  -- The cases are those of the definition, from the type of the request to its nonce.
  unfold handle
  cases named : ResourceKind.ofTypeUrl? request.typeUrl with
  | none => exact .unknown named
  | some kind =>
    dsimp only
    by_cases first : request.nonce.isEmpty ∨ !(session.of kind).subscribed
    · rw [if_pos first]
      exact .asked named (by simpa using first)
    · rw [if_neg first]
      obtain ⟨echoes, subscribed⟩ : request.nonce.isEmpty = false ∧
          (session.of kind).subscribed = true := by simpa using first
      cases last : (session.of kind).lastSent with
      | none => exact .stale named echoes subscribed (by simp [last])
      | some sent =>
        by_cases own : sent.nonce = request.nonce
        · simp only [own, ne_eq, not_true_eq_false, if_false]
          exact .answered named echoes subscribed last own
        · simp only [ne_eq, own, not_false_eq_true, if_true]
          exact .stale named echoes subscribed (by simpa [last] using own)

end Session

/-- Whether a kind was sent nothing between two states, and is queued if it asks for other things. -/
def Subscription.Owes (before after : Subscription) : Prop :=
  after.lastSent = before.lastSent ∧
    (after.queued = true ∨
      after.queued = before.queued ∧ after.names = before.names ∧
        after.subscribed = before.subscribed)

/-- A kind that nothing happened to owes nothing new. -/
theorem Subscription.Owes.refl (state : Subscription) : state.Owes state :=
  ⟨rfl, Or.inr ⟨rfl, rfl, rfl⟩⟩

namespace Session

variable (session : Session)

/-- An answer changes what is asked for only by other names, and those are queued. -/
theorem answered_rename_owes (kind other : ResourceKind) (version : Nat)
    (request : DiscoveryRequest) (names : OrderedSet String) :
    (session.of other).Owes
      ((((session.settle kind request.nonce).answered kind version request).1.rename kind
        names).of other) := by
  -- The accepted version is no part of what a kind asks for.
  have accepted : ∀ kind', ((session.of kind').Owes
      (((session.settle kind request.nonce).answered kind version request).1.of kind')) := by
    intro kind'
    unfold answered
    split
    · -- A rejection leaves the accepted version too.
      simpa using Subscription.Owes.refl _
    · simp only [of_update, of_settle]
      split
      · rename_i same; subst same; exact ⟨rfl, Or.inr ⟨rfl, rfl, rfl⟩⟩
      · exact .refl _
  unfold rename
  split
  · -- The names are those on record.
    exact accepted other
  · rw [of_update]
    split
    · rename_i same; subst same; exact ⟨(accepted kind).1, Or.inl rfl⟩
    · exact accepted other

/-- A request queues every kind for which it changes what is asked for. -/
theorem handle_owes (request : DiscoveryRequest) (other : ResourceKind) :
    (session.of other).Owes ((session.handle request).1.of other) := by
  -- Each meaning of the request is considered by itself.
  generalize result : session.handle request = handled
  have meaning := session.handled request
  rw [result] at meaning
  cases meaning with
  | unknown _ => exact .refl _
  | @asked kind _ _ =>
    -- Asking for a kind queues it, and concerns no other.
    simp only [ask, of_update]
    split
    · rename_i same; subst same; exact ⟨rfl, Or.inl rfl⟩
    · exact .refl _
  | stale _ _ _ _ => exact .refl _
  | answered _ _ _ _ _ => exact session.answered_rename_owes ..

/-- A request leaves a stream with its label. -/
@[simp] theorem label_handle (request : DiscoveryRequest) :
    (session.handle request).1.label = session.label := by
  -- Whatever the request means, it is about the kinds and the response in flight.
  have meaning := session.handled request
  generalize session.handle request = handled at meaning
  cases meaning with
  | unknown _ => rfl
  | asked _ _ => rfl
  | stale _ _ _ _ => rfl
  | @answered kind sent _ _ _ _ _ =>
    -- None of the three steps touches the label.
    have settled : (session.settle kind request.nonce).label = session.label := by
      unfold settle
      split
      · split <;> rfl
      · rfl
    have accepted : ((session.settle kind request.nonce).answered kind sent.version
        request).1.label = session.label := by
      rw [← settled]
      unfold answered
      split <;> rfl
    refine Eq.trans ?_ accepted
    unfold rename
    split <;> rfl

/-- A new snapshot leaves alone what a kind asks for. -/
theorem onSnapshot_owes (version : Nat) (kind : ResourceKind) :
    (session.of kind).Owes ((session.onSnapshot version).of kind) := by
  -- A kind that lacks the version is queued with all else as it was.
  rw [of_onSnapshot]
  split
  · exact ⟨rfl, Or.inl rfl⟩
  · exact .refl _

/-- A subscribed kind that is not queued after a new version was sent at that version. -/
theorem sent_of_onSnapshot {version : Nat} {kind : ResourceKind}
    (subscribed : ((session.onSnapshot version).of kind).subscribed = true)
    (settled : ((session.onSnapshot version).of kind).queued = false) :
    ((session.of kind).lastSent.map Sent.version) = some version := by
  -- Otherwise the kind lacks the version, and the new version queues it.
  rw [of_onSnapshot] at subscribed settled
  split at settled
  · cases settled
  · rename_i sufficient
    rw [if_neg sufficient] at subscribed
    simpa [lacks, subscribed] using sufficient

/-- Nothing is due while a response waits for its answer or no kind is queued; else the queued kind
of the least rank is due. -/
theorem next_cases :
    (session.inFlight.isSome = true ∧ session.next = (session, none)) ∨
    (session.inFlight = none ∧ (∀ kind, (session.of kind).queued = false) ∧
      session.next = (session, none)) ∨
    ∃ kind, session.inFlight = none ∧ (session.of kind).queued = true ∧
      (∀ other, other.rank < kind.rank → (session.of other).queued = false) ∧
      session.next = (session.update kind fun s => { s with queued := false }, some kind) := by
  -- The three cases are those of the definition: something is in flight, nothing is queued, or a
  -- kind heads the queue.
  unfold next
  by_cases busy : session.inFlight.isSome = true
  · exact Or.inl ⟨busy, if_pos busy⟩
  · have free : session.inFlight = none := by simpa using busy
    refine Or.inr ?_
    rw [if_neg busy]
    have member : ∀ kind, kind ∈ session.pending ↔ (session.of kind).queued = true := by
      simp [pending, ResourceKind.mem_all]
    -- The queue keeps the order in which the kinds are listed.
    have ascending : session.pending.Pairwise fun a b => a.rank < b.rank :=
      ResourceKind.all_ascending.filter _
    cases waiting : session.pending with
    | nil =>
      exact Or.inl ⟨free, fun kind => by simpa [waiting] using member kind, rfl⟩
    | cons kind rest =>
      rw [waiting] at member ascending
      refine Or.inr ⟨kind, free, (member kind).mp List.mem_cons_self, ?_, rfl⟩
      -- A queued kind of smaller rank would have to stand before the head.
      intro other smaller
      cases queued : (session.of other).queued with
      | false => rfl
      | true =>
        rcases List.mem_cons.mp ((member other).mpr queued) with same | later
        · exact absurd smaller (same ▸ Nat.lt_irrefl _)
        · exact absurd smaller (Nat.lt_asymm ((List.pairwise_cons.mp ascending).1 other later))

end Session

end ControlPlane
