import Mathlib.Data.List.Forall2
import ControlPlane.Discovery.Snapshot
import ControlPlane.Proofs.Discovery.Session

/-! The names that a subscriber asks for are a set: neither what it is sent nor when it is sent
something depends on their order, or on how often one of them is listed. -/

namespace ControlPlane

namespace Wire

variable {names names' : List String}

/-- Whether a resource is wanted depends on which names are listed, and on nothing else. -/
theorem wanted_congr (same : ∀ name, name ∈ names ↔ name ∈ names') (kind : ResourceKind) :
    wanted kind names = wanted kind names' := by
  -- The two parts of the test are compared: whether any name is listed, and whether this one is.
  funext name
  have empty : names.isEmpty = names'.isEmpty := by
    rw [Bool.eq_iff_iff, List.isEmpty_iff, List.isEmpty_iff]
    simp only [List.eq_nil_iff_forall_not_mem, same]
  have listed : names.contains name = names'.contains name := by
    rw [Bool.eq_iff_iff, List.contains_iff_mem, List.contains_iff_mem, same]
  rw [wanted, wanted, empty, listed]

/-- The resources that a subscriber gets depend on which names are listed, and on nothing else. -/
theorem encode_congr (same : ∀ name, name ∈ names ↔ name ∈ names') (kind : ResourceKind)
    (resources : ResourceSet) : encode kind names resources = encode kind names' resources := by
  -- What is sent are the resources that are wanted, whatever their kind.
  cases kind <;> simp only [encode, messages, wanted_congr same]

end Wire

/-- The kind whose names a request records, by what the request means. -/
def Outcome.heeded : Outcome → Option ResourceKind
  | .subscribed kind | .acked kind _ | .nacked kind _ _ => some kind
  | .stale _ | .unknownType _ => none

namespace Session

/-- What a call tells its caller. -/
inductive Answer where
  /-- What a request means. -/
  | outcome (outcome : Outcome)
  /-- The kind that is due, or that was given up. -/
  | kind (kind : Option ResourceKind)
  | nothing

/-- What a call to a session tells its caller. -/
def answer (session : Session) : Call → Answer
  | .request request => .outcome (session.handle request).2
  | .next => .kind session.next.2
  | .expire => .kind session.expire.2
  | .snapshot _ | .sent .. => .nothing

/-- Whether two calls differ at most in the order and the repetition of the names asked for. -/
inductive Call.Alike : Call → Call → Prop where
  | self (call : Call) : Alike call call
  | names (request : DiscoveryRequest) {names : List String}
    (same : ∀ name, name ∈ request.names ↔ name ∈ names) :
    Alike (.request request) (.request { request with names })

/-- What is told by the call that comes after some others, if there is one. -/
def answerAfter (session : Session) (count : Nat) (calls : List Call) : Option Answer :=
  calls[count]?.map (session.run (calls.take count)).answer

variable {call call' : Call} {calls calls' : List Call}

/-- A request is handled as any other that differs from it at most in the order and the repetition
of the names. -/
theorem handle_congr (session : Session) (request : DiscoveryRequest) {names : List String}
    (same : ∀ name, name ∈ request.names ↔ name ∈ names) :
    session.handle request = session.handle { request with names } := by
  -- A session makes a set of the names before it looks at them.
  have recorded := OrderedSet.ofList_eq_ofList_iff.mpr same
  unfold handle
  dsimp only
  rw [recorded]
  rfl

/-- Calls that differ at most in the order and the repetition of the names do the same, and they
tell the same. -/
theorem Call.Alike.congr (alike : call.Alike call') (session : Session) :
    session.call call = session.call call' ∧ session.answer call = session.answer call' := by
  -- Calls that are no requests are the same, and requests are handled alike.
  cases alike with
  | self => exact ⟨rfl, rfl⟩
  | names request same =>
    have handled := session.handle_congr request same
    refine ⟨congrArg Prod.fst handled, ?_⟩
    change Answer.outcome _ = Answer.outcome _
    rw [handled]

/-- Such calls one after the other do the same. -/
theorem run_congr (alike : List.Forall₂ Call.Alike calls calls') (session : Session) :
    session.run calls = session.run calls' := by
  -- The induction is on the calls in pairs, from any state.
  induction alike generalizing session with
  | nil => rfl
  | @cons call call' calls calls' here _ ih =>
    -- The first call leads to one state, from which the others go on.
    change (session.call call).run calls = (session.call call').run calls'
    rw [(here.congr session).1, ih]

/-- Each of such calls tells the same as its counterpart. -/
theorem answerAfter_congr (alike : List.Forall₂ Call.Alike calls calls') (session : Session)
    (count : Nat) : session.answerAfter count calls = session.answerAfter count calls' := by
  -- The induction is on the calls in pairs, for any number of them that come before.
  induction alike generalizing session count with
  | nil => rfl
  | @cons call call' calls calls' here _ ih =>
    obtain ⟨states, answers⟩ := here.congr session
    cases count with
    | zero => exact congrArg some answers
    | succ count =>
      -- What comes before is the first call and then the same number of others less one.
      change (session.call call).answerAfter count calls =
        (session.call call').answerAfter count calls'
      rw [states, ih]

/-- The names of a kind are those that were recorded last. -/
@[simp] theorem names_rename (session : Session) (kind : ResourceKind) (names : OrderedSet String) :
    ((session.rename kind names).of kind).names = names := by
  -- Names that are on record already are not recorded again, which leaves the same.
  unfold rename
  split
  · rename_i same
    exact same.symm
  · rw [of_update, if_pos rfl]

/-- A request that is heeded records exactly the names that it asks for. -/
theorem names_of_heeded {session : Session} {request : DiscoveryRequest} {kind : ResourceKind}
    (heeded : (session.handle request).2.heeded = some kind) :
    ((session.handle request).1.of kind).names = .ofList request.names := by
  -- By what the request means, its names are recorded or it is ignored.
  have meaning := session.handled request
  generalize session.handle request = handled at heeded meaning
  cases meaning with
  | unknown _ => cases heeded
  | asked _ _ =>
    cases heeded
    rw [ask, of_update, if_pos rfl]
  | stale _ _ _ _ => cases heeded
  | @answered other sent _ _ _ _ _ =>
    -- An acknowledgement and a rejection are both about the kind that is asked for.
    have same : other = kind := by
      unfold answered at heeded
      split at heeded
      · exact Option.some.inj heeded
      · exact Option.some.inj heeded
    rw [← same, names_rename]

/-- Two sequences of calls that differ at most in the order and the repetition of the names asked
for leave a session in the same state after any number of calls and are told the same by each; the
resources that a subscriber gets for the names on record are those for the same names in any order
and however often each is listed; and what is on record after a request that is heeded are the names
that it asks for. -/
theorem requested_names_form_set (alike : List.Forall₂ Call.Alike calls calls')
    (session : Session) :
    (∀ count, session.run (calls.take count) = session.run (calls'.take count) ∧
      session.answerAfter count calls = session.answerAfter count calls') ∧
    (∀ count kind names resources,
      (∀ name, name ∈ names ↔ name ∈ ((session.run (calls'.take count)).of kind).names) →
      Wire.encode kind ((session.run (calls.take count)).of kind).names.items resources =
        Wire.encode kind names resources) ∧
    ∀ request kind, (session.handle request).2.heeded = some kind →
      ∀ name, name ∈ ((session.handle request).1.of kind).names ↔ name ∈ request.names := by
  -- After so many calls there is one state for both sequences, and all that is claimed depends on
  -- it.
  have states : ∀ count, session.run (calls.take count) = session.run (calls'.take count) :=
    fun count => run_congr (List.forall₂_take count alike) session
  refine ⟨fun count => ⟨states count, answerAfter_congr alike session count⟩,
    fun count kind names resources same => ?_, fun request kind heeded name => ?_⟩
  · -- In this state the names on record are listed in one way or another.
    rw [states count]
    exact Wire.encode_congr (fun name => (same name).symm) kind resources
  · rw [names_of_heeded heeded, OrderedSet.mem_ofList]

/-- A subscriber asks for the endpoints of clusters, is sent them, and answers with names again. -/
def asking (first again : List String) : List Call :=
  [.request ⟨ResourceKind.endpoint.typeUrl, "", first, none, none⟩, .next,
    .sent .endpoint 1 "a" ⟨0⟩, .request ⟨ResourceKind.endpoint.typeUrl, "a", again, none, none⟩]

/-- The endpoints of three clusters. -/
def threeAssignments : ResourceSet :=
  { assignments := [⟨"edge", []⟩, ⟨"core", []⟩, ⟨"spare", []⟩] }

/-- A subscriber that shuffles its names is in no other state at the end, gets the same resources,
and is sent nothing again. -/
theorem requested_names_form_set_asking :
    (new .default).run (asking ["edge", "core", "edge"] ["core", "edge"]) =
        (new .default).run (asking ["core", "edge"] ["edge", "core"]) ∧
      (new .default).answerAfter 3 (asking ["edge", "core", "edge"] ["core", "edge"]) =
        (new .default).answerAfter 3 (asking ["core", "edge"] ["edge", "core"]) ∧
      Wire.encode .endpoint (((new .default).run
          (asking ["edge", "core", "edge"] ["core", "edge"])).of .endpoint).names.items
          threeAssignments =
        Wire.encode .endpoint ["edge", "edge", "core"] threeAssignments ∧
      ((new .default).run (asking ["edge", "core", "edge"] ["core", "edge"])).pending = [] := by
  -- Only the two requests list names, and each lists the same ones in both sequences.
  have alike : List.Forall₂ Call.Alike (asking ["edge", "core", "edge"] ["core", "edge"])
      (asking ["core", "edge"] ["edge", "core"]) :=
    .cons (.names _ (by grind)) (.cons (.self _) (.cons (.self _)
      (.cons (.names _ (by grind)) .nil)))
  obtain ⟨steps, encoded, -⟩ := requested_names_form_set alike (new .default)
  -- What is on record is the set of the two names, however they were listed.
  have recorded : (((new .default).run
      ((asking ["core", "edge"] ["edge", "core"]).take 4)).of .endpoint).names =
        .ofList ["edge", "edge", "core"] := by decide
  refine ⟨(steps 4).1, (steps 3).2, encoded 4 .endpoint _ _ fun name => ?_, by decide⟩
  rw [recorded, OrderedSet.mem_ofList]

end Session

end ControlPlane
