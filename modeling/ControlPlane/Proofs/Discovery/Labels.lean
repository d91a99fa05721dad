import ControlPlane.Proofs.Discovery.History

/-! Which labels the cache knows: those published to, those watched, and those that someone has left
without letting go of them yet. -/

namespace ControlPlane.Cache

variable {label : Label} {operations : List Operation} {operation : Operation}

/-- Whether an operation after others ends the watch of a label under some name. -/
def Leaves (label : Label) (operations : List Operation) (operation : Operation) : Prop :=
  ∃ name, watched name operations = some label ∧
    operation.watch name (watched name operations) ≠ some label

/-- Whether someone has left a label, and nobody has let go of the label since. -/
def Lingers (label : Label) (operations : List Operation) : Prop :=
  ∃ early operation late, operations = early ++ operation :: late ∧
    Leaves label early operation ∧ .release label ∉ late

/-- Nobody has left a label before anything happened. -/
theorem not_lingers_nil (label : Label) : ¬ Lingers label [] := by
  -- There is no operation by which someone could have left.
  rintro ⟨early, operation, late, none, -⟩
  simp at none

/-- With one more operation a label lingers if it did before and is not let go of now, or if someone
leaves it now. -/
theorem lingers_concat_iff :
    Lingers label (operations ++ [operation]) ↔
      Lingers label operations ∧ operation ≠ .release label ∨
        Leaves label operations operation := by
  constructor
  · rintro ⟨early, left, late, parts, leaves, kept⟩
    -- Who left the label did so by the last operation or before it.
    rcases List.eq_nil_or_concat late with rfl | ⟨later, last, rfl⟩
    · -- It was the last operation itself.
      obtain ⟨rfl, same⟩ := List.append_inj' parts rfl
      cases same
      exact Or.inr leaves
    · -- It was before, and the last operation does not let go of the label.
      rw [List.concat_eq_append] at parts kept
      rw [← List.cons_append, ← List.append_assoc] at parts
      obtain ⟨rfl, same⟩ := List.append_inj' parts rfl
      cases same
      rw [List.mem_append, not_or, List.mem_singleton] at kept
      exact Or.inl ⟨⟨early, left, later, rfl, leaves, kept.1⟩, Ne.symm kept.2⟩
  · -- Whoever left before or leaves now gives the place at which the label was left.
    rintro (⟨⟨early, left, late, rfl, leaves, kept⟩, other⟩ | leaves)
    · refine ⟨early, left, late ++ [operation], by simp, leaves, ?_⟩
      rw [List.mem_append, not_or, List.mem_singleton]
      exact ⟨kept, Ne.symm other⟩
    · exact ⟨operations, operation, [], rfl, leaves, List.not_mem_nil⟩

/-- What is watched after operations and one more. -/
theorem watched_concat (name : String) (operations : List Operation) (operation : Operation) :
    watched name (operations ++ [operation]) = operation.watch name (watched name operations) := by
  simp [watched]

/-- A label that was watched is still watched, or someone leaves it now. -/
theorem watched_or_leaves {name : String} (watching : watched name operations = some label) :
    (∃ other, watched other (operations ++ [operation]) = some label) ∨
      Leaves label operations operation := by
  -- Either the same name still watches the label, or it is the one who leaves.
  by_cases stays : operation.watch name (watched name operations) = some label
  · exact Or.inl ⟨name, (watched_concat name operations operation).trans stays⟩
  · exact Or.inr ⟨name, watching, stays⟩

/-- A label that is watched was watched before, or the operation makes it known. -/
theorem watched_or_entered {name : String}
    (watching : watched name (operations ++ [operation]) = some label) :
    watched name operations = some label ∨ operation.entered = some label := by
  rw [watched_concat] at watching
  cases operation with
  | subscribe other found =>
    -- Only one who subscribes begins to watch.
    simp only [Operation.watch] at watching
    split at watching
    · exact Or.inr watching
    · exact Or.inl watching
  | unsubscribe other =>
    -- Ending to watch lets nobody begin.
    simp only [Operation.watch] at watching
    split at watching
    · cases watching
    · exact Or.inl watching
  | _ => exact Or.inl watching

/-- A label that is published to is made known. -/
theorem entered_of_published (published : operation.published label ≠ none) :
    operation.entered = some label := by
  -- Publishing is the only operation by which something is published.
  cases operation with
  | publish other resources => simpa [Operation.published, Operation.entered] using published
  | _ => exact absurd rfl published

/-- A label that is made known without being asked for is published to or watched then. -/
theorem published_or_watched_of_entered (asked : operation ≠ .snapshot label)
    (entered : operation.entered = some label) :
    operation.published label ≠ none ∨
      ∃ name, watched name (operations ++ [operation]) = some label := by
  -- The operation is one of the three that make a label known, and the question is ruled out.
  cases operation with
  | publish other resources => cases entered; exact Or.inl (by simp [Operation.published])
  | snapshot other => cases entered; exact absurd rfl asked
  | subscribe name other =>
    -- Whoever subscribes watches the label from then on.
    cases entered
    exact Or.inr ⟨name, by simp [watched_concat, Operation.watch]⟩
  | _ => cases entered

/-- After any operations but direct questions, in whatever order publications, arrivals, departures
and releases come, a label is known exactly if it was published to, or is watched, or someone has
left it and not let go of it yet. -/
theorem mem_labels_run (asked : ∀ label, .snapshot label ∉ operations) :
    label ∈ (empty.run operations).labels ↔ publications label operations ≠ [] ∨
      (∃ name, watched name operations = some label) ∨ Lingers label operations := by
  -- The induction is on the operations, with one more at the end.
  induction operations using List.reverseRecOn with
  | nil =>
    -- At first no label is known, and there is no reason to know one.
    have unknown : label ∉ (empty.run []).labels := List.not_mem_nil
    simp [unknown, publications, watched, not_lingers_nil]
  | append_singleton operations operation ih =>
    have known := ih fun other member => asked other (List.mem_append_left _ member)
    have unasked : operation ≠ .snapshot label := fun same =>
      asked label (List.mem_append_right _ (same ▸ List.mem_singleton_self _))
    have last : empty.run (operations ++ [operation]) =
        ((empty.run operations).operate operation).1 := run_append ..
    -- What the cache knows after one more operation depends on the label's being idle by now.
    rw [last, mem_labels_operate, (recorded_run operations).isIdle label, known, lingers_concat_iff]
    by_cases released : operation = .release label
    · -- Letting go of a label forgets it unless it was published to or someone watches it.
      subst released
      have still : ∀ name, watched name (operations ++ [.release label]) = watched name operations :=
        fun name => watched_concat name operations _
      -- Nobody leaves a label by letting go of it.
      have stay : ¬ Leaves label operations (.release label) := by
        rintro ⟨_, watching, moved⟩
        exact moved watching
      simp only [publications_concat, still, stay, Operation.entered, Operation.published,
        Option.toList_none, List.append_nil, ← not_exists, reduceCtorEq, false_or, true_and, ne_eq,
        not_true_eq_false, and_false, or_false]
      constructor
      · -- A label that stays known is not idle, so something was published or someone watches.
        rintro ⟨known, kept⟩
        by_contra neither
        obtain ⟨unpublished, unwatched⟩ := not_or.mp neither
        exact kept ⟨known, not_not.mp unpublished, unwatched⟩
      · -- What was published to or is watched is not idle, and stays.
        rintro (published | watching)
        · refine ⟨Or.inl published, ?_⟩
          rintro ⟨_, nothing, _⟩
          exact published nothing
        · refine ⟨Or.inr (Or.inl watching), ?_⟩
          rintro ⟨_, _, nobody⟩
          exact nobody watching
    · -- Any other operation forgets nothing; it may publish to the label, or begin or end a watch.
      have published : publications label (operations ++ [operation]) ≠ [] ↔
          publications label operations ≠ [] ∨ operation.published label ≠ none := by
        rw [publications_concat]
        cases operation.published label <;> simp
      simp only [released, false_and, not_false_eq_true, and_true, ne_eq, published]
      constructor
      · -- A known label has one of the three reasons, before the operation or by it.
        rintro (entered | known | ⟨name, watching⟩ | lingers)
        · exact (published_or_watched_of_entered unasked entered).imp Or.inr Or.inl
        · exact Or.inl (Or.inl known)
        · exact Or.inr ((watched_or_leaves watching).imp_right Or.inr)
        · exact Or.inr (Or.inr (Or.inl lingers))
      · -- Each reason makes the label known, now or before.
        rintro ((before | now) | ⟨name, watching⟩ | lingers | ⟨name, watching, -⟩)
        · exact Or.inr (Or.inl before)
        · exact Or.inl (entered_of_published now)
        · exact (watched_or_entered watching).symm.imp_right fun before =>
            Or.inr (Or.inl ⟨name, before⟩)
        · exact Or.inr (Or.inr (Or.inr lingers))
        · exact Or.inr (Or.inr (Or.inl ⟨name, watching⟩))

/-! Those who come, look and go in their own time leave no label behind. -/

/-- Whether everyone who left a label has let go of it. -/
def Settled (operations : List Operation) : Prop := ∀ label, ¬ Lingers label operations

/-- At first nobody has left a label. -/
theorem settled_nil : Settled [] := not_lingers_nil

/-- An operation by which nobody leaves a label keeps it so. -/
theorem Settled.concat (settled : Settled operations)
    (stay : ∀ label, ¬ Leaves label operations operation) :
    -- A label that lingers did so before, or someone leaves it now.
    Settled (operations ++ [operation]) := by
  intro label lingers
  rcases lingers_concat_iff.mp lingers with ⟨before, -⟩ | leaves
  · exact settled label before
  · exact stay label leaves

/-- One who leaves a label and lets go of it keeps it so. -/
theorem Settled.leave {name : String} (settled : Settled operations)
    (watching : watched name operations = some label) :
    Settled (operations ++ [.unsubscribe name] ++ [.release label]) := by
  -- The last operation lets go of one label, and the one before it leaves one.
  intro other lingers
  rcases lingers_concat_iff.mp lingers with ⟨before, kept⟩ | ⟨_, still, moved⟩
  · -- The label that was left is the one that is let go of.
    rcases lingers_concat_iff.mp before with ⟨earlier, -⟩ | ⟨leaver, held, moved⟩
    · -- Only the one who unsubscribes moves, and from the label that is let go of.
      exact settled other earlier
    · simp only [Operation.watch] at moved
      by_cases same : name = leaver
      · subst same
        cases watching.symm.trans held
        exact kept rfl
      · rw [if_neg same] at moved
        exact moved held
  · -- By letting go of a label nobody moves.
    exact moved still

/-- What someone does with the cache who watches a label at first and another, or none, at last. -/
inductive Visits (name : String) : Option Label → List Operation → Option Label → Prop where
  | stays {label : Option Label} : Visits name label [] label
  | looks {first last : Option Label} {rest : List Operation}
    (later : Visits name first rest last) :
    Visits name first (.look name :: rest) last
  | comes {label : Label} {last : Option Label} {rest : List Operation}
    (later : Visits name (some label) rest last) :
    Visits name none (.subscribe name label :: rest) last
  | goes {label : Label} {last : Option Label} {rest : List Operation}
    (later : Visits name none rest last) :
    Visits name (some label) (.unsubscribe name :: .release label :: rest) last

/-- Whether operations after others ask nothing directly, leave nobody's label behind, and move one
who watches to a label, or to none. -/
structure Moves (name : String) (operations more : List Operation) (last : Option Label) :
    Prop where
  unasked : ∀ label, .snapshot label ∉ more
  watched : watched name (operations ++ more) = last
  others : ∀ other, other ≠ name →
    Cache.watched other (operations ++ more) = Cache.watched other operations
  settled : Settled operations → Settled (operations ++ more)

/-- One who does nothing stays. -/
theorem moves_nil (name : String) (operations : List Operation) :
    Moves name operations [] (watched name operations) where
  unasked _ := List.not_mem_nil
  watched := by rw [List.append_nil]
  others _ _ := by rw [List.append_nil]
  settled before := by rwa [List.append_nil]

/-- One who moves twice has moved. -/
theorem Moves.append {name : String} {first more : List Operation} {middle last : Option Label}
    (early : Moves name operations first middle)
    (late : Moves name (operations ++ first) more last) :
    Moves name operations (first ++ more) last where
  unasked label member :=
    (List.mem_append.mp member).elim (early.unasked label) (late.unasked label)
  watched := by rw [← List.append_assoc, late.watched]
  others other apart := by
    rw [← List.append_assoc, late.others other apart, early.others other apart]
  settled before := by
    rw [← List.append_assoc]
    exact late.settled (early.settled before)

/-- One who looks stays. -/
theorem moves_look (name : String) (operations : List Operation) :
    Moves name operations [.look name] (watched name operations) where
  unasked := by simp
  watched := watched_concat ..
  others _ _ := watched_concat ..
  settled before := before.concat fun _ ⟨_, watching, moved⟩ => moved watching

/-- One who watched nothing and subscribes comes to a label. -/
theorem moves_subscribe {name : String} (label : Label) (start : watched name operations = none) :
    Moves name operations [.subscribe name label] (some label) where
  unasked := by simp
  watched := by rw [watched_concat, Operation.watch, if_pos rfl]
  others other apart := by rw [watched_concat, Operation.watch, if_neg apart.symm]
  settled before := by
    -- Nobody leaves a label by coming.
    refine before.concat fun other leaves => ?_
    obtain ⟨leaver, watching, moved⟩ := leaves
    by_cases same : name = leaver
    · subst same
      cases start.symm.trans watching
    · exact moved ((if_neg same).trans watching)

/-- One who unsubscribes from a label and lets go of it has gone. -/
theorem moves_leave {name : String} (start : watched name operations = some label) :
    Moves name operations [.unsubscribe name, .release label] none := by
  -- The two operations come one after the other.
  have parts : operations ++ [.unsubscribe name, .release label] =
      operations ++ [.unsubscribe name] ++ [.release label] := by simp
  constructor
  · simp
  · rw [parts, watched_concat, watched_concat]
    exact if_pos rfl
  · intro other apart
    rw [parts, watched_concat, watched_concat]
    exact if_neg apart.symm
  · -- The label that is left is let go of right away.
    rw [parts]
    exact fun before => before.leave start

/-- Whatever one does who visits the cache, it moves nobody else and leaves no label behind. -/
theorem Visits.moves {name : String} {first last : Option Label} {more : List Operation}
    (visits : Visits name first more last) (start : watched name operations = first) :
    Moves name operations more last := by
  -- The induction is on the visit, with any operations before it.
  induction visits generalizing operations with
  | stays =>
    exact start ▸ moves_nil name operations
  | looks _ ih =>
    -- Looking keeps the label, and the rest of the visit goes on from it.
    have looked := moves_look name operations
    exact looked.append (ih (looked.watched.trans start))
  | @comes label _ _ _ ih =>
    -- The rest of the visit begins at the label that is come to.
    have came := moves_subscribe label start
    exact came.append (ih came.watched)
  | goes _ ih =>
    -- The rest of the visit begins at no label.
    have gone := moves_leave start
    exact gone.append (ih gone.watched)

/-- Publications move nobody, and leave no label behind. -/
theorem moves_publish (name : String) {more : List Operation}
    (publish : ∀ operation ∈ more, ∃ label resources, operation = .publish label resources) :
    Moves name operations more (watched name operations) := by
  -- The induction is on the publications, with any operations before them.
  induction more generalizing operations with
  | nil =>
    exact moves_nil name operations
  | cons operation rest ih =>
    obtain ⟨label, resources, rfl⟩ := publish operation List.mem_cons_self
    -- One publication neither begins nor ends a watch.
    have one : Moves name operations [.publish label resources] (watched name operations) :=
      ⟨by simp, watched_concat .., fun _ _ => watched_concat ..,
        fun settled => settled.concat fun _ ⟨_, watching, moved⟩ => moved watching⟩
    have others : Moves name (operations ++ [.publish label resources]) rest _ :=
      ih fun later member => publish later (List.mem_cons_of_mem _ member)
    exact one.append (one.watched ▸ others)

end ControlPlane.Cache
