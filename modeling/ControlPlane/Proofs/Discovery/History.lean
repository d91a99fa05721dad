import Mathlib.Data.List.DropRight
import ControlPlane.Proofs.Discovery.Slots

/-! The answers of the cache, from what was asked of it before: no order of operations restarts a
version or leaves a watcher behind. -/

namespace ControlPlane.Cache

/-- The resources that an operation publishes to a label. -/
def Operation.published (label : Label) : Operation → Option ResourceSet
  | .publish other resources => if other = label then some resources else none
  | _ => none

/-- The label that an operation makes known, if it is not known already. -/
def Operation.entered : Operation → Option Label
  | .publish label _ | .snapshot label | .subscribe _ label => some label
  | _ => none

/-- The name under which an operation watches, looks or ends to watch. -/
def Operation.watcher? : Operation → Option String
  | .subscribe name _ | .look name | .unsubscribe name => some name
  | _ => none

/-- The label that is watched under a name after an operation, given the one watched before. -/
def Operation.watch (name : String) (watching : Option Label) : Operation → Option Label
  | .subscribe other label => if other = name then some label else watching
  | .unsubscribe other => if other = name then none else watching
  | _ => watching

/-- The resources that operations publish to a label, in their order. -/
def publications (label : Label) (operations : List Operation) : List ResourceSet :=
  operations.filterMap (Operation.published label)

/-- What operations leave a label with: the resources published last, and how many there were. -/
def newest (label : Label) (operations : List Operation) : Snapshot :=
  ⟨label, (publications label operations).length,
    (publications label operations).getLast?.getD .empty⟩

/-- The label that operations leave a name watching. -/
def watched (name : String) (operations : List Operation) : Option Label :=
  operations.foldl (Operation.watch name) none

/-- The operations up to the last one under a name. -/
def upTo (name : String) (operations : List Operation) : List Operation :=
  operations.rdropWhile fun operation => operation.watcher? ≠ some name

/-- The operations after the last one under a name. -/
def since (name : String) (operations : List Operation) : List Operation :=
  operations.rtakeWhile fun operation => operation.watcher? ≠ some name

variable {label : Label} {name : String}

/-- What is published by operations and one more. -/
theorem publications_concat (operations : List Operation) (operation : Operation) :
    publications label (operations ++ [operation]) =
      publications label operations ++ (operation.published label).toList := by
  -- The operations are filtered in their order, and the last one adds at most its own resources.
  simp only [publications, List.filterMap_append, List.filterMap_cons, List.filterMap_nil]
  cases operation.published label <;> rfl

/-- A publication is counted, and brings its resources; any other operation leaves a label as it
is. -/
theorem newest_concat (operations : List Operation) (operation : Operation) :
    newest label (operations ++ [operation]) = match operation.published label with
      | some resources => ⟨label, (newest label operations).version + 1, resources⟩
      | none => newest label operations := by
  -- The number of publications is the version, and the last publication has the resources.
  simp only [newest, publications_concat]
  cases operation.published label <;> simp

/-- Every operation stands up to the last one under a name or after it. -/
theorem upTo_append_since (name : String) (operations : List Operation) :
    upTo name operations ++ since name operations = operations := by
  -- The list is cut once from its end.
  simp [upTo, since, List.rdropWhile, List.rtakeWhile, ← List.reverse_append]

/-- An operation does to the current snapshots what it publishes. -/
theorem current_operate (cache : Cache) (operation : Operation) (label : Label) :
    (cache.operate operation).1.current label = match operation.published label with
      | some resources => ⟨label, (cache.current label).version + 1, resources⟩
      | none => cache.current label := by
  -- Publishing alone changes what is current, and only for its own label.
  cases operation with
  | publish other resources =>
    simp only [operate, current_publish, Operation.published]
    split
    · rename_i same; subst same; rfl
    · rfl
  | snapshot other => exact cache.current_touch other label
  | subscribe name other => exact cache.current_subscribe name other label
  | look name => exact cache.current_look name label
  | unsubscribe name => exact cache.current_unsubscribe name label
  | release other => exact cache.current_release other label
  | labels => rfl

/-- Operations one after the other are operations first and then operations. -/
theorem run_append (cache : Cache) (first later : List Operation) :
    cache.run (first ++ later) = (cache.run first).run later := List.foldl_append ..

/-- After operations a label has the resources published to it last, at a version that has grown by
the number of publications. -/
theorem current_run (cache : Cache) (operations : List Operation) (label : Label) :
    (cache.run operations).current label =
      ⟨label, (cache.current label).version + (publications label operations).length,
        (publications label operations).getLast?.getD (cache.current label).resources⟩ := by
  -- The induction is on the operations from the last one backwards, as this decides what is
  -- current.
  induction operations using List.reverseRecOn with
  | nil => exact (cache.mk_current label).symm
  | append_singleton operations operation ih =>
    -- The last operation publishes to the label, or it leaves the label as it is.
    rw [run_append, publications_concat]
    refine (current_operate _ operation label).trans ?_
    rw [ih]
    cases operation.published label <;> simp [Nat.add_assoc]

/-- Operations take no label back to an earlier version. -/
theorem advances_run (cache : Cache) (operations : List Operation) :
    cache.Advances (cache.run operations) := by
  intro label
  rw [current_run]
  -- Without a publication nothing changes, and each publication counts.
  cases publications label operations with
  | nil => exact Or.inr (cache.mk_current label)
  | cons first rest => exact Or.inl (Nat.lt_add_of_pos_right (Nat.succ_pos _))

/-- An operation under a name settles what is watched under it, at the current version; any other
leaves it alone. -/
theorem get?_watchers_operate (cache : Cache) (operation : Operation) (name : String) :
    (cache.operate operation).1.watchers.get? name =
      if operation.watcher? = some name then
        (operation.watch name ((cache.watchers.get? name).map Watcher.label)).map fun label =>
          ⟨label, (cache.current label).version⟩
      else cache.watchers.get? name := by
  -- Only those who watch, look or end to watch change what is recorded under a name.
  cases operation with
  | publish other resources => rfl
  | snapshot other => rfl
  | subscribe other label =>
    simp only [operate, subscribe, OrderedMap.get?_insert, Operation.watcher?, Option.some.injEq,
      Operation.watch]
    split <;> rfl
  | look other =>
    -- One who looks still watches the same label, if any.
    simp only [operate, get?_watchers_look, Operation.watcher?, Option.some.injEq,
      Operation.watch, Option.map_map]
    split
    · rename_i same; subst same; rfl
    · rfl
  | unsubscribe other =>
    simp only [operate, unsubscribe, OrderedMap.get?_erase, Operation.watcher?, Option.some.injEq,
      Operation.watch]
    split <;> rfl
  | release other => exact congrArg (·.get? name) (cache.watchers_release other)
  | labels => rfl

/-- Whether a cache is what operations make of it: every label has what was published to it last,
and every watcher has seen what was published until its last operation. -/
structure Recorded (cache : Cache) (operations : List Operation) : Prop where
  current : ∀ label, cache.current label = newest label operations
  watchers : ∀ name, cache.watchers.get? name = (watched name operations).map fun label =>
    ⟨label, (publications label (upTo name operations)).length⟩

/-- At first nothing was asked of the cache. -/
theorem recorded_empty : Recorded .empty [] where
  current _ := rfl
  watchers _ := rfl

/-- One more operation is recorded as it is carried out. -/
theorem Recorded.concat {cache : Cache} {operations : List Operation}
    (recorded : cache.Recorded operations) (operation : Operation) :
    (cache.operate operation).1.Recorded (operations ++ [operation]) where
  -- The snapshot of a label changes as the newest publication does.
  current label := by rw [current_operate, newest_concat, recorded.current]
  watchers name := by
    have watching : watched name (operations ++ [operation]) =
        operation.watch name (watched name operations) := by simp [watched]
    rw [get?_watchers_operate, watching, upTo, List.rdropWhile_concat]
    by_cases own : operation.watcher? = some name
    · -- The watcher has now seen everything, and the operation publishes nothing itself.
      have silent : ∀ label, operation.published label = none := by
        intro label
        cases operation <;> first | rfl | cases own
      have labels : (cache.watchers.get? name).map Watcher.label = watched name operations := by
        rw [recorded.watchers, Option.map_map]
        exact Option.map_id'
      rw [if_pos own, labels, if_neg (by simpa using own)]
      refine congrArg (Option.map · _) (funext fun label => ?_)
      rw [recorded.current, publications_concat, silent]
      simp [newest]
    · -- What another name does leaves this one where it was.
      have kept : operation.watch name (watched name operations) = watched name operations := by
        cases operation <;> simp_all [Operation.watch, Operation.watcher?]
      rw [if_neg own, kept, if_pos (by simpa using own)]
      exact recorded.watchers name

/-- After any operations the cache is what they make of it. -/
theorem recorded_run (operations : List Operation) :
    (Cache.empty.run operations).Recorded operations := by
  -- The last operation is carried out on what the others have made.
  induction operations using List.reverseRecOn with
  | nil => exact recorded_empty
  | append_singleton operations operation ih => simpa [run] using ih.concat operation

/-- A watcher has something new to look at exactly if its label was published to since it last did
anything. -/
theorem Recorded.hasNews {cache : Cache} {operations : List Operation}
    (recorded : cache.Recorded operations) (name : String) (label : Label) :
    cache.hasNews ⟨label, (publications label (upTo name operations)).length⟩ =
      decide (publications label (since name operations) ≠ []) := by
  -- What was published in all was published up to then or after it.
  have total : (publications label operations).length =
      (publications label (upTo name operations)).length +
        (publications label (since name operations)).length := by
    rw [← List.length_append, publications, publications, publications, ← List.filterMap_append,
      upTo_append_since]
  -- The version that was seen counts those up to then, so a greater one shows those since.
  rw [Cache.hasNews, recorded.current, Bool.eq_iff_iff]
  simp only [newest, total, bne_iff_ne, ne_eq, Nat.add_eq_left, List.length_eq_zero_iff,
    decide_eq_true_eq]

/-- A label is watched if it is what some name watches. -/
theorem Recorded.isWatched {cache : Cache} {operations : List Operation}
    (recorded : cache.Recorded operations) (label : Label) :
    cache.isWatched label = true ↔ ∃ name, watched name operations = some label := by
  -- There is an entry among the watchers just if there is a name under which it stands.
  simp only [Cache.isWatched, List.any_eq_true, OrderedMap.mem_values, decide_eq_true_eq]
  constructor
  · -- A watcher of the label is on record under its name.
    rintro ⟨watcher, ⟨name, watching⟩, same⟩
    rw [recorded.watchers] at watching
    obtain ⟨_, found, rfl⟩ := Option.map_eq_some_iff.mp watching
    exact ⟨name, found.trans (congrArg some same)⟩
  · rintro ⟨name, found⟩
    exact ⟨_, ⟨name, by rw [recorded.watchers, found]; rfl⟩, rfl⟩

/-- A label is idle exactly if it is known, was never published to, and nobody watches it. -/
theorem Recorded.isIdle {cache : Cache} {operations : List Operation}
    (recorded : cache.Recorded operations) (label : Label) :
    cache.isIdle label = true ↔ label ∈ cache.labels ∧ publications label operations = [] ∧
      ∀ name, watched name operations ≠ some label := by
  -- Nobody watches a label just if it is not watched under any name.
  have unwatched : (∀ name, watched name operations ≠ some label) ↔
      cache.isWatched label = false := by
    rw [← Bool.not_eq_true, recorded.isWatched label, not_exists]
  rw [unwatched, Cache.labels, OrderedMap.mem_keys]
  unfold Cache.isIdle
  cases known : cache.snapshots.get? label with
  | none => simp
  | some snapshot =>
    -- The snapshot of a known label is the current one, whose version counts the publications.
    have current : snapshot = newest label operations := by
      rw [← recorded.current, Cache.current, known]
      rfl
    simp [current, newest]

/-- What is put into the cache makes its label known, and no label unknown. -/
theorem mem_labels_put {cache : Cache} {other : Label} {snapshot : Snapshot}
    (filed : snapshot.Filed other) :
    label ∈ (cache.put other snapshot filed).labels ↔ other = label ∨ label ∈ cache.labels := by
  -- What is put stands under its own label, and under the others stands what stood there.
  simp only [labels, OrderedMap.mem_keys, get?_put]
  by_cases same : other = label <;> simp [same]

/-- A label is known after an operation that enters it, or if it was known before and is not
forgotten, which only the release of an idle label does. -/
theorem mem_labels_operate (cache : Cache) (operation : Operation) (label : Label) :
    label ∈ (cache.operate operation).1.labels ↔ operation.entered = some label ∨
      label ∈ cache.labels ∧ ¬ (operation = .release label ∧ cache.isIdle label = true) := by
  -- The operations differ in what they put and in what they erase.
  cases operation with
  | publish other resources =>
    have filed : Snapshot.Filed other ⟨other, (cache.current other).version + 1, resources⟩ :=
      ⟨rfl, by simp⟩
    refine (mem_labels_put filed).trans ?_
    simp [Operation.entered]
  | snapshot other =>
    refine (mem_labels_put (cache.filed_current other)).trans ?_
    simp [Operation.entered]
  | subscribe name other =>
    refine (mem_labels_put (cache.filed_current other)).trans ?_
    simp [Operation.entered]
  | look name =>
    -- Looking concerns the watchers alone.
    have same : (cache.look name).labels = cache.labels := by unfold look; split <;> rfl
    simp [operate, same, Operation.entered]
  | unsubscribe name =>
    have same : (cache.unsubscribe name).labels = cache.labels := rfl
    simp [operate, same, Operation.entered]
  | labels => simp [operate, Operation.entered]
  | release other =>
    simp only [operate, release, Operation.release.injEq, Operation.entered]
    split
    · -- The label that is released is erased, and no other.
      rename_i idle
      simp only [labels, OrderedMap.mem_keys, OrderedMap.get?_erase]
      by_cases same : other = label
      · subst same; simp [idle]
      · simp [same]
    · rename_i busy
      simp only [reduceCtorEq, false_or]
      refine ⟨fun known => ⟨known, ?_⟩, And.left⟩
      rintro ⟨rfl, idle⟩
      exact busy idle

/-- After any operations, of any number of publishers and watchers, on any labels: a label has the
resources published to it last, at a version that counts them; a watcher has something new exactly
if its label was published to since it last looked; a label that was published to, asked for or
watched stays known until it is released while nothing was ever published to it and nobody watches
it; and the channels answer as the cache does, with every watcher on the channel of its label. -/
theorem answers_run (before : List Operation) :
    let cache := empty.run before
    let slots := Slots.run {} before
    (∀ label resources, (cache.operate (.publish label resources)).2 =
      .snapshot ⟨label, (publications label before).length + 1, resources⟩) ∧
    (∀ label, (cache.operate (.snapshot label)).2 = .snapshot (newest label before)) ∧
    (∀ name label, (cache.operate (.subscribe name label)).2 = .snapshot (newest label before)) ∧
    (∀ name, (cache.operate (.look name)).2 = .seen ((watched name before).map fun label =>
      (decide (publications label (since name before) ≠ []), newest label before))) ∧
    (∀ label, (cache.operate (.release label)).2 = .gone true ↔
      label ∈ cache.labels ∧ publications label before = [] ∧
        ∀ name, watched name before ≠ some label) ∧
    (∀ operation label, label ∈ (cache.operate operation).1.labels ↔
      operation.entered = some label ∨ label ∈ cache.labels ∧ ¬ (operation = .release label ∧
        publications label before = [] ∧ ∀ name, watched name before ≠ some label)) ∧
    (∀ operation, (slots.operate operation).2 = (cache.operate operation).2) ∧
    ∀ name label, watched name before = some label → ∃ receiver,
      slots.receivers.get? name = some receiver ∧
        slots.slots.get? label = some receiver.channel := by
  intro cache slots
  -- The cache is what the operations make of it, and the channels mirror it.
  have recorded : cache.Recorded before := recorded_run before
  have mirrors : slots.Mirrors cache := Slots.mirrors_empty.run before
  refine ⟨fun label resources => ?_, fun label => ?_, fun name label => ?_, fun name => ?_,
    fun label => ?_, fun operation label => ?_, fun operation => ?_,
    fun name label watching => ?_⟩
  · simp only [operate, current_publish, recorded.current, if_true]
    rfl
  · exact congrArg Answer.snapshot (recorded.current label)
  · exact congrArg Answer.snapshot (recorded.current label)
  · simp only [operate, recorded.watchers, Option.map_map]
    refine congrArg (fun news => Answer.seen (Option.map news _)) (funext fun label => ?_)
    exact Prod.ext (recorded.hasNews name label) (recorded.current label)
  · rw [← recorded.isIdle label]
    simp [operate]
  · rw [mem_labels_operate, recorded.isIdle label]
    -- Only of a known label it matters whether it is idle.
    refine or_congr_right (and_congr_right fun known => not_congr (and_congr_right fun _ => ?_))
    exact and_iff_right known
  · exact (mirrors.operate operation).2
  · -- The watcher holds some channel, and that channel is the one of its label.
    have watcher := recorded.watchers name
    rw [watching, mirrors.watchers] at watcher
    obtain ⟨receiver, held, same⟩ := Option.map_eq_some_iff.mp watcher
    have labels : (slots.channel receiver.channel).value.label = label :=
      congrArg Watcher.label same
    exact ⟨receiver, held, labels ▸ mirrors.attached held⟩

end ControlPlane.Cache
