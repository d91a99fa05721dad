import Mathlib.Data.List.Forall2

/-! Computations that may fail, alone or one after the other: what their success tells. -/

namespace ControlPlane

variable {α β ε : Type}

/-- The result of a computation that was carried on is made from the result that it had. -/
theorem exists_of_map_eq_ok {computation : Except ε α} {make : α → β} {result : β}
    (success : computation.map make = .ok result) :
    ∃ value, computation = .ok value ∧ make value = result := by
  -- A computation that fails is not carried on.
  cases computation with
  | error fault => cases success
  | ok value => exact ⟨value, rfl, Except.ok.inj success⟩

/-- A computation that is carried on succeeds if it did so before. -/
theorem map_succeeds_iff {computation : Except ε α} {make : α → β} :
    -- Only the result of a success is changed.
    (∃ result, computation.map make = .ok result) ↔ ∃ value, computation = .ok value := by
  cases computation with
  | error fault => simp [Except.map]
  | ok value => simp [Except.map]

/-- A computation that is carried on fails as it did before. -/
theorem map_eq_error_iff {computation : Except ε α} {make : α → β} {fault : ε} :
    -- A fault is passed on as it is.
    computation.map make = .error fault ↔ computation = .error fault := by
  cases computation with
  | error fault => simp [Except.map]
  | ok value => simp [Except.map]

/-- A computation of which only success counts has a result if it succeeds. -/
theorem toOption_eq_some_iff {computation : Except ε α} {value : α} :
    computation.toOption = some value ↔ computation = .ok value := by
  cases computation with
  | error fault => simp [Except.toOption]
  | ok value => simp [Except.toOption]

/-- A computation that goes on after another succeeds if both do. -/
theorem bind_eq_ok_iff {computation : Except ε α} {next : α → Except ε β} {result : β} :
    (computation >>= next) = .ok result ↔
      -- After a failure nothing goes on, and after a success the next one decides.
      ∃ value, computation = .ok value ∧ next value = .ok result := by
  cases computation with
  | error fault => simp [bind, Except.bind]
  | ok value => simp [bind, Except.bind]

/-- A computation that begins with a check succeeds if nothing is found and the rest does. -/
theorem guarded_eq_ok_iff {found : Prop} [Decidable found] {fault : ε} {next : PUnit → Except ε β}
    {rest : Except ε β} {result : β} :
    (if found then throw fault >>= next else rest) = .ok result ↔ ¬found ∧ rest = .ok result := by
  -- If something is found, the check throws and nothing comes of the rest.
  by_cases given : found
  · simp [given, throw, throwThe, MonadExceptOf.throw, bind, Except.bind]
  · simp [given]

/-- Computations of a list succeed if the first one does and the others do. -/
theorem mapM_cons_eq_ok_iff {compute : α → Except ε β} {input : α} {rest : List α}
    {results : List β} :
    (input :: rest).mapM compute = .ok results ↔
      ∃ result others, compute input = .ok result ∧ rest.mapM compute = .ok others ∧
        results = result :: others := by
  rw [List.mapM_cons]
  -- The first one fails, or one of the others does, or all have results.
  cases compute input with
  | error fault => simp [bind, Except.bind]
  | ok result =>
    cases rest.mapM compute with
    | error fault => simp [bind, Except.bind]
    | ok others => simp [bind, Except.bind, pure, Except.pure, eq_comm]

/-- If all computations of a list succeed, each of their results stands at its place. -/
theorem forall₂_of_mapM {compute : α → Except ε β} {inputs : List α} {results : List β}
    (success : inputs.mapM compute = .ok results) :
    List.Forall₂ (fun input result => compute input = .ok result) inputs results := by
  -- The induction is on the inputs, with the results that belong to them.
  induction inputs generalizing results with
  | nil =>
    rw [List.mapM_nil] at success
    cases success
    exact .nil
  | cons input rest ih =>
    -- The first computation succeeds, and so do the others after it.
    obtain ⟨result, others, first, later, rfl⟩ := mapM_cons_eq_ok_iff.mp success
    exact .cons first (ih later)

/-- Each result of computations that all succeed is that of one of the inputs. -/
theorem exists_of_mapM {compute : α → Except ε β} {inputs : List α} {results : List β}
    (success : inputs.mapM compute = .ok results) {result : β} (member : result ∈ results) :
    ∃ input ∈ inputs, compute input = .ok result := by
  -- The induction is on the pairs of an input and its result, not on the computation.
  have pairs := forall₂_of_mapM success
  clear success
  induction pairs with
  | nil => exact absurd member List.not_mem_nil
  | cons here _ ih =>
    rcases List.mem_cons.mp member with same | later
    · exact ⟨_, List.mem_cons_self, same ▸ here⟩
    · obtain ⟨input, among, computed⟩ := ih later
      exact ⟨input, List.mem_cons_of_mem _ among, computed⟩

/-- Each input of computations that all succeed has its result among the results. -/
theorem result_of_mapM {compute : α → Except ε β} {inputs : List α} {results : List β}
    (success : inputs.mapM compute = .ok results) {input : α} (member : input ∈ inputs) :
    ∃ result ∈ results, compute input = .ok result := by
  -- As above, but the pair is found by its input.
  have pairs := forall₂_of_mapM success
  clear success
  induction pairs with
  | nil => exact absurd member List.not_mem_nil
  | cons here _ ih =>
    rcases List.mem_cons.mp member with same | later
    · exact ⟨_, List.mem_cons_self, same ▸ here⟩
    · obtain ⟨result, among, computed⟩ := ih later
      exact ⟨result, List.mem_cons_of_mem _ among, computed⟩

/-- What is kept of the results of computations that all succeed is made of the inputs in their
order, if it is so for each result. -/
theorem filterMap_of_mapM {γ : Type} {compute : α → Except ε β} {keep : β → Option γ}
    {make : α → Option γ}
    (same : ∀ input result, compute input = .ok result → keep result = make input)
    {inputs : List α} {results : List β} (success : inputs.mapM compute = .ok results) :
    results.filterMap keep = inputs.filterMap make := by
  -- As before, the induction is on the pairs of an input and its result.
  have pairs := forall₂_of_mapM success
  clear success
  induction pairs with
  | nil => rfl
  | cons here _ ih =>
    -- Both lists go on with the first one's result, or neither does.
    rw [List.filterMap_cons, List.filterMap_cons, same _ _ here, ih]

/-- What is seen of the results is made of the inputs, if each result shows what its input makes. -/
theorem map_of_mapM {γ : Type} {compute : α → Except ε β} {view : β → γ} {make : α → γ}
    (same : ∀ input result, compute input = .ok result → view result = make input)
    {inputs : List α} {results : List β} (success : inputs.mapM compute = .ok results) :
    results.map view = inputs.map make := by
  -- A map is a filter that keeps everything.
  rw [← List.filterMap_eq_map, ← List.filterMap_eq_map]
  apply filterMap_of_mapM _ success
  exact fun input result done => congrArg Option.some (same input result done)

/-- Computations of a list fail together if one of them fails, wherever it stands. -/
theorem mapM_fails_iff {compute : α → Except ε β} {inputs : List α} :
    (∃ fault, inputs.mapM compute = .error fault) ↔
      ∃ input ∈ inputs, ∃ fault, compute input = .error fault := by
  -- The induction is on the inputs.
  induction inputs with
  | nil => simp [pure, Except.pure]
  | cons input rest ih =>
    rw [List.mapM_cons]
    -- The first one decides, or it succeeds and leaves it to the rest.
    cases first : compute input with
    | error fault => simp [bind, Except.bind, first]
    | ok result =>
      cases others : rest.mapM compute with
      | error fault => simp_all [bind, Except.bind]
      | ok results => simp_all [bind, Except.bind, pure, Except.pure]

/-- Computations of a list succeed if each of them does. -/
theorem mapM_succeeds_iff {compute : α → Except ε β} {inputs : List α} :
    (∃ results, inputs.mapM compute = .ok results) ↔
      ∀ input ∈ inputs, ∃ result, compute input = .ok result := by
  constructor
  · -- If all succeed together, each of them has its result.
    rintro ⟨results, success⟩ input member
    obtain ⟨result, _, computed⟩ := result_of_mapM success member
    exact ⟨result, computed⟩
  · intro all
    cases outcome : inputs.mapM compute with
    | ok results => exact ⟨results, rfl⟩
    | error fault =>
      -- Then one of them would fail, but it succeeds.
      obtain ⟨input, member, fault, fails⟩ := mapM_fails_iff.mp ⟨fault, outcome⟩
      obtain ⟨result, computed⟩ := all input member
      rw [computed] at fails
      cases fails

/-- Computations of a list fail as the first of them does that fails. -/
theorem mapM_eq_error_iff {compute : α → Except ε β} {inputs : List α} {fault : ε} :
    inputs.mapM compute = .error fault ↔
      ∃ before input after, inputs = before ++ input :: after ∧
        (∀ other ∈ before, ∃ result, compute other = .ok result) ∧
        compute input = .error fault := by
  constructor
  · intro fails
    -- The induction is on the inputs up to the first one that fails.
    induction inputs with
    | nil => cases fails
    | cons first rest ih =>
      rw [List.mapM_cons] at fails
      cases here : compute first with
      | error other =>
        rw [here] at fails
        cases fails
        exact ⟨[], first, rest, rfl, by simp, here⟩
      | ok result =>
        -- The first one succeeds, so it stands before the one that fails.
        have later : rest.mapM compute = .error fault := by
          cases others : rest.mapM compute with
          | error other => rw [here, others] at fails; exact fails
          | ok results => rw [here, others] at fails; cases fails
        obtain ⟨before, input, after, rfl, succeed, fails⟩ := ih later
        exact ⟨first :: before, input, after, rfl,
          List.forall_mem_cons.mpr ⟨⟨result, here⟩, succeed⟩, fails⟩
  · rintro ⟨before, input, after, rfl, succeed, fails⟩
    -- All inputs before it succeed, so the computations come to it.
    induction before with
    | nil => rw [List.nil_append, List.mapM_cons, fails]; rfl
    | cons first others ih =>
      obtain ⟨⟨result, here⟩, succeed⟩ := List.forall_mem_cons.mp succeed
      rw [List.cons_append, List.mapM_cons, here, ih succeed]
      rfl

end ControlPlane
