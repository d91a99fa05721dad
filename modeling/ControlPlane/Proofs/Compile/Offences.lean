import ControlPlane.Proofs.Compile.Backends

/-! When an API compiles, and how it fails otherwise: the first operation that cannot be served
decides, by its backends in both environments. -/

namespace ControlPlane

/-- Whether some of the backends speak TLS and others do not. -/
def Mixed (backends : List Endpoint) : Prop :=
  ∃ secure ∈ backends, ∃ plain ∈ backends, secure.tls = true ∧ plain.tls = false

/-- Whether an operation can be served: it has backends in some environment, and in no environment
do its backends disagree on TLS. -/
structure Descriptor.CanServe (api : Descriptor) (resource : Resource) : Prop where
  backends : ∃ environment, api.backends resource environment ≠ []
  agree : ∀ environment, ¬ Mixed (api.backends resource environment)

namespace Compile

/-- The error that an operation is the reason for. Backends that disagree on TLS make the input
malformed, and those of production are looked at first. An operation without any backends leaves its
API incomplete. -/
inductive Offence (api : Descriptor) (entry : Templated) : Error → Prop
  | mixed {environment : Environment} (mixed : Mixed (api.backends entry.resource environment))
      (first : environment = .sandbox → ¬ Mixed (api.backends entry.resource .production)) :
      Offence api entry (.inputFormat ("endpoints of cluster '" ++ poolName api entry environment ++
        "' mix plain and TLS backends") none)
  | noBackends (none : ∀ environment, api.backends entry.resource environment = []) :
      Offence api entry (.compilation (api.name ++ ":" ++ api.version)
        ("resource " ++ entry.resource.method.text ++ " " ++ entry.resource.path ++
          " has no backend endpoints and yields no route"))

section

variable {options : CompileOptions} {api : Descriptor} {entry : Templated}
  {environment : Environment} {error other : Error}

theorem not_mixed_nil : ¬ Mixed [] := fun ⟨_, member, _⟩ => List.not_mem_nil member

/-- Backends disagree on TLS exactly if one of them differs from the first. -/
theorem any_differs_iff (backends : List Endpoint) :
    (backends.any fun backend =>
        backend.tls != (backends.head?.map Endpoint.tls).getD false) = true ↔ Mixed backends := by
  -- The test compares each backend with the first, and says nothing where there is none.
  rw [List.any_eq_true]
  constructor
  · rintro ⟨backend, member, differs⟩
    cases backends with
    | nil => cases member
    | cons first rest =>
      -- Whichever of the two speaks TLS, the other one does not.
      have apart : backend.tls ≠ first.tls := by simpa using differs
      cases secure : backend.tls
      · exact ⟨first, List.mem_cons_self, backend, member, by simp_all, secure⟩
      · exact ⟨backend, member, first, List.mem_cons_self, secure, by simp_all⟩
  · rintro ⟨secure, member, plain, member', speaks, silent⟩
    -- The first one cannot agree with both.
    by_cases first : (backends.head?.map Endpoint.tls).getD false = true
    · exact ⟨plain, member', by rw [first, silent]; rfl⟩
    · exact ⟨secure, member, by simp [first, speaks]⟩

/-- Backends that disagree on TLS make no cluster, and all others do. -/
theorem clusterOf_cases (options : CompileOptions) (name : String) (backends : List Endpoint) :
    (Mixed backends ∧ clusterOf options name backends = .error (.mixedTls name)) ∨
      (¬ Mixed backends ∧ ∃ cluster, clusterOf options name backends = .ok cluster) := by
  -- The test is the one by which clusters are refused.
  rw [← any_differs_iff]
  unfold clusterOf
  dsimp only
  split
  · rename_i mixed
    exact Or.inl ⟨mixed, rfl⟩
  · rename_i agree
    exact Or.inr ⟨agree, _, rfl⟩

/-- An operation has a pool where it has backends, unless these disagree on TLS. -/
theorem poolOf_outcome (options : CompileOptions) (api : Descriptor) (entry : Templated)
    (environment : Environment) :
    (Mixed (api.backends entry.resource environment) ∧
      poolOf options api entry environment = .error (.mixedTls (poolName api entry environment))) ∨
    (¬ Mixed (api.backends entry.resource environment) ∧
      ∃ found, poolOf options api entry environment = .ok found ∧
        (found = none ↔ api.backends entry.resource environment = [])) := by
  -- Where there are no backends, there is neither a pool nor anything to disagree.
  unfold poolOf
  rw [poolSource_eq]
  by_cases none : api.backends entry.resource environment = []
  · rw [if_pos none, none]
    exact Or.inr ⟨not_mixed_nil, .none, rfl, by simp⟩
  · rw [if_neg none]
    dsimp only
    -- There are backends, and a cluster is made of them or not.
    rcases clusterOf_cases options (poolName api entry environment)
      (api.backends entry.resource environment) with ⟨mixed, fails⟩ | ⟨agree, cluster, made⟩
    · exact Or.inl ⟨mixed, by rw [fails]; rfl⟩
    · exact Or.inr ⟨agree, _, by rw [made]; rfl, by simp [none]⟩

/-- An operation that offends cannot be served. -/
theorem Offence.not_canServe (offence : Offence api entry error) :
    ¬ api.CanServe entry.resource := by
  -- Either way of offending denies one of the two conditions.
  intro serves
  cases offence with
  | mixed mixed _ => exact serves.agree _ mixed
  | noBackends none =>
    obtain ⟨environment, some⟩ := serves.backends
    exact some (none environment)

/-- An operation is the reason for one error only. -/
theorem Offence.unique (offence : Offence api entry error) (offence' : Offence api entry other) :
    error = other := by
  -- An operation without any backends has none that disagree, so both errors are of one kind.
  cases offence with
  | @mixed environment mixed first =>
    cases offence' with
    | @mixed environment' mixed' first' =>
      -- In different environments one of them is production, which comes first.
      cases environment <;> cases environment'
      · rfl
      · exact absurd mixed (first' rfl)
      · exact absurd mixed' (first rfl)
      · rfl
    | noBackends none => exact absurd (none environment ▸ mixed) not_mixed_nil
  | noBackends none =>
    cases offence' with
    | @mixed environment mixed _ => exact absurd (none environment ▸ mixed) not_mixed_nil
    | noBackends _ => rfl

/-- An operation that can be served compiles, and any other fails as it offends. -/
theorem resourceOf_outcome (options : CompileOptions) (api : Descriptor) (entry : Templated) :
    (api.CanServe entry.resource ∧ ∃ part, resourceOf options api entry = .ok part) ∨
      ∃ fault, resourceOf options api entry = .error fault ∧ Offence api entry fault.toError := by
  unfold resourceOf
  rcases poolOf_outcome options api entry .production with
    ⟨mixed, fails⟩ | ⟨agree, production, made, absent⟩
  · -- The pool of production is looked at first.
    exact Or.inr ⟨.mixedTls (poolName api entry .production), by rw [fails]; rfl,
      .mixed mixed fun sandbox => by cases sandbox⟩
  · rcases poolOf_outcome options api entry .sandbox with
      ⟨mixed, fails⟩ | ⟨agree', sandbox, made', absent'⟩
    · -- Production agrees, and then the sandbox is what offends.
      exact Or.inr ⟨.mixedTls (poolName api entry .sandbox), by rw [made, fails]; rfl,
        .mixed mixed fun _ => agree⟩
    · rw [made, made']
      -- Both environments agree, so only the number of pools is left to look at.
      have both : ∀ environment, ¬ Mixed (api.backends entry.resource environment) := by
        intro environment
        cases environment <;> assumption
      cases production with
      | some pool =>
        exact Or.inl ⟨⟨⟨.production, fun none => by cases absent.mpr none⟩, both⟩, _, rfl⟩
      | none =>
        cases sandbox with
        | some pool =>
          exact Or.inl ⟨⟨⟨.sandbox, fun none => by cases absent'.mpr none⟩, both⟩, _, rfl⟩
        | none =>
          -- Neither environment has a pool, so there are no backends in either.
          have none : ∀ environment, api.backends entry.resource environment = [] := by
            intro environment
            cases environment
            · exact absent.mp rfl
            · exact absent'.mp rfl
          exact Or.inr ⟨_, rfl, .noBackends none⟩

/-- An operation compiles exactly if it can be served. -/
theorem resourceOf_succeeds_iff :
    (∃ part, resourceOf options api entry = .ok part) ↔ api.CanServe entry.resource := by
  -- What can be served and what offends are the only two outcomes, and they exclude each other.
  rcases resourceOf_outcome options api entry with ⟨serves, success⟩ | ⟨fault, fails, offence⟩
  · exact iff_of_true success serves
  · refine iff_of_false ?_ offence.not_canServe
    rintro ⟨part, success⟩
    rw [fails] at success
    cases success

/-- An operation fails to compile with the error that it is the reason for. -/
theorem resourceOf_fails_iff :
    (∃ fault, resourceOf options api entry = .error fault ∧ fault.toError = error) ↔
      Offence api entry error := by
  constructor
  · rintro ⟨fault, fails, rfl⟩
    -- The outcome of an operation is one, so the fault is that of its offence.
    rcases resourceOf_outcome options api entry with ⟨_, part, success⟩ | ⟨fault', fails', offence⟩
    · rw [fails] at success
      cases success
    · rw [fails] at fails'
      cases fails'
      exact offence
  · intro offence
    -- What offends cannot be served, so it fails, and with no other error than this.
    rcases resourceOf_outcome options api entry with ⟨serves, _⟩ | ⟨fault, fails, offence'⟩
    · exact absurd serves offence.not_canServe
    · exact ⟨fault, fails, offence'.unique offence⟩

end

/-- An API compiles exactly if all its operations that count can be served. It fails with an error
exactly if that is the error of the first operation that cannot be served. -/
theorem fails_as_first_offence (options : CompileOptions) (api : Descriptor) :
    ((∃ compiled, compile options api = .ok compiled) ↔
      ∀ entry ∈ effective api, api.CanServe entry.resource) ∧
    ∀ error, (∃ fault, compile options api = .error fault ∧ fault.toError = error) ↔
      ∃ before entry after, effective api = before ++ entry :: after ∧
        (∀ other ∈ before, api.CanServe other.resource) ∧ Offence api entry error := by
  -- Compiling is one pass over the operations, and it succeeds or fails as this does.
  rw [compile_eq]
  constructor
  · rw [map_succeeds_iff, mapM_succeeds_iff]
    exact forall₂_congr fun entry _ => resourceOf_succeeds_iff
  · intro error
    simp only [map_eq_error_iff, mapM_eq_error_iff, resourceOf_succeeds_iff]
    -- The first operation that fails is the first one that cannot be served.
    constructor
    · rintro ⟨fault, ⟨before, entry, after, counts, serve, fails⟩, same⟩
      exact ⟨before, entry, after, counts, serve, resourceOf_fails_iff.mp ⟨fault, fails, same⟩⟩
    · rintro ⟨before, entry, after, counts, serve, offence⟩
      obtain ⟨fault, fails, same⟩ := resourceOf_fails_iff.mpr offence
      exact ⟨fault, ⟨before, entry, after, counts, serve, fails⟩, same⟩

end Compile

end ControlPlane
