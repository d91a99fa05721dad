import ControlPlane.Compile.Naming
import ControlPlane.Proofs.Text.Cut

/-! When two names of resources are the same: they agree part by part, except that the key of one
API may end like the name of an operation of another. -/

namespace ControlPlane.Naming

/-- A byte in hexadecimal digits has no underscore. -/
theorem underscore_notMem_hexByte (b : UInt8) : '_' ∉ hexByte b := by
  -- Each of its two digits is below sixteen, and no such digit is written as an underscore.
  have digit : ∀ n < 16, '_' ≠ if n < 10 then Char.ofNat (48 + n) else Char.ofNat (87 + n) := by
    decide
  have bound := b.toNat_lt
  have high := digit (b.toNat / 16) (by omega)
  have low := digit (b.toNat % 16) (by omega)
  simp only [hexByte, List.mem_cons, List.not_mem_nil, or_false, not_or]
  exact ⟨high, low⟩

/-- A hash has no underscore. -/
theorem underscore_notMem_shortHash (text : String) : '_' ∉ (shortHash text).toList := by
  -- It is a list of bytes in hexadecimal digits.
  unfold shortHash
  rw [String.toList_ofList]
  intro member
  obtain ⟨byte, _, inside⟩ := List.mem_flatMap.mp member
  exact underscore_notMem_hexByte byte inside

/-- The name of a verb has no underscore. -/
theorem underscore_notMem_lowerText (method : Method) : '_' ∉ method.lowerText.toList := by
  -- There are as many cases as verbs.
  cases method <;> decide

/-- A key with the end of an operation's name tells the key, the verb and the hash. -/
theorem eq_of_append_operation {key key' : String} {method method' : Method}
    {template template' : String}
    (same : key ++ operation method template = key' ++ operation method' template') :
    key = key' ∧ method = method' ∧ shortHash template = shortHash template' := by
  -- The hash stands behind the last underscore, and the verb behind the one before that.
  have characters : (key.toList ++ '_' :: method.lowerText.toList) ++
        '_' :: (shortHash template).toList =
      (key'.toList ++ '_' :: method'.lowerText.toList) ++ '_' :: (shortHash template').toList := by
    simpa [operation] using congrArg String.toList same
  obtain ⟨fronts, hashes⟩ := Text.eq_of_mark_append (underscore_notMem_shortHash _)
    (underscore_notMem_shortHash _) characters
  obtain ⟨keys, verbs⟩ := Text.eq_of_mark_append (underscore_notMem_lowerText _)
    (underscore_notMem_lowerText _) fronts
  exact ⟨String.toList_inj.mp keys, Method.lowerText_injective (String.toList_inj.mp verbs),
    String.toList_inj.mp hashes⟩

/-- A key with the end of an operation's name is not the key itself. -/
theorem ne_append_operation (key : String) (method : Method) (template : String) :
    key ≠ key ++ operation method template := by
  intro same
  -- The end of the name would have to be empty.
  have empty := String.append_eq_left_iff.mp same.symm
  simp [operation] at empty

/-- The cluster of an environment and a key, with anything behind it, tells the environment. -/
theorem eq_of_cluster_append {environment environment' : Environment} {rest rest' : String}
    (same : "cluster_" ++ environment.text ++ "_" ++ rest =
      "cluster_" ++ environment'.text ++ "_" ++ rest') :
    environment = environment' ∧ rest = rest' := by
  by_cases environments : environment = environment'
  · -- Behind a common beginning stand the same texts.
    subst environments
    exact ⟨rfl, (String.append_right_inj _).mp same⟩
  · -- The names of the two environments begin with different characters.
    have characters := congrArg (fun name => name.toList[8]?) same
    cases environment <;> cases environment' <;> simp [Environment.text] at characters environments

/-- The clusters of whole APIs have one name only if environment and key agree. -/
theorem cluster_eq_cluster_iff {a b : ApiId} {environment environment' : Environment} :
    cluster a environment = cluster b environment' ↔
      environment = environment' ∧ apiKey a = apiKey b :=
  -- Behind the environment stands the key alone.
  ⟨eq_of_cluster_append, fun ⟨sameEnvironment, sameKey⟩ => by
    unfold cluster; rw [sameEnvironment, sameKey]⟩

/-- The cluster of an operation is named by the key with the end of the operation's name. -/
theorem overrideCluster_eq (id : ApiId) (environment : Environment) (method : Method)
    (template : String) :
    overrideCluster id environment method template =
      "cluster_" ++ environment.text ++ "_" ++ (apiKey id ++ operation method template) :=
  String.append_assoc ..

/-- The clusters of operations have one name only if environment, key, verb and hash agree. -/
theorem eq_of_overrideCluster {a b : ApiId} {environment environment' : Environment}
    {method method' : Method} {template template' : String}
    (same : overrideCluster a environment method template =
      overrideCluster b environment' method' template') :
    environment = environment' ∧ apiKey a = apiKey b ∧ method = method' ∧
      shortHash template = shortHash template' := by
  -- Behind the environment stand a key and the end of an operation's name.
  rw [overrideCluster_eq, overrideCluster_eq] at same
  obtain ⟨environments, rests⟩ := eq_of_cluster_append same
  exact ⟨environments, eq_of_append_operation rests⟩

/-- The cluster of a whole API is named like that of an operation exactly if its key is that of the
operation's API with the end of the operation's name. -/
theorem cluster_eq_overrideCluster_iff {a b : ApiId} {environment environment' : Environment}
    {method : Method} {template : String} :
    cluster a environment = overrideCluster b environment' method template ↔
      environment = environment' ∧ apiKey a = apiKey b ++ operation method template := by
  -- Both names have the environment in front, and what differs is behind it.
  rw [overrideCluster_eq]
  exact ⟨eq_of_cluster_append, fun ⟨environments, keys⟩ => by
    unfold cluster; rw [environments, keys]⟩

end ControlPlane.Naming
