import ControlPlane.Proofs.Compile.Effective
import ControlPlane.Proofs.Deploy.Deployer

/-! Who owns the name of a route: one API alone, and one operation of it unless hashes collide. -/

namespace ControlPlane

namespace Registry

variable {compileOptions : CompileOptions} {registry : Registry} {label : Label}

/-- Members of a label that have routes of one name are the same, and the routes have one verb and
templates with one hash. -/
theorem eq_of_route_name (filed : registry.Filed compileOptions) (apart : registry.Apart)
    {first second : Deployment} (member : first ∈ registry.members label)
    (member' : second ∈ registry.members label) {route other : Route}
    (listed : route ∈ first.compiled.routes) (listed' : other ∈ second.compiled.routes)
    (same : route.name = other.name) :
    first = second ∧ route.method = other.method ∧
      Naming.shortHash route.pathTemplate = Naming.shortHash other.pathTemplate := by
  obtain ⟨⟨id, found⟩, _⟩ := mem_members.mp member
  obtain ⟨⟨id', found'⟩, _⟩ := mem_members.mp member'
  obtain ⟨own, compiled⟩ := filed found
  obtain ⟨own', compiled'⟩ := filed found'
  obtain ⟨_, _, _, _, named⟩ := Compile.exists_of_mem_routes compiled listed
  obtain ⟨_, _, _, _, named'⟩ := Compile.exists_of_mem_routes compiled' listed'
  -- Both names are the key of an API with the end of an operation's name.
  rw [named, named', own, own'] at same
  obtain ⟨keys, methods, hashes⟩ := Naming.eq_of_append_operation same
  -- A key has one owner.
  have ids : id = id' :=
    apart (OrderedMap.mem_keys.mpr ⟨_, found⟩) (OrderedMap.mem_keys.mpr ⟨_, found'⟩) keys
  subst ids
  exact ⟨Option.some.inj (found.symm.trans found'), methods, hashes⟩

/-- The routes of a label have different names exactly if hashes tell the templates of each of its
members apart. -/
theorem nodup_route_names_iff (filed : registry.Filed compileOptions) (apart : registry.Apart)
    (label : Label) :
    (((registry.members label).flatMap fun deployment => deployment.compiled.routes).map
        Route.name).Nodup ↔
      ∀ deployment ∈ registry.members label, deployment.api.HashesApart := by
  rw [List.map_flatMap, List.nodup_flatMap]
  have within : ∀ deployment ∈ registry.members label,
      (deployment.compiled.routes.map Route.name).Nodup ↔ deployment.api.HashesApart := by
    intro deployment member
    obtain ⟨⟨id, found⟩, _⟩ := mem_members.mp member
    exact Compile.nodup_names_routes_iff (filed found).2
  -- Different members have no name in common, so each of them counts by itself.
  have order : (registry.members label).Pairwise fun a b => a.api.id < b.api.id :=
    List.pairwise_map.mp (members_pairwise filed label)
  have disjoint : (registry.members label).Pairwise (Function.onFun List.Disjoint
      fun deployment => deployment.compiled.routes.map Route.name) := by
    refine order.imp_of_mem fun {first second} member member' less name inFirst inSecond => ?_
    obtain ⟨route, listed, named⟩ := List.mem_map.mp inFirst
    obtain ⟨other, listed', named'⟩ := List.mem_map.mp inSecond
    obtain ⟨one, _⟩ := eq_of_route_name filed apart member member' listed listed'
      (named.trans named'.symm)
    exact StrictOrder.ne_of_lt less (congrArg (fun deployment => deployment.api.id) one)
  constructor
  · rintro ⟨each, _⟩ deployment member
    exact (within deployment member).mp (each deployment member)
  · intro each
    exact ⟨fun deployment member => (within deployment member).mpr (each deployment member),
      disjoint⟩

end Registry

namespace Deployer

/-- After any commands, no two deployed APIs have the same key. In the snapshot of every label,
routes with one name are those of one member alone, and have one verb and templates with one hash;
so all routes have different names exactly if hashes tell the templates apart that any one member
uses with one verb. -/
theorem route_names_owned (compileOptions : CompileOptions) (listener : ListenerSettings)
    (maxExtracted : Nat) (commands : List Command) :
    let deployer := (new compileOptions listener maxExtracted).run commands
    (∀ a b first second, deployer.registry.get? a = some first →
      deployer.registry.get? b = some second → a ≠ b → Naming.apiKey a ≠ Naming.apiKey b) ∧
    ∀ label,
      let members := deployer.registry.members label
      let routes := (deployer.cache.current label).resources.routeTables.flatMap
        fun table => table.host.routes
      (∀ route ∈ routes, ∀ other ∈ routes, route.name = other.name →
        ∃ owner ∈ members, compile compileOptions owner.api = .ok owner.compiled ∧
          route ∈ owner.compiled.routes ∧ other ∈ owner.compiled.routes ∧
          (∀ member ∈ members, route ∈ member.compiled.routes ∨ other ∈ member.compiled.routes →
            member = owner) ∧
          route.method = other.method ∧
          Naming.shortHash route.pathTemplate = Naming.shortHash other.pathTemplate) ∧
      ((routes.map Route.name).Nodup ↔ ∀ member ∈ members, member.api.HashesApart) := by
  intro deployer
  have apart : deployer.registry.Apart :=
    (sound_run compileOptions listener maxExtracted commands).apart
  have filed : deployer.registry.Filed compileOptions :=
    filed_run compileOptions listener maxExtracted commands
  refine ⟨fun a b first second found found' different same => different ?_, fun label => ?_⟩
  · exact apart (OrderedMap.mem_keys.mpr ⟨_, found⟩) (OrderedMap.mem_keys.mpr ⟨_, found'⟩) same
  · intro members routes
    -- The snapshot has the routes of the members, one member after the other.
    have listed : routes = members.flatMap fun deployment => deployment.compiled.routes := by
      show ((deployer.cache.current label).resources.routeTables.flatMap _) = _
      rw [resources_run compileOptions listener maxExtracted commands label]
      exact Registry.routes_resources deployer.registry listener label
    rw [listed]
    refine ⟨fun route among other among' same => ?_,
      Registry.nodup_route_names_iff filed apart label⟩
    obtain ⟨owner, member, own⟩ := List.mem_flatMap.mp among
    obtain ⟨owner', member', own'⟩ := List.mem_flatMap.mp among'
    obtain ⟨rfl, methods, hashes⟩ :=
      Registry.eq_of_route_name filed apart member member' own own' same
    obtain ⟨⟨id, found⟩, _⟩ := Registry.mem_members.mp member
    refine ⟨owner, member, (filed found).2, own, own', ?_, methods, hashes⟩
    -- Whoever else has one of the routes has a route with the name.
    rintro another known (has | has)
    · exact (Registry.eq_of_route_name filed apart known member has own rfl).1
    · exact (Registry.eq_of_route_name filed apart known member has own' rfl).1

end Deployer

end ControlPlane
