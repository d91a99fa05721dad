import ControlPlane.Proofs.Compile.Backends
import ControlPlane.Proofs.Compile.Winners
import ControlPlane.Proofs.Path.Template

/-! The templates that an API compiles to: a route and the path at its backend differ in their
prefix alone, and the variables of a route are those of its resource under plain names. -/

namespace ControlPlane

/-- The template of the path at the backend: that of the route, unless it is rewritten. -/
def Route.upstream (route : Route) : String := route.backendTemplate.getD route.pathTemplate

namespace Descriptor

/-- What the template of a resource has behind the base path: its segments below the base, each with
a slash in front of it. -/
def suffix (api : Descriptor) (resource : Resource) : String :=
  Path.template (Path.slashed (Path.relativeTo api.basePath resource.path))

/-- Whether there are no braces in the base path and in the paths of all backends. -/
structure PlainPaths (api : Descriptor) : Prop where
  base : Path.BraceFree api.basePath.toList
  shared : ∀ environment, ∀ backend ∈ api.endpoints environment, Path.BraceFree backend.path.toList
  own : ∀ resource ∈ api.resources, ∀ environment, ∀ backend ∈ resource.endpoints environment,
    Path.BraceFree backend.path.toList

/-- Then no backend of an operation has braces in its path. -/
theorem PlainPaths.backends {api : Descriptor} (plain : api.PlainPaths) {resource : Resource}
    (declared : resource ∈ api.resources) {environment : Environment} {backend : Endpoint}
    (member : backend ∈ api.backends resource environment) :
    Path.BraceFree backend.path.toList := by
  -- The backends are those of the whole API, or those of the resource's own.
  unfold Descriptor.backends at member
  split at member
  · exact plain.shared environment backend member
  · exact plain.own resource declared environment backend member

end Descriptor

namespace Compile

variable {options : CompileOptions} {api : Descriptor} {compiled : Compiled}

/-- Whether a route of a resource, whose first backend is given, and the path at this backend have
the same suffix behind different prefixes, the base path and the path of the backend. A template is
given for the backend just where the two differ, and mentions the variables of the route in their
order. -/
structure ExchangesPrefix (api : Descriptor) (resource : Resource) (first : Endpoint)
    (route : Route) : Prop where
  template : route.pathTemplate =
    Path.orRoot ((if api.basePath = "/" then "" else api.basePath) ++ api.suffix resource)
  upstream : route.upstream = Path.orRoot (Path.slashed first.path ++ api.suffix resource)
  absent : route.backendTemplate = none ↔ route.upstream = route.pathTemplate
  names : ∀ rewrite ∈ route.backendTemplate,
    Path.variableNames rewrite = Path.variableNames route.pathTemplate

/-- The path at the backend is the template of the backend's path with the resource's behind it. -/
theorem upstream_routeOf (entry : Templated) {pool : Pool} {first : Endpoint}
    (head : pool.endpoints.head? = some first) :
    (routeOf options api entry pool).upstream =
      Path.template (Path.join first.path (Path.relativeTo api.basePath entry.resource.path)) := by
  -- A template for the backend is left out just if it is that of the route.
  simp only [Route.upstream, routeOf, head, Option.map_some, Option.getD_some]
  split
  · rename_i same
    exact same.symm
  · rfl

/-- A template is given for the backend just where it differs from that of the route. -/
theorem upstream_eq_iff (entry : Templated) (pool : Pool) :
    (routeOf options api entry pool).backendTemplate = none ↔
      (routeOf options api entry pool).upstream =
        (routeOf options api entry pool).pathTemplate := by
  -- It is left out where the two are the same.
  unfold Route.upstream routeOf
  dsimp only
  split
  · simp
  · rename_i differs
    simpa using differs

/-- The route of a resource exchanges the prefix, where none of the prefixes has braces. -/
theorem exchangesPrefix_routeOf {entry : Templated}
    (template : entry.template = fullTemplate api entry.resource)
    (normal : ∃ raw, api.basePath = Path.normalize raw)
    (plain : Path.BraceFree api.basePath.toList) {pool : Pool} {first : Endpoint}
    (head : pool.endpoints.head? = some first) (plain' : Path.BraceFree first.path.toList) :
    ExchangesPrefix api entry.resource first (routeOf options api entry pool) := by
  obtain ⟨raw, same⟩ := normal
  -- The route's template is the base path with the suffix behind it.
  have path : entry.template = Path.orRoot
      ((if api.basePath = "/" then "" else api.basePath) ++ api.suffix entry.resource) := by
    rw [template, fullTemplate, Path.template_join plain, Path.slashed_of_normal same]
    rfl
  -- At the backend the suffix stands behind the path of the backend.
  have upstream : (routeOf options api entry pool).upstream =
      Path.orRoot (Path.slashed first.path ++ api.suffix entry.resource) := by
    rw [upstream_routeOf entry head, Path.template_join plain']
    rfl
  refine ⟨path, upstream, upstream_eq_iff entry pool, fun rewrite given => ?_⟩
  -- Neither prefix mentions variables, so all of them are those of the suffix.
  have same : rewrite = (routeOf options api entry pool).upstream := by
    rw [Route.upstream, given, Option.getD_some]
  have base : Path.BraceFree (if api.basePath = "/" then "" else api.basePath).toList := by
    split
    · simp [Path.BraceFree]
    · exact plain
  calc Path.variableNames rewrite
      = Path.variableNames (api.suffix entry.resource) := by
        rw [same, upstream, Path.variableNames_orRoot_append (Path.braceFree_slashed plain')]
    _ = Path.variableNames entry.template := by
        rw [path, Path.variableNames_orRoot_append base]

/-- The path at the backend of a route differs from the route's template in the prefix alone: the
path of the first backend in the pool that the route leads to stands in the place of the base path.
This holds for every API with a normal base path and no braces in any prefix. -/
theorem routes_exchange_prefix (success : compile options api = .ok compiled)
    (normal : ∃ raw, api.basePath = Path.normalize raw) (plain : api.PlainPaths) :
    List.Forall₂ (fun entry route => ∃ environment first others,
        route.cluster = poolName api entry environment ∧
        api.backends entry.resource environment = first :: others ∧
        ExchangesPrefix api entry.resource first route)
      (effective api) compiled.routes := by
  -- Each route is made of the effective resource at its place.
  refine (forall₂_resolves success).imp fun entry route resolved => ?_
  obtain ⟨counts, pools, resolves⟩ := resolved
  obtain ⟨declared, template⟩ := of_mem_effective counts
  -- The route leads to a pool of backends, and the first of these decides about the path.
  obtain ⟨environment, pool, sources, _, target⟩ := resolves.reaches
  obtain ⟨names, endpoints, some⟩ := sources.pool
  obtain ⟨first, others, listed⟩ := List.exists_cons_of_ne_nil some
  have head : pool.endpoints.head? = .some first := by rw [endpoints, listed]; rfl
  have among : first ∈ api.backends entry.resource environment := listed ▸ List.mem_cons_self
  refine ⟨environment, first, others, ?_, listed, ?_⟩
  · rw [target]
    exact names
  · rw [target]
    exact exchangesPrefix_routeOf template normal plain.base head (plain.backends declared among)

end Compile

/-- An API with a backend below a path of its own, whose resources are declared with repeated
slashes, as the base path itself, and with a brace that is never closed. -/
def Descriptor.kennel : Descriptor :=
  let declare (path : String) (production : List Endpoint) : Resource :=
    { path, method := .get, operationId := none, summary := none, production, sandbox := [] }
  { name := "kennel", version := "v1", basePath := "/kennel"
    resources := [
      declare "/kennel//\x7bdog-id\x7d/toys/\x7btoy.id\x7d/" [],
      declare "/kennel" [⟨.production, "http://desk", "http", "desk", 80, "", false⟩],
      declare "/\x7bopen" []]
    production := [⟨.production, "http://dogs//v2/", "http", "dogs", 80, "//v2", false⟩]
    sandbox := [], labels := .default, requestTimeout := none, provider := none
    extensions := .empty }

namespace Compile

/-- All resources of the kennel compile; toys keep their two variables below another prefix, and the
desk is the root of its backend. -/
theorem routes_exchange_prefix_kennel :
    ∃ compiled, compile {} .kennel = .ok compiled ∧
      (∃ raw, Descriptor.kennel.basePath = Path.normalize raw) ∧ Descriptor.kennel.PlainPaths ∧
      List.Forall₂ (fun entry route => ∃ environment first others,
          route.cluster = poolName .kennel entry environment ∧
          Descriptor.kennel.backends entry.resource environment = first :: others ∧
          ExchangesPrefix .kennel entry.resource first route)
        (effective .kennel) compiled.routes ∧
      compiled.routes.map (fun route => (route.pathTemplate, route.backendTemplate)) =
        [("/kennel/\x7bdog_id\x7d/toys/\x7btoy_id\x7d",
            some "/v2/\x7bdog_id\x7d/toys/\x7btoy_id\x7d"),
          ("/kennel", some "/"), ("/kennel/\x7bopen", some "/v2/\x7bopen")] := by
  have normal : ∃ raw, Descriptor.kennel.basePath = Path.normalize raw :=
    ⟨"kennel/", by decide +kernel⟩
  have plain : Descriptor.kennel.PlainPaths :=
    ⟨by decide +kernel, by decide +kernel, by decide +kernel⟩
  have templates : (compile {} .kennel).toOption.map (fun compiled =>
        compiled.routes.map fun route => (route.pathTemplate, route.backendTemplate)) =
      some [("/kennel/\x7bdog_id\x7d/toys/\x7btoy_id\x7d",
          some "/v2/\x7bdog_id\x7d/toys/\x7btoy_id\x7d"),
        ("/kennel", some "/"), ("/kennel/\x7bopen", some "/v2/\x7bopen")] := by
    decide +kernel
  -- The API compiles, so its routes are those that were computed.
  cases success : compile {} .kennel with
  | error fault => rw [success] at templates; cases templates
  | ok compiled =>
    rw [success] at templates
    exact ⟨compiled, rfl, normal, plain, routes_exchange_prefix success normal plain,
      Option.some.inj templates⟩

/-- The route of a resource mentions the variables of the resource's path under their plain names,
which are made of letters, digits and `_`. Variables that are different stay so exactly if no two of
them have the same plain name, in which a run of slashes counts as one, and every foreign character
is `_`. -/
theorem distinct_variables_iff (success : compile options api = .ok compiled)
    (plain : Path.BraceFree api.basePath.toList) {resource : Resource}
    (declared : resource ∈ api.resources) (distinct : (Path.variableNames resource.path).Nodup) :
    ∃ route, compiled.routes.filter (·.requests = api.requests resource) = [route] ∧
      Path.variableNames route.pathTemplate =
        (Path.variableNames resource.path).map Path.plainName ∧
      (∀ name ∈ Path.variableNames route.pathTemplate, ∀ c ∈ name, Path.isVariableChar c = true) ∧
      ((Path.variableNames route.pathTemplate).Nodup ↔
        ∀ a ∈ Path.variableNames resource.path, ∀ b ∈ Path.variableNames resource.path,
          Path.plainName a = Path.plainName b → a = b) := by
  obtain ⟨route, alone, template⟩ := exists_route success declared
  -- The route has the template of the resource, whose names are those of the path made plain.
  have names : Path.variableNames route.pathTemplate =
      (Path.variableNames resource.path).map Path.plainName := by
    rw [template, fullTemplate]
    exact Path.variableNames_template_join plain resource.path
  refine ⟨route, alone, names, fun name mentioned => ?_, ?_⟩
  · rw [template] at mentioned
    exact Path.isVariableChar_of_mem_variableNames mentioned
  · rw [names]
    -- A list without repetitions keeps none just if it is mapped one to one.
    exact List.nodup_map_iff_inj_on distinct

/-- The two variables of a toy stay different, under plain names. -/
theorem distinct_variables_kennel :
    ∃ compiled resource, compile {} .kennel = .ok compiled ∧
      Path.BraceFree Descriptor.kennel.basePath.toList ∧
      resource ∈ Descriptor.kennel.resources ∧
      Path.variableNames resource.path = ["dog-id".toList, "toy.id".toList] ∧
      ∃ route, compiled.routes.filter (·.requests = Descriptor.kennel.requests resource) = [route] ∧
        Path.variableNames route.pathTemplate = ["dog_id".toList, "toy_id".toList] ∧
        (Path.variableNames route.pathTemplate).Nodup := by
  have plain : Path.BraceFree Descriptor.kennel.basePath.toList := by decide +kernel
  -- The toys are the resource with two variables.
  obtain ⟨resource, declared, names⟩ : ∃ resource ∈ Descriptor.kennel.resources,
      Path.variableNames resource.path = ["dog-id".toList, "toy.id".toList] := by decide +kernel
  have succeeds : (compile {} .kennel).toOption.isSome = true := by decide +kernel
  cases success : compile {} .kennel with
  | error fault => rw [success] at succeeds; cases succeeds
  | ok compiled =>
    obtain ⟨route, alone, same, _, distinct⟩ :=
      -- The plain names of the two differ.
      distinct_variables_iff success plain declared (by rw [names]; decide +kernel)
    refine ⟨compiled, resource, rfl, plain, declared, names, route, alone, ?_, ?_⟩
    · rw [same, names]
      decide +kernel
    · rw [distinct, names]
      decide +kernel

end Compile

/-- An API with two variables in one path that differ in a foreign character alone. -/
def Descriptor.twins : Descriptor :=
  { Descriptor.petStore with
    resources := [
      { path := "/\x7bpet-id\x7d/toys/\x7bpet.id\x7d", method := .get, operationId := none
        summary := none, production := [], sandbox := [] }] }

namespace Compile

/-- The two variables of the only path become one in the template of its route. -/
theorem twins_share_name :
    ∃ compiled resource route, compile {} .twins = .ok compiled ∧
      Path.BraceFree Descriptor.twins.basePath.toList ∧
      Descriptor.twins.resources = [resource] ∧ compiled.routes = [route] ∧
      Path.variableNames resource.path = ["pet-id".toList, "pet.id".toList] ∧
      route.pathTemplate = "/\x7bpet_id\x7d/toys/\x7bpet_id\x7d" ∧
      Path.variableNames route.pathTemplate = ["pet_id".toList, "pet_id".toList] ∧
      (Path.variableNames resource.path).Nodup ∧
      ¬ (Path.variableNames route.pathTemplate).Nodup := by
  refine ⟨_, _, _, rfl, by decide +kernel, rfl, rfl, by decide +kernel, by decide +kernel,
    by decide +kernel, by decide +kernel, by decide +kernel⟩

end Compile

end ControlPlane
