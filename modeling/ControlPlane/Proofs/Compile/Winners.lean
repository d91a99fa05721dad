import ControlPlane.Proofs.Compile.Effective

/-! Of the resources that are declared for the same requests the last one wins, at the place of the
first; the others contribute nothing to what an API compiles to. -/

namespace ControlPlane

/-- The requests that a route takes: those that match its template and have its verb. -/
def Route.requests (route : Route) : String × Method := (route.pathTemplate, route.method)

namespace Descriptor

/-- The requests that a resource is declared for: its template below the base path and its verb. -/
def requests (api : Descriptor) (resource : Resource) : String × Method :=
  (Compile.fullTemplate api resource, resource.method)

/-- The resources that win: for all requests in the order in which they are first declared, the last
resource that is declared for them. -/
def winners (api : Descriptor) : List Resource :=
  (api.resources.map api.requests).eraseDups.filterMap fun requests =>
    (api.resources.filter (api.requests · = requests)).getLast?

/-- The winners are the resources that are left when all are put by their requests. -/
theorem winners_eq (api : Descriptor) :
    api.winners = Keyed.putAll api.requests api.resources := by
  -- Requests are compared part by part, which is how equality decides.
  rw [Keyed.putAll_eq, ← lawful_beq_subsingleton instBEqProd instBEqOfDecidableEq]
  rfl

/-- The winners are declared for the same requests as all resources, in the order in which these
first come. -/
theorem map_requests_winners (api : Descriptor) :
    api.winners.map api.requests = (api.resources.map api.requests).eraseDups := by
  rw [winners_eq, Keyed.map_putAll, ← lawful_beq_subsingleton instBEqProd instBEqOfDecidableEq]

/-- No two winners are declared for the same requests. -/
theorem nodup_requests_winners (api : Descriptor) : (api.winners.map api.requests).Nodup := by
  -- Putting by a key leaves one for each key.
  rw [winners_eq]
  exact Keyed.nodup_keys_putAll _

/-- Among the winners themselves all win. -/
theorem winners_winners (api : Descriptor) :
    ({ api with resources := api.winners } : Descriptor).winners = api.winners := by
  -- Nothing is put twice, so all stay as they are.
  rw [winners_eq]
  exact Keyed.putAll_of_nodup api.nodup_requests_winners

end Descriptor

namespace Compile

/-- A resource with its template below the base path. -/
def templated (api : Descriptor) (resource : Resource) : Templated :=
  ⟨fullTemplate api resource, resource⟩

/-- The resources that count are the winners, with their templates. -/
theorem effective_eq_winners (api : Descriptor) :
    effective api = api.winners.map (templated api) := by
  -- Putting with templates is putting, with templates given afterwards.
  rw [effective_eq, Descriptor.winners_eq]
  exact Keyed.putAll_map ..

variable {options : CompileOptions} {api : Descriptor}

/-- What an API compiles to depends on its resources through those that count. -/
theorem compile_congr {resources : List Resource}
    (same : effective { api with resources } = effective api) :
    compile options { api with resources } = compile options api := by
  -- The other parts of an API are read from it as they were.
  unfold compile
  rw [same]
  rfl

/-- Routes take the requests of the winners, each the requests of the one at its place. -/
theorem map_requests_routes {compiled : Compiled} (success : compile options api = .ok compiled) :
    compiled.routes.map Route.requests = api.winners.map api.requests := by
  -- A route takes the requests of the resource that it is made of.
  have routes : compiled.routes.map Route.requests =
      (effective api).map Templated.requests := map_routes (fun entry pool => rfl) success
  rw [routes, effective_eq_winners, List.map_map]
  rfl

/-- No two routes take the same requests. -/
theorem nodup_requests_routes {compiled : Compiled} (success : compile options api = .ok compiled) :
    (compiled.routes.map Route.requests).Nodup := by
  rw [map_requests_routes success]
  exact api.nodup_requests_winners

/-- The routes take the requests that resources are declared for. -/
theorem mem_requests_routes {compiled : Compiled} (success : compile options api = .ok compiled)
    {requests : String × Method} :
    requests ∈ compiled.routes.map Route.requests ↔
      ∃ resource ∈ api.resources, api.requests resource = requests := by
  rw [map_requests_routes success, api.map_requests_winners, List.mem_eraseDups, List.mem_map]

/-- Every declared resource has one route for its requests, with the template of the resource. -/
theorem exists_route {compiled : Compiled} (success : compile options api = .ok compiled)
    {resource : Resource} (declared : resource ∈ api.resources) :
    ∃ route, compiled.routes.filter (·.requests = api.requests resource) = [route] ∧
      route.pathTemplate = fullTemplate api resource := by
  -- Some route takes the requests, and no other one does.
  have taken := (mem_requests_routes success).mpr ⟨resource, declared, rfl⟩
  obtain ⟨route, member, same⟩ := List.mem_map.mp taken
  have alone := Keyed.filter_of_mem (nodup_requests_routes success) member
  exact ⟨route, same ▸ alone, (Prod.mk.inj same).1⟩

/-- The last resource declared for some requests wins, at the place of the first. The routes take
each of the declared requests once, in the order in which these are first declared. Every route,
with the pools and the clusters that it comes with, is what the winner for its requests compiles to.
And whether or not an API compiles, the other resources make no difference: the winners alone
compile to the same, or fail the same way. -/
theorem last_declared_wins (options : CompileOptions) (api : Descriptor) :
    (∀ compiled, compile options api = .ok compiled →
      (compiled.routes.map Route.requests).Nodup ∧
      (∀ requests, requests ∈ compiled.routes.map Route.requests ↔
        ∃ resource ∈ api.resources, api.requests resource = requests) ∧
      compiled.routes.map Route.requests = (api.resources.map api.requests).eraseDups ∧
      ∃ parts : List (Route × List Pool),
        List.Forall₂ (fun resource part =>
          Resolves options api (templated api resource) part.1 part.2) api.winners parts ∧
        compiled.routes = parts.map Prod.fst ∧
        compiled.clusters =
          Keyed.putAll Cluster.name ((parts.flatMap Prod.snd).map Pool.cluster)) ∧
    compile options { api with resources := api.winners } = compile options api := by
  refine ⟨fun compiled success => ?_, ?_⟩
  · -- What is compiled comes from the winners, part by part.
    refine ⟨nodup_requests_routes success, fun requests => mem_requests_routes success, ?_, ?_⟩
    · rw [map_requests_routes success, api.map_requests_winners]
    · obtain ⟨parts, done, routes, clusters⟩ := compile_eq_ok success
      rw [effective_eq_winners] at done
      refine ⟨parts, ?_, routes, clusters⟩
      -- Each winner compiles on its own, to the part at its place.
      exact (List.forall₂_map_left_iff.mp (forall₂_of_mapM done)).imp
        fun resource part resolved => resolves_resourceOf resolved
  · apply compile_congr
    -- Templates depend on the base path, which stays.
    rw [effective_eq_winners, effective_eq_winners, api.winners_winners]
    rfl

end Compile

/-- An API whose first resource is declared again, in another spelling. The backends of the first
declaration disagree on TLS. -/
def Descriptor.respelled : Descriptor :=
  let dogs (path : String) (production : List Endpoint) : Resource :=
    { path, method := .get, operationId := none, summary := none, production, sandbox := [] }
  { Descriptor.petStore with
    basePath := "/pets"
    resources := [
      dogs "/dogs" [⟨.production, "http://old", "http", "old", 80, "", false⟩,
        ⟨.production, "https://new", "https", "new", 443, "", true⟩],
      dogs "/cats" [], dogs "/pets//dogs/" []] }

example : (compile {} .respelled).map (fun compiled => compiled.routes.map fun route =>
      (route.pathTemplate, route.cluster)) =
    .ok [("/pets/dogs", "cluster_production_pets_v1"),
      ("/pets/cats", "cluster_production_pets_v1")] := by
  decide +kernel

end ControlPlane
