import ControlPlane.Proofs.Compile.Clusters
import ControlPlane.Proofs.Compile.Naming

/-! The resources of an API that count, of which no two answer the same requests, and the names of
the routes that they compile to. -/

namespace ControlPlane

namespace Compile

/-- The requests that a resource answers: those that match its template and have its verb. -/
def Templated.requests (entry : Templated) : String × Method :=
  (entry.template, entry.resource.method)

/-- The declared resources with their templates. -/
def declared (api : Descriptor) : List Templated :=
  api.resources.map fun resource => ⟨fullTemplate api resource, resource⟩

/-- A resource that is declared is put by the requests that it answers. -/
theorem declare_eq_put (entry : Templated) (entries : List Templated) :
    declare entry entries = Keyed.put Templated.requests entry entries := by
  -- That two resources answer the same requests is tested part by part, and as one equation it is
  -- that of the keys.
  have alike : ∀ other : Templated, other.sameRequests entry = true ↔
      other.requests = entry.requests := by
    simp [Templated.sameRequests, Templated.requests]
  induction entries with
  | nil => rfl
  | cons first rest ih => simp only [declare, Keyed.put, alike, ih]

/-- The resources that count are the declared ones, put by the requests that they answer. -/
theorem effective_eq (api : Descriptor) :
    effective api = Keyed.putAll Templated.requests (declared api) := by
  simp only [effective, declare_eq_put, Keyed.putAll, declared, List.foldl_map]

variable {options : CompileOptions} {api : Descriptor} {compiled : Compiled} {entry : Templated}

/-- No two resources that count answer the same requests. -/
theorem nodup_requests (api : Descriptor) :
    ((effective api).map Templated.requests).Nodup := by
  -- Putting by a key leaves one for each key.
  rw [effective_eq]
  exact Keyed.nodup_keys_putAll _

/-- A resource that counts is one that is declared, with its template. -/
theorem of_mem_effective (counts : entry ∈ effective api) :
    entry.resource ∈ api.resources ∧ entry.template = fullTemplate api entry.resource := by
  -- Nothing is put but what is declared.
  rw [effective_eq] at counts
  obtain ⟨resource, among, rfl⟩ := List.mem_map.mp (Keyed.mem_of_mem_putAll counts)
  exact ⟨among, rfl⟩

/-- For every declared resource one counts that answers the same requests. -/
theorem exists_effective {resource : Resource} (among : resource ∈ api.resources) :
    ∃ entry ∈ effective api, entry.template = fullTemplate api resource ∧
      entry.resource.method = resource.method := by
  have declares : (⟨fullTemplate api resource, resource⟩ : Templated) ∈ declared api :=
    List.mem_map_of_mem among
  -- Putting the resources by their requests loses none of these.
  have kept := Keyed.mem_keys_putAll.mpr (List.mem_map_of_mem (f := Templated.requests) declares)
  rw [← effective_eq] at kept
  obtain ⟨entry, counts, same⟩ := List.mem_map.mp kept
  obtain ⟨templates, methods⟩ := Prod.mk.inj same
  exact ⟨entry, counts, templates, methods⟩

/-- Each resource that counts compiles to the route at its place. -/
theorem forall₂_routes (success : compile options api = .ok compiled) :
    List.Forall₂ (fun entry route => ∃ pool, route = routeOf options api entry pool)
      (effective api) compiled.routes := by
  refine (forall₂_resolves success).imp fun entry route resolved => ?_
  -- The route leads to one of the pools, whichever that is.
  obtain ⟨_, pools, resolves⟩ := resolved
  obtain ⟨pool, _, target⟩ := resolves.target
  exact ⟨pool, target⟩

/-- What every route has from its resource alone, the routes have in the order of the resources. -/
theorem map_routes {β : Type} {ofRoute : Route → β} {ofEntry : Templated → β}
    (same : ∀ entry pool, ofRoute (routeOf options api entry pool) = ofEntry entry)
    (success : compile options api = .ok compiled) :
    compiled.routes.map ofRoute = (effective api).map ofEntry := by
  -- Resources and routes stand in pairs, so the induction is on these.
  have pairs := forall₂_routes success
  generalize effective api = entries at pairs ⊢
  generalize compiled.routes = routes at pairs ⊢
  induction pairs with
  | nil => rfl
  | cons here _ ih =>
    obtain ⟨pool, rfl⟩ := here
    rw [List.map_cons, List.map_cons, same, ih]

/-- A route is named for the resource that it was compiled from. -/
theorem exists_of_mem_routes (success : compile options api = .ok compiled) {route : Route}
    (member : route ∈ compiled.routes) :
    ∃ entry ∈ effective api, route.pathTemplate = entry.template ∧
      route.method = entry.resource.method ∧
      route.name = Naming.route api.id route.method route.pathTemplate := by
  -- What names a route is read off its resource, so all three parts are listed in the order of the
  -- resources.
  have parts : compiled.routes.map (fun route => (route.pathTemplate, route.method, route.name)) =
      (effective api).map fun entry => (entry.template, entry.resource.method,
        Naming.route api.id entry.resource.method entry.template) :=
    map_routes (fun entry pool => rfl) success
  have listed : (route.pathTemplate, route.method, route.name) ∈
      compiled.routes.map fun route => (route.pathTemplate, route.method, route.name) :=
    List.mem_map_of_mem member
  rw [parts] at listed
  obtain ⟨entry, counts, same⟩ := List.mem_map.mp listed
  obtain ⟨templates, others⟩ := Prod.mk.inj same
  obtain ⟨methods, names⟩ := Prod.mk.inj others
  exact ⟨entry, counts, templates.symm, methods.symm, by rw [← names, ← methods, ← templates]⟩

end Compile

/-- Whether the templates that an API uses with one verb are told apart by their hashes. -/
def Descriptor.HashesApart (api : Descriptor) : Prop :=
  ∀ a ∈ api.resources, ∀ b ∈ api.resources, a.method = b.method →
    Naming.shortHash (Compile.fullTemplate api a) = Naming.shortHash (Compile.fullTemplate api b) →
    Compile.fullTemplate api a = Compile.fullTemplate api b

namespace Compile

/-- The routes of one API have different names exactly if hashes tell its templates apart. -/
theorem nodup_names_routes_iff {options : CompileOptions} {api : Descriptor} {compiled : Compiled}
    (success : compile options api = .ok compiled) :
    (compiled.routes.map Route.name).Nodup ↔ api.HashesApart := by
  -- The names depend on the resources alone, so it is to be shown that no two of these give the
  -- same.
  have names : compiled.routes.map Route.name = (effective api).map fun entry =>
      Naming.route api.id entry.resource.method entry.template :=
    map_routes (fun entry pool => rfl) success
  rw [names, List.nodup_map_iff_inj_on (nodup_requests api).of_map]
  constructor
  · intro injective a first b second methods hashes
    -- For both resources one counts, and these two have the same name.
    obtain ⟨entry, counts, template, method⟩ := exists_effective first
    obtain ⟨entry', counts', template', method'⟩ := exists_effective second
    have same := injective entry counts entry' counts' (by
      rw [template, template', method, method', methods, Naming.route, Naming.route,
        Naming.operation, Naming.operation, hashes])
    rw [← template, ← template', same]
  · intro apart entry counts entry' counts' same
    obtain ⟨_, methods, hashes⟩ := Naming.eq_of_append_operation same
    obtain ⟨among, template⟩ := of_mem_effective counts
    obtain ⟨among', template'⟩ := of_mem_effective counts'
    -- Verb and hash give the template, and verb and template give the resource.
    rw [template, template'] at hashes
    have templates := apart _ among _ among' methods hashes
    exact List.inj_on_of_nodup_map (nodup_requests api) counts counts'
      (Prod.ext (template.trans (templates.trans template'.symm)) methods)

end Compile

end ControlPlane
