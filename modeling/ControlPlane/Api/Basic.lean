import ControlPlane.Api.Endpoint
import ControlPlane.Duration
import ControlPlane.Labels
import ControlPlane.Ordered.Map

/-! The description of one API, whatever format it was written in. -/

namespace ControlPlane

/-- The identity of an API. -/
structure ApiId where
  name : String
  version : String
deriving DecidableEq, Repr

namespace ApiId

/-- Identities are ordered by name, and by version within a name. -/
instance : LT ApiId := ⟨fun a b => a.name < b.name ∨ a.name = b.name ∧ a.version < b.version⟩

instance : DecidableLT ApiId := fun a b =>
  inferInstanceAs (Decidable (a.name < b.name ∨ a.name = b.name ∧ a.version < b.version))

instance : StrictOrder ApiId where
  irrefl a := by
    rintro (less | ⟨_, less⟩)
    · exact StrictOrder.irrefl _ less
    · exact StrictOrder.irrefl _ less
  trans := by
    rintro a b c (less | ⟨same, less⟩) (less' | ⟨same', less'⟩)
    · exact Or.inl (StrictOrder.trans less less')
    · exact Or.inl (same' ▸ less)
    · exact Or.inl (same ▸ less')
    · exact Or.inr ⟨same.trans same', StrictOrder.trans less less'⟩
  connected := by
    intro a b notLess notGreater
    have names : a.name = b.name :=
      StrictOrder.connected (fun less => notLess (Or.inl less)) fun less => notGreater (Or.inl less)
    have versions : a.version = b.version :=
      StrictOrder.connected (fun less => notLess (Or.inr ⟨names, less⟩)) fun less =>
        notGreater (Or.inr ⟨names.symm, less⟩)
    cases a; cases b; simp_all

/-- The text of an identity. -/
def text (id : ApiId) : String := id.name ++ ":" ++ id.version

end ApiId

/-- One operation of an API: a path and a verb, with backends of its own if it has any. -/
structure Resource where
  path : String
  method : Method
  operationId : Option String
  summary : Option String
  production : List Endpoint
  sandbox : List Endpoint
deriving DecidableEq, Repr

/-- The backends of an operation for one environment. -/
def Resource.endpoints (resource : Resource) : Environment → List Endpoint
  | .production => resource.production
  | .sandbox => resource.sandbox

/-- The description of one API. -/
structure Descriptor where
  name : String
  version : String
  basePath : String
  resources : List Resource
  production : List Endpoint
  sandbox : List Endpoint
  labels : Labels
  requestTimeout : Option Duration
  provider : Option String
  /-- The vendor extensions at the top of the document. -/
  extensions : OrderedMap String Json

namespace Descriptor

/-- The identity of the API described. -/
def id (api : Descriptor) : ApiId := ⟨api.name, api.version⟩

/-- The backends that operations without their own use in one environment. -/
def endpoints (api : Descriptor) : Environment → List Endpoint
  | .production => api.production
  | .sandbox => api.sandbox

end Descriptor

end ControlPlane
