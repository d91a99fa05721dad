import ControlPlane.Wire.Shared

/-! The four kinds of resources that proxies subscribe to, and values for each of them. -/

namespace ControlPlane

/-- A kind of resources. -/
inductive ResourceKind where
  | endpoint | cluster | route | listener
deriving DecidableEq, Repr

namespace ResourceKind

/-- The kinds, each after those that its resources refer to. -/
def all : List ResourceKind := [.endpoint, .cluster, .route, .listener]

/-- The place of a kind in that order. -/
def rank : ResourceKind → Nat
  | endpoint => 0
  | cluster => 1
  | route => 2
  | listener => 3

/-- The URL that names a kind on the wire. -/
def typeUrl : ResourceKind → String
  | endpoint => Wire.typeUrl "envoy.config.endpoint.v3.ClusterLoadAssignment"
  | cluster => Wire.typeUrl "envoy.config.cluster.v3.Cluster"
  | route => Wire.typeUrl "envoy.config.route.v3.RouteConfiguration"
  | listener => Wire.typeUrl "envoy.config.listener.v3.Listener"

/-- The kind that a URL names. -/
def ofTypeUrl? (url : String) : Option ResourceKind := all.find? (·.typeUrl = url)

/-- Whether subscribers get every resource of a kind, whatever names they ask for. -/
def isWildcard : ResourceKind → Bool
  | listener | cluster => true
  | endpoint | route => false

/-- The abbreviation of the discovery service for a kind. -/
def shortName : ResourceKind → String
  | endpoint => "EDS"
  | cluster => "CDS"
  | route => "RDS"
  | listener => "LDS"

/-- Every kind is listed. -/
theorem mem_all (kind : ResourceKind) : kind ∈ all := by cases kind <;> simp [all]

end ResourceKind

/-- A value for each kind. -/
structure PerKind (α : Type) where
  endpoint : α
  cluster : α
  route : α
  listener : α
deriving DecidableEq, Repr

namespace PerKind

variable {α : Type}

/-- The same value for every kind. -/
def always (value : α) : PerKind α := ⟨value, value, value, value⟩

/-- The value for a kind. -/
def get (values : PerKind α) : ResourceKind → α
  | .endpoint => values.endpoint
  | .cluster => values.cluster
  | .route => values.route
  | .listener => values.listener

/-- The values with another one for a kind. -/
def set (values : PerKind α) (kind : ResourceKind) (value : α) : PerKind α :=
  match kind with
  | .endpoint => { values with endpoint := value }
  | .cluster => { values with cluster := value }
  | .route => { values with route := value }
  | .listener => { values with listener := value }

/-- The values after a function for each. -/
def map {β : Type} (f : α → β) (values : PerKind α) : PerKind β :=
  ⟨f values.endpoint, f values.cluster, f values.route, f values.listener⟩

@[simp] theorem get_always (value : α) (kind : ResourceKind) : (always value).get kind = value := by
  cases kind <;> rfl

@[simp] theorem get_set (values : PerKind α) (kind other : ResourceKind) (value : α) :
    (values.set kind value).get other = if kind = other then value else values.get other := by
  cases kind <;> cases other <;> rfl

@[simp] theorem get_map {β : Type} (f : α → β) (values : PerKind α) (kind : ResourceKind) :
    (values.map f).get kind = f (values.get kind) := by
  cases kind <;> rfl

/-- Values that agree for every kind are the same values. -/
theorem ext {left right : PerKind α} (same : ∀ kind, left.get kind = right.get kind) :
    left = right := by
  cases left; cases right
  have e := same .endpoint
  have c := same .cluster
  have r := same .route
  have l := same .listener
  simp only [get] at e c r l
  simp [e, c, r, l]

end PerKind

end ControlPlane
