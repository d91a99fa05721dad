import ControlPlane.Proofs.Wire.Message
import ControlPlane.Wire.Cluster

/-! What the wire form of a cluster tells a proxy: how its endpoints are found, and where. -/

namespace ControlPlane

namespace Wire

open Proto

/-- Of a cluster, the proxy reads how the endpoints are found, where to ask for them if that is by
discovery, and the endpoints themselves if it is not. -/
theorem fields_cluster (c : Cluster) :
    Message.fields (cluster c) 2 = numberAlways 2 (resolution c).code ∧
    Message.fields (cluster c) 3 =
      (if resolution c = .discovery then message 3 (message 1 streamSource) else []) ∧
    Message.fields (cluster c) 33 =
      (if resolution c = .discovery then [] else message 33 (assignment c.assignment)) := by
  -- Each field has a number of its own, so every other part of the message is passed over.
  unfold cluster
  by_cases discovered : resolution c = .discovery <;> by_cases tls : c.tls = true <;>
    simp [discovered, tls]

/-- The endpoints of a cluster that has some are found by discovery if all of them are addresses. -/
theorem resolution_eq_discovery_iff {c : Cluster} (some : c.endpoints ≠ []) :
    resolution c = .discovery ↔ ∀ address ∈ c.endpoints, address.isIp = true := by
  have used : c.usesDiscovery = true ↔ ∀ address ∈ c.endpoints, address.isIp = true := by
    simp [Cluster.usesDiscovery, some]
  rw [← used]
  unfold resolution
  split
  · simp [*]
  · -- Neither of the other ways is discovery.
    split <;> simp [*]

/-- A cluster with names among its endpoints is resolved as one host if it has but one. -/
theorem resolution_of_name {c : Cluster} (some : c.endpoints ≠ [])
    (named : ¬ ∀ address ∈ c.endpoints, address.isIp = true) :
    resolution c = if c.endpoints.length = 1 then .logicalDns else .strictDns := by
  have unused : c.usesDiscovery = false := by
    rw [← Bool.not_eq_true]
    simpa [Cluster.usesDiscovery, some] using named
  -- A cluster that has some endpoints has at most one just if it has one.
  have positive : 0 < c.endpoints.length := List.length_pos_iff.mpr some
  have single : c.endpoints.length ≤ 1 ↔ c.endpoints.length = 1 := by omega
  simp only [resolution, unused, single, Bool.false_eq_true, if_false]

end Wire

end ControlPlane
