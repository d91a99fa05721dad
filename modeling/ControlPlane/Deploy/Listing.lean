import ControlPlane.Deploy.Deployer

/-! The documents by which clients learn what is deployed and what became of an upload. -/

namespace ControlPlane

/-- The names of labels. -/
def Labels.toJson (labels : Labels) : Json := .arr (labels.toList.map fun label => .str label.text)

/-- The report on an upload. -/
def Report.toJson (report : Report) : Json :=
  .obj [
    ("deployed", .arr (report.deployed.map fun deployed =>
      .obj [("name", .str deployed.id.name), ("version", .str deployed.id.version),
        ("labels", deployed.labels.toJson)])),
    ("skipped", .arr (report.skipped.map fun skipped =>
      .obj [("name", .str skipped.id.name), ("version", .str skipped.id.version),
        ("reason", .str skipped.reason)]))]

/-- What the listing says about an API. -/
def Descriptor.summary (api : Descriptor) : Json :=
  .obj [("name", .str api.name), ("version", .str api.version), ("basePath", .str api.basePath),
    ("labels", api.labels.toJson),
    ("provider", match api.provider with
      | some provider => .str provider
      | none => .null)]

/-- The listing of some APIs. -/
def listing (apis : List Descriptor) : Json := .arr (apis.map Descriptor.summary)

end ControlPlane
