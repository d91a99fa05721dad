import ControlPlane.Document.OpenApi
import ControlPlane.Document.Swagger
import ControlPlane.Path

/-! The description of an API from a document of either format. -/

namespace ControlPlane.Document

/-- An operation as a resource of the API. -/
def Operation.toResource (operation : Operation) : Resource :=
  { path := Path.rooted operation.path
    method := operation.method
    operationId := operation.operationId
    summary := operation.summary
    production := operation.extensions.production
    sandbox := operation.extensions.sandbox }

/-- The description that the parts of a document amount to.

What extensions declare goes before what the document declares elsewhere. -/
def Parts.assemble (parts : Parts) : Except Fault Descriptor :=
  let name := Text.trim parts.title
  let version := Text.trim parts.version
  if name.isEmpty then .error .emptyTitle
  else if version.isEmpty then .error .emptyVersion
  else
    let extensions := parts.extensions
    .ok { name, version
          basePath := Path.normalize ((extensions.basePath.or parts.basePath).getD "/")
          resources := parts.operations.map Operation.toResource
          production :=
            if extensions.production.isEmpty then parts.production else extensions.production
          sandbox := extensions.sandbox
          labels := extensions.labels
          requestTimeout := extensions.requestTimeout
          provider := extensions.provider
          extensions := extensions.declared }

/-- The description that a decoded document gives. -/
def describe (document : Json) : Except Fault Descriptor := do
  let parts ← match ← formatOf document with
    | .swagger2 => Swagger.read document
    | .openApi3 => OpenApi.read document
  parts.assemble

/-- The description that the bytes of a document give. -/
def normalize (raw : ByteArray) : Except Fault Descriptor := do describe (← decode raw)

end ControlPlane.Document
