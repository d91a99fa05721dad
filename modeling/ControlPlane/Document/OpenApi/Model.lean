import ControlPlane.Document.Shape

/-! The shape of documents in the third version of the format, part by part. -/

namespace ControlPlane.Document.OpenApi

/-- The parts of a document that hold others. -/
inductive Part where
  | schema | mediaType | header | parameter | response | link | callback | operation | pathItem
deriving DecidableEq, Repr

open Shape

/-- An optional text. -/
def note (key : String) : Shape := optional key (orNull text)

/-- A boolean that may be left out. -/
def switch (key : String) : Shape := optional key flag

/-- Documentation elsewhere. -/
def externalDocs : Shape := all [note "description", required "url" text]

/-- A person or organisation to ask. -/
def contact : Shape := all [note "name", note "url", note "email"]

/-- A licence. -/
def licence : Shape := all [required "name" text, note "url"]

/-- What is said about the API as a whole. -/
def info : Shape :=
  all [required "title" text, note "description", note "termsOfService",
    optional "contact" (orNull contact), optional "license" (orNull licence),
    required "version" text]

/-- A variable in the URL of a server. -/
def serverVariable : Shape :=
  all [required "default" text, optional "enum" (list text), note "description"]

/-- A server. -/
def server : Shape :=
  all [required "url" text, note "description",
    optional "variables" (orNull (table serverVariable))]

/-- A tag. -/
def tag : Shape :=
  all [required "name" text, note "description", optional "externalDocs" (orNull externalDocs)]

/-- The security schemes that a call needs, each with its scopes. -/
def security : Shape := list (table (list text))

/-- An example of a value. -/
def exampleValue : Shape := all [note "summary", note "description", note "externalValue"]

/-- A table of examples. -/
def examples : Shape := optional "examples" (table (orReference exampleValue))

/-- How an authorization server grants access. -/
def flow (urls : List String) : Shape :=
  all (urls.map (required · text) ++ [note "refreshUrl", optional "scopes" (table text)])

/-- The ways of an authorization server. -/
def flows : Shape :=
  all [optional "implicit" (orNull (flow ["authorizationUrl"])),
    optional "password" (orNull (flow ["tokenUrl"])),
    optional "clientCredentials" (orNull (flow ["tokenUrl"])),
    optional "authorizationCode" (orNull (flow ["authorizationUrl", "tokenUrl"]))]

/-- A way to secure calls. -/
def securityScheme : Shape :=
  any [
    all [required "type" (word ["apiKey"]), required "in" (word ["query", "header", "cookie"]),
      required "name" text, note "description"],
    all [required "type" (word ["http"]), required "scheme" text, note "bearerFormat",
      note "description"],
    all [required "type" (word ["oauth2"]), required "flows" flows, note "description"],
    all [required "type" (word ["openIdConnect"]), required "openIdConnectUrl" text,
      note "description"]]

/-- How the alternatives of a schema are told apart. -/
def discriminator : Shape := all [required "propertyName" text, optional "mapping" (table text)]

/-- What a schema says besides the values it allows. -/
def schemaData : Shape :=
  all [switch "nullable", switch "readOnly", switch "writeOnly", switch "deprecated",
    optional "externalDocs" (orNull externalDocs), note "title", note "description",
    optional "discriminator" (orNull discriminator)]

/-- The values that a schema allows, given the shape of the schemas inside it.

A schema whose type is known has the fields of that type; any other has the fields of all. -/
def schemaKind (schema : Shape) : Shape :=
  let inner := orReference schema
  let schemas (key : String) : Shape := required key (list inner)
  let limit (key : String) : Shape := optional key (orNull count)
  let bound (key : String) : Shape := optional key (orNull number)
  let members : List Shape :=
    [optional "properties" (table inner), optional "required" (list text),
      optional "additionalProperties" (orNull (any [flag, inner])),
      limit "minProperties", limit "maxProperties"]
  let elements : List Shape := [optional "items" (orNull inner), limit "minItems", limit "maxItems"]
  let characters : List Shape := [note "pattern", limit "minLength", limit "maxLength"]
  any [
    all ([required "type" (word ["string"]), optional "format" (orNull text),
      optional "enum" (list (orNull text))] ++ characters),
    all [required "type" (word ["number"]), optional "format" (orNull text), bound "multipleOf",
      switch "exclusiveMinimum", switch "exclusiveMaximum", bound "minimum", bound "maximum",
      optional "enum" (list (orNull number))],
    all [required "type" (word ["integer"]), optional "format" (orNull text),
      optional "multipleOf" (orNull integer), switch "exclusiveMinimum", switch "exclusiveMaximum",
      optional "minimum" (orNull integer), optional "maximum" (orNull integer),
      optional "enum" (list (orNull integer))],
    all (required "type" (word ["object"]) :: members),
    all ([required "type" (word ["array"]), switch "uniqueItems"] ++ elements),
    required "type" (word ["boolean"]),
    schemas "oneOf", schemas "allOf", schemas "anyOf", required "not" inner,
    all ([note "type", bound "multipleOf", optional "exclusiveMinimum" (orNull flag),
      optional "exclusiveMaximum" (orNull flag), bound "minimum", bound "maximum",
      optional "uniqueItems" (orNull flag), optional "enum" (list anything), note "format",
      optional "oneOf" (list inner), optional "allOf" (list inner), optional "anyOf" (list inner),
      optional "not" (orNull inner)] ++ members ++ elements ++ characters)]

/-- A key of a table of responses that names a status or a class of statuses. -/
def isStatus (key : String) : Bool :=
  match key.toList with
  | [d, 'X', 'X'] | [d, 'X', 'x'] | [d, 'x', 'X'] | [d, 'x', 'x'] => d.isDigit
  | [a, b, c] => a.isDigit && a != '0' && b.isDigit && c.isDigit
  | _ => false

/-- The styles in which a parameter may be written, by where it stands. -/
def parameterStyles : List (String × List String) :=
  [("query", ["form", "spaceDelimited", "pipeDelimited", "deepObject"]), ("header", ["simple"]),
    ("path", ["matrix", "label", "simple"]), ("cookie", ["form"])]

/-- Whether a value has the shape of a part.

Parts nest at most as deep as values do, so the depth of the value and one more is fuel enough. -/
def accepts (fuel : Nat) (part : Part) : Shape :=
  match fuel with
  | 0 => fun _ => false
  | fuel + 1 =>
    let inside := accepts fuel
    let content := table (inside .mediaType)
    let format :=
      firstOf [("schema", orReference (inside .schema)), ("content", content)]
    let parameters := optional "parameters" (list (orReference (inside .parameter)))
    match part with
    | .schema => all [schemaData, schemaKind (inside .schema)]
    | .mediaType =>
      let encoding := all [note "contentType",
        optional "headers" (table (orReference (inside .header))),
        optional "style" (orNull (word ["form", "spaceDelimited", "pipeDelimited", "deepObject"])),
        switch "explode", switch "allowReserved"]
      all [optional "schema" (orNull (orReference (inside .schema))), examples,
        optional "encoding" (table encoding)]
    | .header =>
      all [note "description", optional "style" (word ["simple"]), switch "required",
        optional "deprecated" (orNull flag), format, examples]
    | .parameter =>
      let placed (place : String × List String) : Shape :=
        all [required "in" (word [place.1]), optional "style" (word place.2)]
      let queryOnly : Shape :=
        any [required "in" (word ["header", "path", "cookie"]),
          all [switch "allowReserved", optional "allowEmptyValue" (orNull flag)]]
      all [required "name" text, note "description", switch "required",
        optional "deprecated" (orNull flag), format, examples, optional "explode" (orNull flag),
        any (parameterStyles.map placed), queryOnly]
    | .response =>
      all [required "description" text, optional "headers" (table (orReference (inside .header))),
        optional "content" content, optional "links" (table (orReference (inside .link)))]
    | .link =>
      all [note "description", firstOf [("operationRef", text), ("operationId", text)],
        optional "parameters" (table anything), optional "server" (orNull server)]
    | .callback => table (inside .pathItem)
    | .operation =>
      let requestBody := all [note "description", required "content" content, switch "required"]
      let responses : Shape
        | .obj fields =>
          fields.all fun (key, value) =>
            if key = "default" then orNull (orReference (inside .response)) value
            else !isStatus key || orReference (inside .response) value
        | _ => false
      all [optional "tags" (list text), note "summary", note "description",
        optional "externalDocs" (orNull externalDocs), note "operationId", parameters,
        optional "requestBody" (orNull (orReference requestBody)), required "responses" responses,
        optional "callbacks" (table (inside .callback)), switch "deprecated",
        optional "security" (orNull security), optional "servers" (list server)]
    | .pathItem =>
      let verbs := ["get", "put", "post", "delete", "options", "head", "patch", "trace"]
      all ([note "summary", note "description", optional "servers" (list server), parameters] ++
        verbs.map (optional · (orNull (inside .operation))))

/-- Parts that a document holds for reference, by their kind. -/
def components (fuel : Nat) : Shape :=
  let tableOf (key : String) (part : Part) : Shape :=
    optional key (table (orReference (accepts fuel part)))
  let requestBody := all [note "description", switch "required",
    required "content" (table (accepts fuel .mediaType))]
  all [tableOf "schemas" .schema, tableOf "responses" .response, tableOf "parameters" .parameter,
    optional "examples" (table (orReference exampleValue)),
    optional "requestBodies" (table (orReference requestBody)), tableOf "headers" .header,
    optional "securitySchemes" (table (orReference securityScheme)), tableOf "links" .link,
    tableOf "callbacks" .callback]

/-- The table of paths; only keys with a leading slash count. -/
def paths (fuel : Nat) : Shape
  | .obj fields =>
    fields.all fun (key, value) =>
      key.toList.head? != some '/' || orReference (accepts fuel .pathItem) value
  | _ => false

/-- Whether a value is a document of this format. -/
def isDocument (document : Json) : Bool :=
  let fuel := document.depth + 1
  all [required "openapi" text, required "info" info, optional "servers" (list server),
    required "paths" (paths fuel), optional "components" (orNull (components fuel)),
    optional "security" (orNull security), optional "tags" (list tag),
    optional "externalDocs" (orNull externalDocs)] document

end ControlPlane.Document.OpenApi
