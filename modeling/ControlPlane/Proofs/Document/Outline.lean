import ControlPlane.Document.Normalize
import ControlPlane.Proofs.Text.Utf8
import ControlPlane.Proofs.Url.Path

/-! Outlines of APIs, as far as every format can express them, and how each format writes them. -/

namespace ControlPlane

namespace Json

/-- A key of two lists together is looked up in the first one, and then in the second one. -/
@[simp] theorem lookup_append {α : Type} (key : String) (front back : List (String × α)) :
    lookup key (front ++ back) = (lookup key front).or (lookup key back) := by
  -- The induction is on the first list; an entry in front is the one that is found or plays no
  -- part.
  induction front with
  | nil => rfl
  | cons entry rest ih =>
    by_cases same : entry.1 = key <;> simp [lookup, same, ih]

/-- A key that no entry has is not found. -/
theorem lookup_eq_none {α : Type} {key : String} {fields : List (String × α)}
    (absent : ∀ entry ∈ fields, entry.1 ≠ key) : lookup key fields = none := by
  -- No entry in front is found, so the search goes on to the end.
  induction fields with
  | nil => rfl
  | cons entry rest ih =>
    rw [List.forall_mem_cons] at absent
    rw [lookup, if_neg absent.1, ih absent.2]

end Json

namespace Document

/-- The bytes of a text in JSON hold the value of the text. -/
theorem decode_of_parse {text : String} {value : Json} (parsed : Json.parse? text = some value) :
    decode text.toUTF8 = .ok value := by
  -- The bytes are a text, and reading it as JSON comes first.
  simp only [decode, String.toUTF8_eq_toByteArray, Text.fromUTF8?_toByteArray, parsed]

/-- An entry of an object that may be left out. -/
def maybe (key : String) (value : Option Json) : List (String × Json) :=
  (value.map fun value => (key, value)).toList

/-- An entry that may be left out is found under its own key, if it is there. -/
@[simp] theorem lookup_maybe (key other : String) (value : Option Json) :
    Json.lookup key (maybe other value) = if other = key then value else none := by
  cases value <;> simp [maybe, Json.lookup]

/-- An entry with a key that is no extension's is no extension, whether it is left out or not. -/
theorem foreign_maybe {key : String} (foreign : isExtension key = false) (value : Option Json) :
    ∀ entry ∈ maybe key value, isExtension entry.1 = false := by
  intro entry member
  -- There is one entry at most, and its key is the given one.
  cases value with
  | none => cases member
  | some value => exact List.mem_singleton.mp member ▸ foreign

/-- Vendor extensions in the order in which they are written. -/
structure Extensions where
  entries : List (String × Json)
  marked : ∀ entry ∈ entries, isExtension entry.1 = true

namespace Extensions

/-- Among extensions there is nothing under any other key. -/
theorem lookup_eq_none (extensions : Extensions) {key : String}
    (foreign : isExtension key = false) : Json.lookup key extensions.entries = none := by
  -- An entry under the key would have to be an extension, which the key denies.
  apply Json.lookup_eq_none
  rintro entry member rfl
  rw [extensions.marked entry member] at foreign
  cases foreign

variable {entries : List (String × Json)} (foreign : ∀ entry ∈ entries, isExtension entry.1 = false)
  (extensions : Extensions)
include foreign

/-- What a whole API declares depends on the extensions alone. -/
theorem read_api :
    ApiExtensions.read (entries ++ extensions.entries) = ApiExtensions.read extensions.entries := by
  -- What is in front is filtered out, as none of it is an extension.
  have same : extensionsOf (entries ++ extensions.entries) = extensionsOf extensions.entries := by
    unfold extensionsOf
    rw [List.filter_append, List.filter_eq_nil_iff.mpr fun entry member => by
      simp [foreign entry member], List.nil_append]
  -- Reading looks at nothing but the extensions.
  unfold ApiExtensions.read
  rw [same]

/-- What an operation declares depends on the extensions alone. -/
theorem read_operation : OperationExtensions.read (entries ++ extensions.entries) =
    OperationExtensions.read extensions.entries := by
  -- In front there is nothing under the key of an extension.
  have absent : ∀ key, isExtension key = true → Json.lookup key entries = none := by
    intro key marked
    apply Json.lookup_eq_none
    rintro entry member rfl
    rw [foreign entry member] at marked
    cases marked
  unfold OperationExtensions.read
  -- Both keys that are looked up are keys of extensions.
  rw [Json.lookup_append, Json.lookup_append, absent productionKey (by decide),
    absent sandboxKey (by decide), Option.none_or, Option.none_or]

end Extensions

namespace Outline

/-- What an operation declares. -/
structure Operation where
  operationId : Option String
  summary : Option String
  extensions : Extensions

/-- A path and the operations that are declared for it, in any order. -/
structure Item where
  path : String
  rooted : path.toList.head? = some '/'
  operations : List (Method × Operation)

/-- A backend for the whole API. -/
structure Backend where
  /-- Whether the scheme is `https`, or else `http`. -/
  secure : Bool
  /-- The host, with a port after a colon if it has one. -/
  host : String
  basePath : String
  named : host ≠ ""
  plain : ∀ c ∈ host.toList, Url.isHostChar c = true
  /-- Reading the base path as the path of a URL leaves it as it is. -/
  settled : Url.readPath true basePath.toList = basePath

/-- The scheme of a backend. -/
def Backend.scheme (backend : Backend) : String := if backend.secure then "https" else "http"

/-- The scheme of a backend is one of the web. -/
theorem Backend.web (backend : Backend) : backend.scheme = "http" ∨ backend.scheme = "https" := by
  unfold scheme
  -- There are two schemes, for the two ways of speaking with a backend.
  cases backend.secure
  · exact Or.inl rfl
  · exact Or.inr rfl

/-- The URL of a backend. -/
def Backend.url (backend : Backend) : String :=
  backend.scheme ++ "://" ++ backend.host ++ backend.basePath

end Outline

/-- What a document of any format can say about an API. -/
structure Outline where
  title : String
  version : String
  backend : Option Outline.Backend
  items : List Outline.Item
  extensions : Extensions

namespace Outline

/-- What is said about an API as a whole. -/
def info (outline : Outline) : Json :=
  .obj [("title", .str outline.title), ("version", .str outline.version)]

/-- The operations of an item under the names of their verbs, each written in some way. -/
def Item.fields (item : Item) (write : Operation → Json) : List (String × Json) :=
  item.operations.map fun (method, operation) => (method.lowerText, write operation)

/-- An item under its path. -/
def Item.written (item : Item) (write : Operation → Json) : String × Json :=
  (item.path, .obj (item.fields write))

/-- The operation under a verb is the written one. -/
theorem Item.lookup_fields (item : Item) (write : Operation → Json) (method : Method) :
    Json.lookup method.lowerText (item.fields write) =
      (item.operations.lookup method).map write := by
  unfold fields
  -- The induction is on the operations that are declared; verbs with one name are one verb.
  induction item.operations with
  | nil => rfl
  | cons entry rest ih =>
    obtain ⟨other, operation⟩ := entry
    rw [List.map_cons, Json.lookup, List.lookup_cons]
    by_cases same : other = method
    · subst same
      simp
    · -- Another verb has another name, so the entry is passed over in both lists.
      have apart : (method == other) = false := by simpa using Ne.symm same
      rw [if_neg fun texts => same (Method.lowerText_injective texts), ih, apart]

/-- There is nothing under a key that is not the name of a verb. -/
theorem Item.lookup_eq_none (item : Item) (write : Operation → Json) {key : String}
    (foreign : key ∉ Method.all.map Method.lowerText) :
    Json.lookup key (item.fields write) = none := by
  -- Each entry has the name of a verb as its key.
  apply Json.lookup_eq_none
  rintro entry member rfl
  obtain ⟨⟨method, operation⟩, _, rfl⟩ := List.mem_map.mp member
  exact foreign (List.mem_map.mpr ⟨method, method.mem_all, rfl⟩)

/-- What both formats write of an operation besides its extensions. -/
def Operation.entries (operation : Operation) : List (String × Json) :=
  maybe "operationId" (operation.operationId.map Json.str) ++
    maybe "summary" (operation.summary.map Json.str)

/-- None of that is an extension. -/
theorem Operation.foreign_entries (operation : Operation) :
    ∀ entry ∈ operation.entries, isExtension entry.1 = false := by
  -- Both keys are fixed, and neither has the mark of extensions.
  unfold entries
  rw [List.forall_mem_append]
  exact ⟨foreign_maybe (by decide) _, foreign_maybe (by decide) _⟩

/-- An operation in the second version of the format. -/
def Operation.swagger (operation : Operation) : Json :=
  .obj (operation.entries ++ operation.extensions.entries)

/-- An operation in the third version of the format, which wants responses. -/
def Operation.openApi (operation : Operation) : Json :=
  .obj ((operation.entries ++ [("responses", .obj [])]) ++ operation.extensions.entries)

/-- The second version of the format has the parts of the backend's URL. -/
def swaggerEntries (outline : Outline) : List (String × Json) :=
  [("swagger", .str "2.0"), ("info", outline.info)] ++
    maybe "schemes" (outline.backend.map fun backend => .arr [.str backend.scheme]) ++
    maybe "host" (outline.backend.map fun backend => .str backend.host) ++
    maybe "basePath" (outline.backend.map fun backend => .str backend.basePath) ++
    [("paths", .obj (outline.items.map (·.written Operation.swagger)))]

/-- None of them is an extension. -/
theorem foreign_swaggerEntries (outline : Outline) :
    ∀ entry ∈ outline.swaggerEntries, isExtension entry.1 = false := by
  -- Each key is fixed, and none has the mark of extensions, whether its entry is there or not.
  simp only [swaggerEntries, List.forall_mem_append, List.forall_mem_cons]
  refine ⟨⟨⟨⟨⟨by decide, by decide, by simp⟩, ?_⟩, ?_⟩, ?_⟩, by decide, by simp⟩
  · exact foreign_maybe (by decide) _
  · exact foreign_maybe (by decide) _
  · exact foreign_maybe (by decide) _

/-- An outline in the second version of the format. -/
def swagger (outline : Outline) : Json :=
  .obj (outline.swaggerEntries ++ outline.extensions.entries)

/-- The third version of the format has servers with their whole URLs. -/
def openApiEntries (outline : Outline) : List (String × Json) :=
  [("openapi", .str "3.0.0"), ("info", outline.info)] ++
    maybe "servers" (outline.backend.map fun backend =>
      .arr [.obj [("url", .str backend.url)]]) ++
    [("paths", .obj (outline.items.map (·.written Operation.openApi)))]

/-- None of them is an extension. -/
theorem foreign_openApiEntries (outline : Outline) :
    ∀ entry ∈ outline.openApiEntries, isExtension entry.1 = false := by
  -- Here too each key is fixed and without the mark.
  simp only [openApiEntries, List.forall_mem_append, List.forall_mem_cons]
  refine ⟨⟨⟨by decide, by decide, by simp⟩, ?_⟩, by decide, by simp⟩
  exact foreign_maybe (by decide) _

/-- An outline in the third version of the format. -/
def openApi (outline : Outline) : Json :=
  .obj (outline.openApiEntries ++ outline.extensions.entries)

end Outline

end Document

end ControlPlane
