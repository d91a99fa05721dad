import ControlPlane.Proofs.Document.Outline

/-! A written outline has the shape that the third version of the format wants. -/

namespace ControlPlane

namespace Document

namespace Shape

/-- An optional field is looked up. -/
theorem optional_obj (key : String) (shape : Shape) (fields : List (String × Json)) :
    optional key shape (.obj fields) = (Json.lookup key fields).all shape := rfl

/-- A text that may be left out or written has the shape of one that may be null. -/
theorem all_orNull_text (value : Option String) :
    (value.map Json.str).all (orNull text) = true := by
  -- A text that is left out has any shape, and one that is written is a text.
  cases value <;> rfl

end Shape

namespace Outline

open OpenApi

/-- A written operation has the shape of an operation. -/
theorem accepts_operation (fuel : Nat) (operation : Operation) :
    accepts (fuel + 1) .operation operation.openApi = true := by
  -- Apart from what is written, no key of the shape is there.
  simp (disch := decide) only [accepts, Shape.all, note, switch, List.all_cons, List.all_nil,
    Operation.openApi, Operation.entries, Shape.optional_obj, Shape.required,
    Json.lookup_append, lookup_maybe, Extensions.lookup_eq_none, Json.lookup]
  simp [Shape.all_orNull_text]

/-- A written item has the shape of a path's item. -/
theorem accepts_item (fuel : Nat) (item : Item) :
    accepts (fuel + 2) .pathItem (item.written Operation.openApi).2 = true := by
  -- The shape lists the verbs in an order of its own, which is that of all verbs.
  have verbs : ["get", "put", "post", "delete", "options", "head", "patch", "trace"] =
      Method.all.map Method.lowerText := rfl
  simp only [accepts, verbs, Shape.all, List.all_append, Bool.and_eq_true]
  constructor
  · -- The other keys are no verbs, and only verbs are written.
    simp (disch := decide) only [Item.written, note, List.all_cons, List.all_nil,
      Shape.optional_obj, Item.lookup_eq_none]
    rfl
  · -- Each verb has an operation or is left out.
    rw [List.map_map, List.all_map, List.all_eq_true]
    intro method _
    show Shape.optional method.lowerText _ (.obj _) = true
    rw [Shape.optional_obj, Item.lookup_fields]
    cases item.operations.lookup method with
    | none => rfl
    | some operation => exact accepts_operation fuel operation

/-- A written table of paths has the shape of one. -/
theorem paths_written (fuel : Nat) (items : List Item) :
    paths (fuel + 2) (.obj (items.map (·.written Operation.openApi))) = true := by
  show (items.map _).all _ = true
  -- Every item has its shape, whatever its path.
  rw [List.all_map, List.all_eq_true]
  intro item _
  show (_ || (_ || accepts (fuel + 2) .pathItem (item.written Operation.openApi).2)) = true
  rw [accepts_item, Bool.or_true, Bool.or_true]

/-- A written outline has the shape of a document. -/
theorem isDocument_openApi (outline : Outline) : isDocument outline.openApi = true := by
  -- The parts of the outline have their shapes, whatever is written of them.
  have about : OpenApi.info outline.info = true := rfl
  have servers : (outline.backend.map fun backend =>
      Json.arr [.obj [("url", .str backend.url)]]).all (Shape.list server) = true := by
    cases outline.backend <;> rfl
  have tables : paths (outline.openApi.depth + 1)
      (.obj (outline.items.map (·.written Operation.openApi))) = true := paths_written _ _
  unfold isDocument
  generalize outline.openApi.depth + 1 = fuel at tables
  simp (disch := decide) only [Shape.all, List.all_cons, List.all_nil, openApi, openApiEntries,
    Shape.optional_obj, Shape.required, Json.lookup_append, lookup_maybe,
    Extensions.lookup_eq_none, Json.lookup]
  simp [about, servers, tables, Shape.text]

end Outline

end Document

end ControlPlane
