import ControlPlane.Toml.Basic

/-! Tables under construction: what headers and dotted keys may still add to. -/

namespace ControlPlane.Toml

/-- What brought a table into being. -/
inductive Origin where
  /-- A header of its own. -/
  | defined
  /-- The header of a table within it. -/
  | implied
  /-- A key with dots. -/
  | dotted
deriving DecidableEq, Repr

/-- A value to which a document may still add. -/
inductive Draft where
  /-- A value that is complete. -/
  | closed (value : Toml)
  | table (origin : Origin) (fields : List (String × Draft))
  /-- A list of tables, of which only the last is open. -/
  | tables (earlier : List Toml) (last : List (String × Draft))
deriving Repr

/-- The fields of a table under construction. -/
abbrev Draft.Fields := List (String × Draft)

namespace Draft

mutual
/-- The finished value. -/
def finish : Draft → Toml
  | .closed value => value
  | .table _ fields => .table (finishFields fields)
  | .tables earlier last => .list (earlier ++ [.table (finishFields last)])
/-- The finished fields. -/
def finishFields : List (String × Draft) → List (String × Toml)
  | [] => []
  | (key, draft) :: rest => (key, draft.finish) :: finishFields rest
end

/-- Changes the table at the end of a path; tables on the way are made with `origin`.

Dotted keys may not enter a table that has a header. -/
def changeAt? (origin : Origin) (change : Origin → Fields → Option Fields) :
    (here : Origin) → (path : List String) → Fields → Option Fields
  | here, [], fields => change here fields
  | _, key :: path, fields =>
    match Json.lookup key fields with
    | none =>
      (changeAt? origin change origin path []).map fun inner =>
        Json.store key (.table origin inner) fields
    | some (.closed _) => none
    | some (.table inside inner) =>
      if origin = .dotted ∧ inside = .defined then none
      else (changeAt? origin change inside path inner).map fun inner =>
        Json.store key (.table inside inner) fields
    | some (.tables earlier last) =>
      (changeAt? origin change .defined path last).map fun last =>
        Json.store key (.tables earlier last) fields

end Draft

/-- A key and its value; the key is a last name, and the names of the tables before it. -/
structure Assignment where
  path : List String
  key : String
  value : Toml

/-- Adds a new key to a table; a key with dots ends in a table that such keys made. -/
def Assignment.add? (entry : Assignment) (fields : Draft.Fields) : Option Draft.Fields :=
  let insert (here : Origin) (inner : Draft.Fields) : Option Draft.Fields :=
    if !entry.path.isEmpty && here != .dotted then none
    else match Json.lookup entry.key inner with
      | some _ => none
      | none => some (inner ++ [(entry.key, .closed entry.value)])
  Draft.changeAt? .dotted insert .defined entry.path fields

/-- Adds keys one after the other. -/
def addAll? (entries : List Assignment) (fields : Draft.Fields) : Option Draft.Fields :=
  entries.foldlM (fun fields entry => entry.add? fields) fields

/-- The table that has these keys and no others. -/
def tableOf? (entries : List Assignment) : Option Toml :=
  (addAll? entries []).map fun fields => .table (Draft.finishFields fields)

/-- A header with the keys below it; it opens a table, or the next one of a list. -/
structure Section where
  isItem : Bool
  path : List String
  key : String
  entries : List Assignment

/-- Adds a section to a document. A table may have one header, and may come after its inner ones. -/
def Section.add? (part : Section) (root : Draft.Fields) : Option Draft.Fields :=
  let place (draft : Draft) (parent : Draft.Fields) := Json.store part.key draft parent
  let insert (_ : Origin) (parent : Draft.Fields) : Option Draft.Fields :=
    match part.isItem, Json.lookup part.key parent with
    | false, none => (addAll? part.entries []).map fun inner =>
      place (.table .defined inner) parent
    | false, some (.table .implied inner) => (addAll? part.entries inner).map fun inner =>
      place (.table .defined inner) parent
    | true, none => (addAll? part.entries []).map fun inner => place (.tables [] inner) parent
    | true, some (.tables earlier last) => (addAll? part.entries []).map fun inner =>
      place (.tables (earlier ++ [.table (Draft.finishFields last)]) inner) parent
    | _, _ => none
  Draft.changeAt? .implied insert .defined part.path root

/-- The keys before the first header, and the sections after it. -/
structure Outline where
  entries : List Assignment
  sections : List Section

/-- The table that a document describes. -/
def Outline.table? (outline : Outline) : Option Toml := do
  let top ← addAll? outline.entries []
  let fields ← outline.sections.foldlM (fun root part => part.add? root) top
  return .table (Draft.finishFields fields)

end ControlPlane.Toml
