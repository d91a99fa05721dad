import ControlPlane.Text.Base64
import ControlPlane.Text.Blank

/-! Sections of a PEM file: lines of Base64 between a line that begins and one that ends them. -/

namespace ControlPlane.Tls

/-- A section of a file: its label and its bytes. -/
structure Section where
  label : String
  contents : List UInt8
deriving Repr

namespace Pem

/-- The labels of the sections that are read; others are passed over. -/
def labels : List String :=
  ["CERTIFICATE", "PUBLIC KEY", "RSA PRIVATE KEY", "PRIVATE KEY", "EC PRIVATE KEY", "X509 CRL",
    "CERTIFICATE REQUEST", "ECHCONFIG"]

/-- The labels of the sections that hold a private key. -/
def keyLabels : List String := ["RSA PRIVATE KEY", "PRIVATE KEY", "EC PRIVATE KEY"]

/-- The sections of a file up to the first fault. -/
structure Reading where
  sections : List Section
  isIntact : Bool
deriving Repr

/-- A reading with a section in front. -/
def Reading.after (part : Section) (rest : Reading) : Reading :=
  { rest with sections := part :: rest.sections }

/-- How a line begins that begins a section. -/
def opening : List Char := "-----BEGIN ".toList

/-- The label in a line that begins a section, after which five dashes and blanks may follow. -/
def label? (rest : List Char) : Option (List Char) :=
  let isFiller (c : Char) := c == '-' || c == ' '
  let tail := rest.reverse.takeWhile isFiller
  if tail.count '-' = 5 then
    -- The label ends where the first of the five dashes stands.
    some ((rest.reverse.dropWhile isFiller).reverse ++ (tail.reverse.takeWhile (· == ' ')))
  else none

/-- The line that ends a section. -/
def closing (label : List Char) : List Char := "-----END ".toList ++ label ++ "-----".toList

/-- The bytes of a section's lines, in which white space means nothing. -/
def contents? (body : List Char) : Option (List UInt8) :=
  Text.Base64.decode? false (body.filter fun c => !(c == ' ' || ('\t' ≤ c && c ≤ '\r')))

/-- The sections in the lines that follow, the label of the open one and its body so far.

A section that begins inside another keeps the body of that one. -/
def readLines (section? : Option (List Char)) (body : List Char) : List (List Char) → Reading
  | [] => ⟨[], section?.isNone⟩
  | line :: rest =>
    match Text.afterPrefix? opening line, section? with
    | some after, _ =>
      match label? after with
      | some label => readLines (some label) body rest
      | none => ⟨[], false⟩
    | none, some label =>
      if (Text.afterPrefix? (closing label) line).isSome then
        if labels.contains (String.ofList label) then
          match contents? body with
          | some contents => (readLines none [] rest).after ⟨String.ofList label, contents⟩
          | none => ⟨[], false⟩
        else readLines none [] rest
      else readLines section? (body ++ line) rest
    | none, none => readLines none body rest

/-- The sections of a file. -/
def read (file : ByteArray) : Reading :=
  let chars := file.toList.map fun b => Char.ofNat b.toNat
  readLines none [] (Text.cutAt (fun c => c == '\n' || c == '\r') chars)

/-- The certificates of a file; none if it has a fault. -/
def certificates? (file : ByteArray) : Option (List (List UInt8)) :=
  let reading := read file
  if reading.isIntact then
    some ((reading.sections.filter (·.label == "CERTIFICATE")).map Section.contents)
  else none

/-- The first private key of a file, before any fault. -/
def key? (file : ByteArray) : Option Section :=
  (read file).sections.find? fun part => keyLabels.contains part.label

end Pem

end ControlPlane.Tls
