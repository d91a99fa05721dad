import Mathlib.Data.List.TakeWhile
import ControlPlane.Deploy.Bundle
import ControlPlane.Proofs.Archive.Directory
import ControlPlane.Proofs.Sequence
import ControlPlane.Proofs.Text.Case
import ControlPlane.Proofs.Text.Cut

/-! Extraction of the documents of an archive: they come out complete and within the limit, unless
the limit is the greatest word, under which the count of bytes to read overflows. -/

namespace ControlPlane

namespace Bundle

section Names

/-- A character is a point just if its lower-case form is one. -/
theorem lowerAscii_eq_point_iff {c : Char} : Text.lowerAscii c = '.' ↔ c = '.' :=
  -- No mark changes in lower case, and no letter becomes a mark.
  Text.toLower_eq_iff (by decide)

/-- A text without a point is not cut at points. -/
theorem cutAt_point_eq_singleton {cs : List Char} (absent : '.' ∉ cs) :
    Text.cutAt (· == '.') cs = [cs] := by
  apply Text.cutAt_of_forall
  intro c member
  have apart : c ≠ '.' := fun same => absent (same ▸ member)
  simpa using apart

/-- A text without a point has no extension. -/
theorem extension?_eq_none {cs : List Char} (absent : '.' ∉ cs) : extension? cs = none := by
  -- Where nothing is cut there is one piece, and one piece has no extension.
  unfold extension?
  rw [cutAt_point_eq_singleton absent]

/-- What stands behind the last point of a text is its extension. -/
theorem extension?_append {ext : List Char} (absent : '.' ∉ ext) (stem : List Char) :
    extension? (stem ++ '.' :: ext) = some ext := by
  -- The last cut is in front of the extension, which has no point of its own.
  have pieces : Text.cutAt (· == '.') (stem ++ '.' :: ext) =
      Text.cutAt (· == '.') stem ++ Text.cutAt (· == '.') ext := Text.cutAt_append rfl stem ext
  unfold extension?
  rw [pieces, cutAt_point_eq_singleton absent]
  -- The stem has at least one piece, so the extension is not the only one.
  cases before : Text.cutAt (· == '.') stem with
  | nil => exact absurd before (Text.cutAt_ne_nil _ _)
  | cons first others =>
    cases others with
    | nil => rfl
    | cons second others => exact List.getLast?_concat (l := second :: others)

/-- A text has no point, or it is cut at its last one. -/
theorem exists_last_point (cs : List Char) :
    '.' ∉ cs ∨ ∃ stem ext, cs = stem ++ '.' :: ext ∧ '.' ∉ ext := by
  -- The induction is on the characters, as the last point is one of the rest if there is any.
  induction cs with
  | nil => exact Or.inl List.not_mem_nil
  | cons c rest ih =>
    -- A point further on is the last one of the whole too.
    rcases ih with absent | ⟨stem, ext, rfl, absent⟩
    · by_cases point : c = '.'
      · exact Or.inr ⟨[], rest, by rw [point, List.nil_append], absent⟩
      · exact Or.inl (List.not_mem_cons_of_ne_of_not_mem (Ne.symm point) absent)
    · exact Or.inr ⟨c :: stem, ext, rfl, absent⟩

/-- A text ends in a point and an extension in lower case just if it has that extension. -/
theorem suffix_iff {ext : List Char} (absent : '.' ∉ ext) (cs : List Char) :
    '.' :: ext <:+ cs.map Text.lowerAscii ↔
      ∃ own, extension? cs = some own ∧ own.map Text.lowerAscii = ext := by
  -- Points stay where they are in lower case.
  have kept : ∀ cs : List Char, '.' ∈ cs.map Text.lowerAscii ↔ '.' ∈ cs := by
    intro cs
    simp [lowerAscii_eq_point_iff]
  rcases exists_last_point cs with none | ⟨stem, own, rfl, last⟩
  · -- There is no point in lower case either.
    rw [extension?_eq_none none]
    refine iff_of_false ?_ (by simp)
    intro suffix
    exact none ((kept cs).mp (suffix.subset List.mem_cons_self))
  · rw [extension?_append last]
    have lower : (stem ++ '.' :: own).map Text.lowerAscii =
        stem.map Text.lowerAscii ++ '.' :: own.map Text.lowerAscii := by
      rw [List.map_append, List.map_cons, lowerAscii_eq_point_iff.mpr rfl]
    have last' : '.' ∉ own.map Text.lowerAscii := fun member => last ((kept own).mp member)
    constructor
    · -- The last point of the whole is the one in front of the extension.
      rintro ⟨front, whole⟩
      rw [lower] at whole
      exact ⟨own, rfl, (Text.eq_of_mark_append absent last' whole).2.symm⟩
    · -- The extension that is found stands behind a point in lower case too.
      rintro ⟨found, same, rfl⟩
      cases same
      rw [lower]
      exact List.suffix_append _ _

/-- A name is that of a document just if it ends in an extension of documents in any case, and no
part of it is the directory of metadata. -/
theorem isDocument_iff (name : String) : isDocument name = true ↔
    (∃ ext ∈ extensions, '.' :: ext.toList <:+ name.toList.map Text.lowerAscii) ∧
      metadataDirectory.toList ∉ Text.cutAt (· == '/') name.toList := by
  -- None of the extensions has a point, so each of them is compared with what is behind the last
  -- one.
  have plain : ∀ ext ∈ extensions, '.' ∉ ext.toList := by decide
  have ends : ((extension? name.toList).any fun ext =>
      extensions.contains (String.ofList (ext.map Text.lowerAscii))) = true ↔
        ∃ ext ∈ extensions, '.' :: ext.toList <:+ name.toList.map Text.lowerAscii := by
    rw [Option.any_eq_true]
    constructor
    · -- An extension that is known is one of the list, in lower case.
      rintro ⟨own, found, known⟩
      have member := List.contains_iff_mem.mp known
      refine ⟨_, member, ?_⟩
      rw [suffix_iff (plain _ member)]
      exact ⟨own, found, String.toList_ofList.symm⟩
    · -- A name that ends in one of the list has an extension that is known.
      rintro ⟨ext, member, suffix⟩
      obtain ⟨own, found, same⟩ := (suffix_iff (plain ext member) _).mp suffix
      refine ⟨own, found, List.contains_iff_mem.mpr ?_⟩
      rw [same, String.ofList_toList]
      exact member
  unfold isDocument
  dsimp only
  -- Both tests are compared with what they are to say, in the other order.
  rw [Bool.and_eq_true, ends, Bool.not_eq_true', ← Bool.not_eq_true, List.contains_iff_mem,
    and_comm]

end Names

/-- An entry with everything that its archive holds of it. -/
structure Archived where
  name : String
  isDirectory : Bool
  /-- Whether the archive can give the contents. -/
  given : Bool
  declaredSize : UInt64
  unpacked : Archive.Unpacked

namespace Archived

/-- The entry as its archive gives it. -/
def entry (archived : Archived) : Entry :=
  { name := archived.name
    isDirectory := archived.isDirectory
    access :=
      if archived.given then .granted archived.declaredSize.toNat archived.unpacked.take
      else .refused }

/-- The size of the contents. -/
def size (archived : Archived) : Nat := archived.unpacked.bytes.size

/-- Whether an entry is a document: it is no directory, its name ends like that of a document in
any case, and no part of its name is the directory of metadata. -/
def IsDocument (archived : Archived) : Prop :=
  archived.isDirectory = false ∧
    (∃ ext ∈ extensions, '.' :: ext.toList <:+ archived.name.toList.map Text.lowerAscii) ∧
      metadataDirectory.toList ∉ Text.cutAt (· == '/') archived.name.toList

instance : DecidablePred IsDocument := fun _ => inferInstanceAs (Decidable (_ ∧ _ ∧ _))

/-- The document with the complete contents. -/
def document (archived : Archived) : Document := ⟨archived.name, archived.unpacked.bytes⟩

/-- Whether what is said about an entry is true: the archive gives it, and if it is a document it can
be read to its end and has the declared size. -/
def Honest (archived : Archived) : Prop :=
  archived.given = true ∧
    (archived.IsDocument →
      archived.unpacked.sound = true ∧ archived.declaredSize.toNat = archived.size)

/-- An entry is passed over just if it is no document. -/
theorem skipped_iff (archived : Archived) :
    (archived.entry.isDirectory || !isDocument archived.entry.name) = true ↔
      ¬ archived.IsDocument := by
  unfold IsDocument
  -- Both parts of the test are about the entry's own name and kind.
  rw [← isDocument_iff]
  show (archived.isDirectory || !isDocument archived.name) = true ↔ _
  cases archived.isDirectory <;> simp

end Archived

/-- The documents of an archive in its order. -/
def documentsOf (archive : List Archived) : List Archived := archive.filter (·.IsDocument)

/-- The size of some contents together. -/
def totalSize : List Archived → Nat
  | [] => 0
  | first :: rest => first.size + totalSize rest

@[simp] theorem totalSize_nil : totalSize [] = 0 := rfl

@[simp] theorem totalSize_cons (first : Archived) (rest : List Archived) :
    totalSize (first :: rest) = first.size + totalSize rest := rfl

/-- A document is listed in front of the others. -/
theorem documentsOf_cons_of_pos {first : Archived} (own : first.IsDocument)
    (rest : List Archived) : documentsOf (first :: rest) = first :: documentsOf rest :=
  List.filter_cons_of_pos (by simpa using own)

/-- What is no document is not listed. -/
theorem documentsOf_cons_of_neg {first : Archived} (other : ¬ first.IsDocument)
    (rest : List Archived) : documentsOf (first :: rest) = documentsOf rest :=
  List.filter_cons_of_neg (by simpa using other)

/-- Whether some documents fit into what remains of the limit, with the sizes that are declared and
with those that they have, and can be read to their ends. -/
def Fit (remaining : Nat) : List Archived → Prop
  | [] => True
  | first :: rest =>
    first.declaredSize.toNat ≤ remaining ∧ first.unpacked.sound = true ∧ first.size ≤ remaining ∧
      Fit (remaining - first.size) rest

/-- Documents that fit are not more than what remains, and can be read to their ends. -/
theorem of_fit {remaining : Nat} {archive : List Archived} (fit : Fit remaining archive) :
    totalSize archive ≤ remaining ∧ ∀ archived ∈ archive, archived.unpacked.sound = true := by
  -- The induction is on the documents, each of which takes its size off what remains.
  induction archive generalizing remaining with
  | nil => exact ⟨Nat.zero_le _, by simp⟩
  | cons first rest ih =>
    obtain ⟨_, sound, small, later⟩ := fit
    obtain ⟨others, sounds⟩ := ih later
    refine ⟨?_, List.forall_mem_cons.mpr ⟨sound, sounds⟩⟩
    rw [totalSize_cons]
    omega

/-- Reading one byte more than remains gives more than that, or the complete contents. -/
theorem take_succ (unpacked : Archive.Unpacked) (remaining : Nat) :
    (remaining < unpacked.bytes.size ∧
      ∃ part, unpacked.take (remaining + 1) = some part ∧ remaining < part.size) ∨
    (unpacked.bytes.size ≤ remaining ∧
      unpacked.take (remaining + 1) = if unpacked.sound then some unpacked.bytes else none) := by
  unfold Archive.Unpacked.take
  by_cases more : remaining + 1 ≤ unpacked.bytes.size
  · -- There is one byte more, and it is read.
    refine Or.inl ⟨by omega, _, if_pos more, ?_⟩
    rw [ByteArray.size_extract]
    omega
  · -- There are no more bytes than remain, so all are read and checked.
    exact Or.inr ⟨by omega, if_neg more⟩

section Reading

variable {limit remaining : Nat} (word : remaining + 1 < UInt64.size)

/-- An entry that the archive cannot give ends the reading. -/
theorem documents_refused {archived : Archived} (refused : archived.given = false)
    (rest : List Entry) :
    documents limit remaining (archived.entry :: rest) = .error .notAnArchive := by
  -- The archive is asked for the contents before anything else is looked at.
  simp [documents, Archived.entry, refused]

/-- An entry that is no document is passed over. -/
theorem documents_skipped {archived : Archived} (given : archived.given = true)
    (other : ¬ archived.IsDocument) (rest : List Entry) :
    documents limit remaining (archived.entry :: rest) = documents limit remaining rest := by
  -- It is no document, so its contents do not matter.
  have skipped := archived.skipped_iff.mpr other
  have access : archived.entry.access =
      .granted archived.declaredSize.toNat archived.unpacked.take := if_pos given
  rw [documents, access]
  exact if_pos skipped

/-- Of a document as much is read as remains and one byte more, if the declared size allows it and
the count is a word. -/
theorem documents_document {archived : Archived} (given : archived.given = true)
    (own : archived.IsDocument) (rest : List Entry) :
    documents limit remaining (archived.entry :: rest) =
      if remaining < archived.declaredSize.toNat then .error (.tooLarge archived.name limit)
      else if UInt64.size ≤ remaining + 1 then .error .overflow
      else
        match archived.unpacked.take (remaining + 1) with
        | none => .error (.unreadable archived.name)
        | some contents =>
          if remaining < contents.size then .error (.tooLarge archived.name limit)
          else (documents limit (remaining - contents.size) rest).map
            (⟨archived.name, contents⟩ :: ·) := by
  -- The entry is not passed over, and its contents are given.
  have kept : ¬ (archived.entry.isDirectory || !isDocument archived.entry.name) = true :=
    fun skipped => archived.skipped_iff.mp skipped own
  have access : archived.entry.access =
      .granted archived.declaredSize.toNat archived.unpacked.take := if_pos given
  rw [documents, access]
  dsimp only
  rw [if_neg kept]
  rfl

include word in
/-- A document is too large if its declared size or its contents are more than what remains, and
else it is read to its end or not at all. -/
theorem documents_read {archived : Archived} (given : archived.given = true)
    (own : archived.IsDocument) (rest : List Entry) :
    documents limit remaining (archived.entry :: rest) =
      if remaining < archived.declaredSize.toNat ∨ remaining < archived.size then
        .error (.tooLarge archived.name limit)
      else if archived.unpacked.sound = true then
        (documents limit (remaining - archived.size) rest).map (archived.document :: ·)
      else .error (.unreadable archived.name) := by
  -- The count of bytes is a word, so nothing overflows.
  rw [documents_document given own, if_neg (Nat.not_le.mpr word)]
  -- The declared size is compared first, without reading anything.
  by_cases declared : remaining < archived.declaredSize.toNat
  · rw [if_pos declared, if_pos (Or.inl declared)]
  · rw [if_neg declared]
    rcases take_succ archived.unpacked remaining with ⟨more, part, taken, above⟩ | ⟨all, taken⟩
    · -- One byte too many comes out.
      have large : remaining < archived.size := more
      rw [taken, if_pos (Or.inr large)]
      exact if_pos above
    · -- All that there is comes out, if the archive is sound there.
      have small : ¬ remaining < archived.size := Nat.not_lt.mpr all
      rw [taken, if_neg (not_or.mpr ⟨declared, small⟩)]
      cases archived.unpacked.sound with
      | false => rfl
      | true =>
        rw [if_pos rfl, if_pos rfl]
        exact if_neg small

include word in
/-- Documents come out just if the archive gives all entries and they fit, and then they are
complete and in its order. -/
theorem documents_eq_ok_iff {archive : List Archived} {found : List Document} :
    documents limit remaining (archive.map Archived.entry) = .ok found ↔
      (∀ archived ∈ archive, archived.given = true) ∧ Fit remaining (documentsOf archive) ∧
        found = (documentsOf archive).map Archived.document := by
  -- The induction is on the archive, with what remains getting smaller.
  induction archive generalizing remaining found with
  | nil =>
    constructor
    · intro success
      cases success
      exact ⟨by simp, trivial, rfl⟩
    · rintro ⟨_, _, rfl⟩
      rfl
  | cons first rest ih =>
    rw [List.map_cons, List.forall_mem_cons]
    cases given : first.given with
    | false => simp [documents_refused given]
    | true =>
      by_cases own : first.IsDocument
      · -- The document is looked at in the order in which it may fail: too large, then unreadable.
        rw [documents_read word given own, documentsOf_cons_of_pos own]
        unfold Fit
        by_cases large : remaining < first.declaredSize.toNat ∨ remaining < first.size
        · rw [if_pos large]
          -- What does not fit makes both sides false.
          refine iff_of_false (by simp) ?_
          rintro ⟨_, ⟨declared, _, small, _⟩, _⟩
          omega
        · rw [if_neg large]
          -- What fits leaves less for the others, which are still counted by a word.
          rw [not_or, Nat.not_lt, Nat.not_lt] at large
          cases sound : first.unpacked.sound with
          | false => simp
          | true =>
            rw [if_pos rfl]
            constructor
            · intro success
              obtain ⟨others, read, rfl⟩ := exists_of_map_eq_ok success
              obtain ⟨all, fit, rfl⟩ := (ih (by omega)).mp read
              exact ⟨⟨rfl, all⟩, ⟨large.1, rfl, large.2, fit⟩, rfl⟩
            · rintro ⟨⟨_, all⟩, ⟨_, _, _, fit⟩, rfl⟩
              rw [(ih (by omega)).mpr ⟨all, fit, rfl⟩]
              rfl
      · rw [documents_skipped given own, documentsOf_cons_of_neg own, ih word]
        simp

/-- Documents of which all that is said is true fit if they are not more than what remains. -/
theorem fit_of_honest {archive : List Archived} (honest : ∀ archived ∈ archive,
      archived.unpacked.sound = true ∧ archived.declaredSize.toNat = archived.size)
    (small : totalSize archive ≤ remaining) : Fit remaining archive := by
  -- The declared sizes are the true ones, so both bounds are one.
  induction archive generalizing remaining with
  | nil => trivial
  | cons first rest ih =>
    obtain ⟨⟨sound, declared⟩, others⟩ := List.forall_mem_cons.mp honest
    rw [totalSize_cons] at small
    exact ⟨by omega, sound, by omega, ih others (by omega)⟩

include word in
/-- If all that is said is true and the documents are more than what remains, the first one at which
they are so is too large. -/
theorem documents_of_excess {archive : List Archived}
    (honest : ∀ archived ∈ archive, archived.Honest)
    (excess : remaining < totalSize (documentsOf archive)) :
    ∃ before archived after, documentsOf archive = before ++ archived :: after ∧
      totalSize before ≤ remaining ∧ remaining < totalSize before + archived.size ∧
      documents limit remaining (archive.map Archived.entry) =
        .error (.tooLarge archived.name limit) := by
  -- The induction is on the archive, and the documents that fit are collected before the one that
  -- does not.
  induction archive generalizing remaining with
  | nil => exact absurd excess (Nat.not_lt_zero _)
  | cons first rest ih =>
    obtain ⟨⟨given, truth⟩, others⟩ := List.forall_mem_cons.mp honest
    rw [List.map_cons]
    by_cases own : first.IsDocument
    · obtain ⟨sound, declared⟩ := truth own
      rw [documentsOf_cons_of_pos own] at excess ⊢
      rw [totalSize_cons] at excess
      rw [documents_read word given own]
      by_cases large : remaining < first.size
      · -- The first one is already more than what remains.
        rw [if_pos (Or.inr large)]
        exact ⟨[], first, documentsOf rest, rfl, by simp, by simpa using large, rfl⟩
      · -- The first one fits, so the excess is among the others.
        have left : remaining - first.size < totalSize (documentsOf rest) := by omega
        rw [if_neg (by omega), if_pos sound]
        obtain ⟨before, archived, after, same, fits, exceeds, fails⟩ :=
          ih (by omega) others left
        refine ⟨first :: before, archived, after, by rw [same, List.cons_append], ?_, ?_, ?_⟩
        · rw [totalSize_cons]
          omega
        · rw [totalSize_cons]
          omega
        · rw [fails]
          rfl
    · -- What is no document takes nothing off what remains.
      rw [documentsOf_cons_of_neg own] at excess ⊢
      rw [documents_skipped given own]
      exact ih word others excess

include word in
/-- If the first count of bytes to read is a word, none overflows: what remains gets smaller. -/
theorem documents_ne_overflow (archive : List Archived) :
    documents limit remaining (archive.map Archived.entry) ≠ .error .overflow := by
  -- The induction is on the archive, and what remains only gets smaller.
  induction archive generalizing remaining with
  | nil => simp [documents]
  | cons first rest ih =>
    rw [List.map_cons]
    cases given : first.given with
    | false => simp [documents_refused given]
    | true =>
      by_cases own : first.IsDocument
      · rw [documents_read word given own]
        split
        · simp
        · split
          · -- Reading goes on with less, and it fails only as it does then.
            rw [Ne, map_eq_error_iff]
            exact ih (by omega)
          · simp
      · rw [documents_skipped given own]
        exact ih word

end Reading

/-- The documents that are reached: those in front of the first entry that the archive cannot give. -/
def reached (archive : List Archived) : List Archived := documentsOf (archive.takeWhile (·.given))

/-- Nothing is reached at or behind an entry that the archive cannot give. -/
theorem reached_of_refused {first : Archived} (refused : first.given = false)
    (rest : List Archived) : reached (first :: rest) = [] := by
  -- The search ends at this entry, before any document.
  unfold reached
  rw [List.takeWhile_cons_of_neg (by simp [refused])]
  rfl

/-- A document that the archive gives is reached, and then the others are. -/
theorem reached_cons_of_pos {first : Archived} (given : first.given = true)
    (own : first.IsDocument) (rest : List Archived) :
    reached (first :: rest) = first :: reached rest := by
  unfold reached
  rw [List.takeWhile_cons_of_pos given, documentsOf_cons_of_pos own]

/-- Behind an entry that is no document the others are reached. -/
theorem reached_cons_of_neg {first : Archived} (given : first.given = true)
    (other : ¬ first.IsDocument) (rest : List Archived) :
    reached (first :: rest) = reached rest := by
  -- The search goes on behind the entry, which is not listed.
  unfold reached
  rw [List.takeWhile_cons_of_pos given, documentsOf_cons_of_neg other]

/-- Of an archive that gives all entries all documents are reached. -/
theorem reached_of_given {archive : List Archived}
    (given : ∀ archived ∈ archive, archived.given = true) :
    reached archive = documentsOf archive := by
  -- The search goes to the end of the archive.
  unfold reached
  rw [List.takeWhile_eq_self_iff.mpr given]

/-- If no document is reached, there is none in an archive that gives all entries, or reading ends
at an entry that the archive cannot give. -/
theorem of_reached_nil {archive : List Archived} (nothing : reached archive = [])
    (limit remaining : Nat) :
    ((∀ archived ∈ archive, archived.given = true) ∧ documentsOf archive = [] ∧
        documents limit remaining (archive.map Archived.entry) = .ok []) ∨
      (¬ (∀ archived ∈ archive, archived.given = true) ∧
        documents limit remaining (archive.map Archived.entry) = .error .notAnArchive) := by
  -- The induction is on the archive; nothing is taken off what remains.
  induction archive with
  | nil => exact Or.inl ⟨by simp, rfl, rfl⟩
  | cons first rest ih =>
    rw [List.map_cons, List.forall_mem_cons]
    cases given : first.given with
    -- Reading ends here, and nothing was read before.
    | false => exact Or.inr ⟨by simp, documents_refused given _⟩
    | true =>
      by_cases own : first.IsDocument
      · -- The first entry would be reached.
        rw [reached_cons_of_pos given own] at nothing
        cases nothing
      · rw [reached_cons_of_neg given own] at nothing
        -- The first entry is passed over, and what is left is what the induction is about.
        rw [documentsOf_cons_of_neg own, documents_skipped given own]
        rcases ih nothing with ⟨all, none, read⟩ | ⟨refused, fails⟩
        · exact Or.inl ⟨⟨rfl, all⟩, none, read⟩
        · exact Or.inr ⟨fun both => refused both.2, fails⟩

/-- Under the greatest limit the count of bytes to read overflows at the first document that is
reached. -/
theorem documents_overflow {limit : Nat} {archive : List Archived} (some : reached archive ≠ []) :
    documents limit (UInt64.size - 1) (archive.map Archived.entry) = .error .overflow := by
  -- Entries that are no documents take nothing off the limit, so the first document meets all of
  -- it.
  induction archive with
  | nil => exact absurd rfl some
  | cons first rest ih =>
    rw [List.map_cons]
    cases given : first.given with
    -- At such an entry nothing is reached any more.
    | false => exact absurd (reached_of_refused given rest) some
    | true =>
      by_cases own : first.IsDocument
      · -- No declared size is more than what remains, and one byte more is no word.
        have declared : ¬ UInt64.size - 1 < first.declaredSize.toNat := by
          have below := first.declaredSize.toNat_lt_size
          omega
        rw [documents_document given own, if_neg declared, if_pos (by decide)]
      · rw [reached_cons_of_neg given own] at some
        rw [documents_skipped given own]
        exact ih some

/-- Extraction succeeds with the documents that are read, of which there must be one. -/
theorem extract_eq_ok_iff {limit : Nat} {entries : List Entry} {found : List Document} :
    extract limit entries = .ok found ↔ documents limit limit entries = .ok found ∧ found ≠ [] := by
  unfold extract
  -- Reading fails as a whole, or it gives documents that are counted.
  cases documents limit limit entries with
  | error fault => simp [bind, Except.bind]
  | ok read =>
    show (if read.isEmpty = true then _ else _) = _ ↔ _
    cases read with
    | nil => simp
    | cons first rest =>
      rw [if_neg (by simp)]
      constructor
      · intro same
        cases same
        simp
      · exact fun both => both.1

/-- Extraction fails as reading does. -/
theorem extract_of_fails {limit : Nat} {entries : List Entry} {fault : Fault}
    (fails : documents limit limit entries = .error fault) :
    extract limit entries = .error fault := by
  unfold extract
  rw [fails]
  rfl

/-- Extraction fails without documents. -/
theorem extract_of_nothing {limit : Nat} {entries : List Entry}
    (nothing : documents limit limit entries = .ok []) :
    extract limit entries = .error .noDocuments := by
  unfold extract
  rw [nothing]
  rfl

/-- Extraction overflows just if reading does. -/
theorem extract_eq_overflow_iff {limit : Nat} {entries : List Entry} :
    extract limit entries = .error .overflow ↔ documents limit limit entries = .error .overflow := by
  -- Reading that fails is the only way to overflow.
  refine ⟨fun fails => ?_, extract_of_fails⟩
  cases read : documents limit limit entries with
  | error fault =>
    rw [extract_of_fails read] at fails
    exact fails
  | ok found =>
    -- What is read comes out, or there is nothing, which is another fault.
    cases found with
    | nil =>
      rw [extract_of_nothing read] at fails
      cases fails
    | cons first rest =>
      rw [extract_eq_ok_iff.mpr ⟨read, List.cons_ne_nil _ _⟩] at fails
      cases fails

/-- An entry with everything that the bytes of its archive hold of it. -/
def Archived.ofMember (bytes : ByteArray) (member : Archive.Member) : Archived :=
  { name := member.name
    isDirectory := (Entry.ofMember bytes member).isDirectory
    given := member.isReadable
    declaredSize := .ofNat member.declaredSize
    unpacked := member.unpacked bytes }

/-- The archive that some bytes hold. -/
def archiveOf? (bytes : ByteArray) : Option (List Archived) :=
  (Archive.members bytes).map fun members => members.map (Archived.ofMember bytes)

/-- The documents of entries of some bytes are those of the archive that the bytes hold. -/
theorem documents_ofMember (bytes : ByteArray) {members : List Archive.Member}
    (words : ∀ member ∈ members, member.declaredSize < UInt64.size) (limit remaining : Nat) :
    documents limit remaining (members.map (Entry.ofMember bytes)) =
      documents limit remaining ((members.map (Archived.ofMember bytes)).map Archived.entry) := by
  induction members generalizing remaining with
  | nil => rfl
  | cons member rest ih =>
    obtain ⟨word, others⟩ := List.forall_mem_cons.mp words
    rw [List.map_cons, List.map_cons, List.map_cons]
    -- An entry is read in the same way in both forms, except that the second one has its contents
    -- as a whole.
    have access : (Entry.ofMember bytes member).access =
        if member.isReadable then .granted member.declaredSize (member.take bytes) else .refused := rfl
    have access' : (Archived.ofMember bytes member).entry.access =
        if member.isReadable then
          .granted (UInt64.ofNat member.declaredSize).toNat (member.unpacked bytes).take
        else .refused := rfl
    -- The declared size is a word, so nothing of it is lost.
    have declared : (UInt64.ofNat member.declaredSize).toNat = member.declaredSize :=
      UInt64.toNat_ofNat_of_lt' word
    rw [documents, documents, access, access', declared]
    cases member.isReadable with
    | false => rfl
    | true =>
      rw [if_pos rfl, if_pos rfl]
      by_cases word : UInt64.size ≤ remaining + 1
      · -- Either way the count of bytes to read overflows.
        simp only [if_pos word, ih others]
        rfl
      · -- The count of bytes to read is a word, and so much of the contents is always the same.
        have taken : member.take bytes (remaining + 1) =
            (member.unpacked bytes).take (remaining + 1) :=
          member.take_eq bytes (Nat.not_le.mp word)
        simp only [if_neg word, taken, ih others]
        rfl

/-- The documents in some bytes are those of the archive that the bytes hold, if they hold one. -/
theorem read_eq (limit : Nat) (bytes : ByteArray) :
    read limit bytes =
      match archiveOf? bytes with
      | none => .error .notAnArchive
      | some archive => extract limit (archive.map Archived.entry) := by
  -- Without a directory there is no archive in either form.
  unfold read archiveOf?
  cases listed : Archive.members bytes with
  | none => rfl
  | some members =>
    have same := documents_ofMember bytes (Archive.declaredSize_lt listed) limit limit
    show extract _ _ = extract _ _
    unfold extract
    rw [same]

/-- What extraction promises for a limit and an archive. -/
structure Faithful (limit : Nat) (archive : List Archived) : Prop where
  /-- What comes out are the documents in the order of the archive, with their complete contents,
  at least one and not more than the limit, whatever sizes are declared. -/
  complete : ∀ found, extract limit (archive.map Archived.entry) = .ok found →
    found = (documentsOf archive).map Archived.document ∧ found ≠ [] ∧
      totalSize (documentsOf archive) ≤ limit ∧
        ∀ archived ∈ documentsOf archive, archived.unpacked.sound = true
  /-- If all that is said is true, documents that are not more than the limit come out. -/
  succeeds : (∀ archived ∈ archive, archived.Honest) → documentsOf archive ≠ [] →
    totalSize (documentsOf archive) ≤ limit →
      ∃ found, extract limit (archive.map Archived.entry) = .ok found
  /-- If all that is said is true but there are no documents, the input is malformed. -/
  lacks : (∀ archived ∈ archive, archived.Honest) → documentsOf archive = [] →
    ∃ fault message, extract limit (archive.map Archived.entry) = .error fault ∧
      fault.toError = some (.inputFormat message none)
  /-- If all that is said is true and the documents are more than the limit, the input is malformed
  at the first one at which they are so. -/
  exceeds : (∀ archived ∈ archive, archived.Honest) → limit < totalSize (documentsOf archive) →
    ∃ before archived after fault message, documentsOf archive = before ++ archived :: after ∧
      totalSize before ≤ limit ∧ limit < totalSize before + archived.size ∧
        extract limit (archive.map Archived.entry) = .error fault ∧
          fault.toError = some (.inputFormat message (some archived.name))
  /-- No count of bytes to read, one more than what remains, overflows. -/
  counts : extract limit (archive.map Archived.entry) ≠ .error .overflow

/-- Below the greatest limit extraction keeps its promises. -/
theorem faithful_of_word {limit : Nat} (word : limit + 1 < UInt64.size) (archive : List Archived) :
    Faithful limit archive := by
  constructor
  · -- What comes out was read, and what was read fits.
    intro found success
    obtain ⟨read, some⟩ := extract_eq_ok_iff.mp success
    obtain ⟨_, fit, same⟩ := (documents_eq_ok_iff word).mp read
    exact ⟨same, some, of_fit fit⟩
  · -- All entries are given and what is said of them is true, so the documents fit.
    intro honest some small
    have given : ∀ archived ∈ archive, archived.given = true :=
      fun archived member => (honest archived member).1
    have fit : Fit limit (documentsOf archive) := by
      refine fit_of_honest (fun archived member => ?_) small
      obtain ⟨among, own⟩ := List.mem_filter.mp member
      exact (honest archived among).2 (of_decide_eq_true own)
    refine ⟨_, extract_eq_ok_iff.mpr ⟨(documents_eq_ok_iff word).mpr ⟨given, fit, rfl⟩, ?_⟩⟩
    simpa using some
  · -- All entries are given and there is no document, so reading gives nothing.
    intro honest none
    have given : ∀ archived ∈ archive, archived.given = true :=
      fun archived member => (honest archived member).1
    have read : documents limit limit (archive.map Archived.entry) = .ok [] :=
      (documents_eq_ok_iff word).mpr ⟨given, by rw [none]; trivial, by rw [none]; rfl⟩
    exact ⟨_, _, extract_of_nothing read, rfl⟩
  · intro honest excess
    -- The first document that exceeds the limit is the one that is refused.
    obtain ⟨before, archived, after, same, fits, beyond, fails⟩ :=
      documents_of_excess word honest excess
    exact ⟨before, archived, after, _, _, same, fits, beyond, extract_of_fails fails, rfl⟩
  · -- The limit is what remains at the start, and it can be counted by a word.
    rw [Ne, extract_eq_overflow_iff]
    exact documents_ne_overflow word archive

/-- If no document is reached extraction keeps its promises under any limit. -/
theorem faithful_of_reached_nil {archive : List Archived} (nothing : reached archive = [])
    (limit : Nat) : Faithful limit archive := by
  have outcome := of_reached_nil nothing limit limit
  constructor
  · -- Nothing comes out.
    intro found success
    obtain ⟨read, some⟩ := extract_eq_ok_iff.mp success
    rcases outcome with ⟨_, _, none⟩ | ⟨_, fails⟩
    · rw [none] at read
      cases read
      exact absurd rfl some
    · rw [fails] at read
      cases read
  · -- Archives of which all is true reach every document, so there is none here.
    intro honest some _
    rw [← reached_of_given fun archived member => (honest archived member).1] at some
    exact absurd nothing some
  · intro honest _
    rcases outcome with ⟨_, _, none⟩ | ⟨refused, _⟩
    · exact ⟨_, _, extract_of_nothing none, rfl⟩
    · exact absurd (fun archived member => (honest archived member).1) refused
  · -- As before, there is no document, and nothing exceeds the limit.
    intro honest excess
    rw [← reached_of_given fun archived member => (honest archived member).1, nothing] at excess
    exact absurd excess (Nat.not_lt_zero limit)
  · -- There is nothing to read, or reading fails otherwise.
    rw [Ne, extract_eq_overflow_iff]
    rcases outcome with ⟨_, _, none⟩ | ⟨_, fails⟩
    · rw [none]
      simp
    · rw [fails]
      simp

/-- Extraction overflows just if the limit is the greatest word and a document is reached, and it keeps
its promises just if it does not. What is read from bytes is what is extracted from the archive that
they hold. -/
theorem faithful_iff (limit : UInt64) (archive : List Archived) :
    (Faithful limit.toNat archive ↔ limit.toNat + 1 < UInt64.size ∨ reached archive = []) ∧
      (extract limit.toNat (archive.map Archived.entry) = .error .overflow ↔
        limit.toNat + 1 = UInt64.size ∧ reached archive ≠ []) ∧
      ∀ bytes, archiveOf? bytes = some archive →
        read limit.toNat bytes = extract limit.toNat (archive.map Archived.entry) := by
  -- A document that is reached under the greatest limit is where the count overflows.
  have overflows : limit.toNat + 1 = UInt64.size → reached archive ≠ [] →
      extract limit.toNat (archive.map Archived.entry) = .error .overflow := by
    intro greatest some
    have whole : limit.toNat = UInt64.size - 1 := by omega
    rw [extract_eq_overflow_iff, whole]
    exact documents_overflow some
  -- In both cases no count of bytes is more than a word.
  have promised : limit.toNat + 1 < UInt64.size ∨ reached archive = [] →
      Faithful limit.toNat archive := by
    rintro (word | nothing)
    · exact faithful_of_word word archive
    · exact faithful_of_reached_nil nothing limit.toNat
  -- A limit that is a word is below the greatest one, or the greatest one itself.
  have cases : (limit.toNat + 1 < UInt64.size ∨ reached archive = []) ∨
      limit.toNat + 1 = UInt64.size ∧ reached archive ≠ [] := by
    have below := limit.toNat_lt_size
    by_cases word : limit.toNat + 1 < UInt64.size
    · exact Or.inl (Or.inl word)
    · by_cases nothing : reached archive = []
      · exact Or.inl (Or.inr nothing)
      · exact Or.inr ⟨by omega, nothing⟩
  refine ⟨⟨fun faithful => ?_, promised⟩, ⟨fun fails => ?_, fun both => overflows both.1 both.2⟩,
    ?_⟩
  · -- Promises that are kept exclude the overflow, which is what else there is.
    rcases cases with fine | ⟨greatest, some⟩
    · exact fine
    · exact absurd (overflows greatest some) faithful.counts
  · rcases cases with fine | both
    · exact absurd fails (promised fine).counts
    · exact both
  · intro bytes holds
    -- An archive of bytes is one of those that the promises are about.
    rw [read_eq, holds]

/-- An entry with a document of two bytes. -/
def tiny : Archived where
  name := "a.json"
  isDirectory := false
  given := true
  declaredSize := 2
  unpacked := ⟨"\x7b\x7d".toUTF8, true⟩

/-- Under the greatest limit extraction breaks off at a document of two bytes, although all that is
said about it is true and it is less than the limit. -/
theorem greatest_limit_overflows :
    tiny.Honest ∧ documentsOf [tiny] = [tiny] ∧ totalSize [tiny] ≤ UInt64.size - 1 ∧
      extract (UInt64.size - 1) [tiny.entry] = .error .overflow ∧
      ¬Faithful (UInt64.size - 1) [tiny] := by
  -- The document, its size and its truth are computed, the extraction is not: its limit is too
  -- great.
  have own : tiny.IsDocument := by decide
  have size : tiny.size = 2 := by decide
  have listed : documentsOf [tiny] = [tiny] := documentsOf_cons_of_pos own []
  have fails : extract (UInt64.size - 1) [tiny.entry] = .error .overflow := by
    have first : reached [tiny] ≠ [] := by
      rw [reached_cons_of_pos rfl own]
      exact List.cons_ne_nil _ _
    exact extract_of_fails (documents_overflow first)
  have honest : tiny.Honest := ⟨rfl, fun _ => ⟨rfl, size.symm⟩⟩
  have small : totalSize [tiny] ≤ UInt64.size - 1 := by
    rw [totalSize_cons, totalSize_nil, size]
    decide
  refine ⟨honest, listed, small, fails, fun faithful => ?_⟩
  -- The document would have to come out.
  obtain ⟨found, success⟩ := faithful.succeeds (List.forall_mem_singleton.mpr honest)
    (by simp [listed]) (listed.symm ▸ small)
  cases success.symm.trans fails

end Bundle
end ControlPlane
