import ControlPlane.Discovery.Node
import ControlPlane.Labels
import ControlPlane.Proofs.Sequence
import ControlPlane.Proofs.Text.Case
import ControlPlane.Proofs.Text.Trim

/-! Which texts are labels, and which values declare which sets of labels: a label has one spelling,
in which it is read as itself. -/

namespace ControlPlane

namespace Label

/-- Whether some characters spell a label, in any case: from 1 to 63 ASCII letters, digits, points,
underscores and hyphens, with a letter or digit at either end. -/
structure Spells (word : List Char) : Prop where
  some : 1 ≤ word.length
  short : word.length ≤ 63
  allowed : ∀ c ∈ word, c.isAlphanum = true ∨ c = '.' ∨ c = '_' ∨ c = '-'
  first : ∀ c ∈ word.head?, c.isAlphanum = true
  last : ∀ c ∈ word.getLast?, c.isAlphanum = true

/-- A character may stand at an end of a label if it is a letter or digit, in any case. -/
@[simp] theorem isEdge_toLower (c : Char) : isEdge c.toLower = c.isAlphanum :=
  Text.isLower_or_isDigit_toLower c

/-- A character may stand in a label if it is a letter or digit, in any case, or one of three
marks. -/
theorem isInner_toLower_iff (c : Char) :
    isInner c.toLower = true ↔ c.isAlphanum = true ∨ c = '.' ∨ c = '_' ∨ c = '-' := by
  -- Each of the three marks is the lower-case form of itself alone.
  have mark : ∀ mark : Char, mark.isAlpha = false → (c.toLower == mark) = decide (c = mark) := by
    intro mark plain
    rw [Bool.eq_iff_iff, beq_iff_eq, decide_eq_true_eq, Text.toLower_eq_iff plain]
  rw [isInner, isEdge_toLower, mark '.' (by decide), mark '_' (by decide), mark '-' (by decide)]
  simp [or_assoc]

/-- A character that may stand in a label is in lower case. -/
theorem toLower_of_isInner {c : Char} (inner : isInner c = true) : c.toLower = c := by
  -- The marks are no letters, and the letters that may stand in a label are in lower case.
  simp only [isInner, Bool.or_eq_true, beq_iff_eq] at inner
  rcases inner with ((edge | rfl) | rfl) | rfl
  · exact Text.toLower_eq_self (by simpa [isEdge] using edge)
  all_goals exact Text.toLower_of_not_isAlpha (by decide)

/-- A character that may stand in a label takes one byte. -/
theorem utf8Size_of_isInner {c : Char} (inner : isInner c = true) : c.utf8Size = 1 := by
  -- A character that takes one byte is one of ASCII, as letters, digits and the three marks are.
  rw [← toLower_of_isInner inner, isInner_toLower_iff] at inner
  rw [Char.utf8Size_eq_one_iff, UInt32.le_iff_toNat_le]
  rcases inner with letter | rfl | rfl | rfl
  · have place := Text.toNat_of_isAlphanum letter
    rw [Char.toNat_val]
    simp
    omega
  all_goals decide

/-- A text of such characters has as many bytes as characters. -/
theorem utf8ByteSize_of_isInner {cs : List Char} (inner : ∀ c ∈ cs, isInner c = true) :
    (String.ofList cs).utf8ByteSize = cs.length := by
  rw [String.utf8ByteSize_ofList]
  -- The induction is on the characters, each of which adds its one byte.
  induction cs with
  | nil => rfl
  | cons c rest ih =>
    obtain ⟨here, later⟩ := List.forall_mem_cons.mp inner
    rw [String.utf8Len_cons, ih later, utf8Size_of_isInner here, List.length_cons]

/-- A word in lower case has the form of a label just if the word spells one. -/
theorem grammar_lower_iff (word : List Char) :
    Grammar (String.ofList (word.map Char.toLower)) ↔ Spells word := by
  -- Each end is an end in lower case just if it is a letter or digit in any case.
  have firsts : (word.map Char.toLower).head?.any isEdge = true ↔
      ∃ c ∈ word.head?, c.isAlphanum = true := by
    cases word <;> simp
  have lasts : (word.map Char.toLower).getLast?.any isEdge = true ↔
      ∃ c ∈ word.getLast?, c.isAlphanum = true := by
    rw [List.getLast?_map]
    cases word.getLast? <;> simp
  have inners : (word.map Char.toLower).all isInner = true ↔
      ∀ c ∈ word, c.isAlphanum = true ∨ c = '.' ∨ c = '_' ∨ c = '-' := by
    simp only [List.all_map, List.all_eq_true, Function.comp_apply, isInner_toLower_iff]
  -- Characters in the word take one byte each, so it is as long as it has bytes.
  have size : (∀ c ∈ word, c.isAlphanum = true ∨ c = '.' ∨ c = '_' ∨ c = '-') →
      (String.ofList (word.map Char.toLower)).utf8ByteSize = word.length := by
    intro allowed
    have inner : ∀ c ∈ word.map Char.toLower, isInner c = true :=
      List.forall_mem_map.mpr fun c member => (isInner_toLower_iff c).mpr (allowed c member)
    rw [utf8ByteSize_of_isInner inner, List.length_map]
  rw [Grammar, isWord, String.toList_ofList, Bool.and_eq_true, Bool.and_eq_true, inners, firsts,
    lasts]
  constructor
  · -- The text in lower case has the form, and each part of it is one of the word.
    rintro ⟨short, ⟨allowed, first, begins, firstLetter⟩, last, ends, lastLetter⟩
    rw [size allowed] at short
    exact
      { some := List.length_pos_of_mem (List.mem_of_mem_head? begins)
        short := short
        allowed := allowed
        first := fun c member => Option.mem_unique begins member ▸ firstLetter
        last := fun c member => Option.mem_unique ends member ▸ lastLetter }
  · -- The word has a first and a last character, which are the ends of the text.
    intro spells
    have filled : word ≠ [] := List.ne_nil_of_length_pos spells.some
    have begins : word.head filled ∈ word.head? := List.head_mem_head? filled
    have ends : word.getLast filled ∈ word.getLast? := List.getLast_mem_getLast? filled
    refine ⟨?_, ⟨spells.allowed, _, begins, spells.first _ begins⟩, _, ends, spells.last _ ends⟩
    rw [size spells.allowed]
    exact spells.short

/-- A text is read as the lower-case form of what trimming leaves of it. -/
theorem canonicalText_eq (raw : String) :
    canonicalText raw = String.ofList ((Text.trim raw).toList.map Char.toLower) := rfl

/-- A text is read as a label if its lower-case form without blanks around it has the form of one,
and then as this form. -/
theorem parse_eq_ok_iff {raw : String} {label : Label} :
    parse raw = .ok label ↔ Spells (Text.trim raw).toList ∧
      label.text = String.ofList ((Text.trim raw).toList.map Char.toLower) := by
  rw [← grammar_lower_iff, ← canonicalText_eq]
  constructor
  · -- The text has passed three tests, of which the last one is for the form.
    intro success
    unfold parse at success
    dsimp only at success
    split_ifs at success with empty long grammar
    refine ⟨grammar, ?_⟩
    rw [← Except.ok.inj success]
  · rintro ⟨grammar, text⟩
    -- A text of this form is neither empty nor too long.
    have filled : ¬(canonicalText raw).isEmpty = true := by
      intro empty
      rw [String.isEmpty_iff] at empty
      rw [empty] at grammar
      exact absurd grammar (by decide)
    unfold parse
    dsimp only
    rw [if_neg filled, if_neg (Nat.not_lt.mpr grammar.1), dif_pos grammar]
    exact congrArg Except.ok (ext text.symm)

/-- The ends of a word that spells a label are no blanks. -/
theorem Spells.not_blank {word : List Char} (spells : Spells word) :
    (∀ c ∈ word.head?, Text.isBlank c = false) ∧ ∀ c ∈ word.getLast?, Text.isBlank c = false :=
  ⟨fun c member => Text.isBlank_of_isAlphanum (spells.first c member),
    fun c member => Text.isBlank_of_isAlphanum (spells.last c member)⟩

/-- A text is read as a label just if it is a word that spells the label, with nothing but blanks
around it. -/
theorem parse_eq_ok_iff_frames {raw : String} {label : Label} :
    parse raw = .ok label ↔ ∃ word, Text.Frames raw word ∧ Spells word ∧
      label.text = String.ofList (word.map Char.toLower) := by
  rw [parse_eq_ok_iff]
  constructor
  · -- What trimming leaves is a word with blanks around it.
    rintro ⟨spells, text⟩
    exact ⟨_, Text.frames_trim raw, spells, text⟩
  · -- Trimming leaves the word, as it has no blank at either end.
    rintro ⟨word, frames, spells, text⟩
    have trimmed : (Text.trim raw).toList = word :=
      Text.trim_of_frames frames (List.ne_nil_of_length_pos spells.some) spells.not_blank.1
        spells.not_blank.2
    rw [trimmed]
    exact ⟨spells, text⟩

/-- A text is read as some label just if it is a word that spells one, with nothing but blanks
around it. -/
theorem parse_succeeds_iff {raw : String} :
    (∃ label, parse raw = .ok label) ↔ ∃ word, Text.Frames raw word ∧ Spells word := by
  constructor
  · rintro ⟨label, success⟩
    obtain ⟨word, frames, spells, _⟩ := parse_eq_ok_iff_frames.mp success
    exact ⟨word, frames, spells⟩
  · rintro ⟨word, frames, spells⟩
    -- The word in lower case is the text of a label.
    have grammar := (grammar_lower_iff word).mpr spells
    exact ⟨⟨_, grammar⟩, parse_eq_ok_iff_frames.mpr ⟨word, frames, spells, rfl⟩⟩

/-- The text of a label is in lower case. -/
theorem toLower_text (label : Label) :
    label.text.toList.map Char.toLower = label.text.toList := by
  -- A label has the form, so every character in it may stand there.
  have inner : ∀ c ∈ label.text.toList, isInner c = true := by
    have word := label.grammar.2
    rw [isWord, Bool.and_eq_true, Bool.and_eq_true, List.all_eq_true] at word
    exact word.1.1
  have lower : ∀ c ∈ label.text.toList, c.toLower = id c := fun c member =>
    toLower_of_isInner (inner c member)
  rw [List.map_congr_left lower, List.map_id]

/-- The text of a label spells it. -/
theorem spells_text (label : Label) : Spells label.text.toList := by
  -- The form of the text is that of its lower-case form.
  have grammar := label.grammar
  rwa [← String.ofList_toList (s := label.text), ← toLower_text, grammar_lower_iff] at grammar

/-- The text of a label is read as this label. -/
@[simp] theorem parse_text (label : Label) : parse label.text = .ok label := by
  -- A label's own text has no blanks around it.
  have alone : Text.Frames label.text label.text.toList := ⟨[], [], by simp, by simp, by simp⟩
  refine parse_eq_ok_iff_frames.mpr ⟨_, alone, label.spells_text, ?_⟩
  rw [toLower_text, String.ofList_toList]

end Label

namespace Labels

/-- Sets with the same labels are the same set. -/
theorem ext {first second : Labels} (same : ∀ label, label ∈ first ↔ label ∈ second) :
    first = second := by
  -- Sets with the same members are the same, and nothing else is kept of them.
  have sets : first.set = second.set := OrderedSet.ext same
  cases first; cases second; simp_all

/-- The labels of a list are in its set, and so is the default label if there are none. -/
theorem mem_ofList {found : List Label} {label : Label} :
    label ∈ ofList found ↔ label ∈ found ∨ found = [] ∧ label = .default := by
  -- The items of the set are those of the list, without repetition.
  have members : ∀ other, other ∈ (OrderedSet.ofList found).items ↔ other ∈ found :=
    fun _ => OrderedSet.mem_ofList
  unfold ofList ofSet
  split
  · -- There are labels, and they are those of the list.
    rename_i filled
    have some : found ≠ [] := by
      rintro rfl
      exact filled rfl
    refine (members label).trans ?_
    simp [some]
  · -- There are no labels, so the default label stands in.
    rename_i empty
    have none : found = [] := by
      refine List.eq_nil_iff_forall_not_mem.mpr fun other member => ?_
      rw [← members, not_not.mp empty] at member
      cases member
    subst none
    have alone : label ∈ Labels.default ↔ label = .default := List.mem_singleton
    simpa using alone

/-- The texts that a value lists, whether or not they are labels: one text or a list of texts, and
none if there is no value. -/
inductive Lists : Option Json → List String → Prop where
  | absent : Lists none []
  | null : Lists (some .null) []
  | text (raw : String) : Lists (some (.str raw)) [raw]
  | texts (raws : List String) : Lists (some (.arr (raws.map .str))) raws

/-- A text is read as a label of a set as it is read as a label. -/
theorem parseLabel_eq_ok_iff {raw : String} {label : Label} :
    parseLabel raw = .ok label ↔ Label.parse raw = .ok label := by
  -- Only the fault is told differently.
  unfold parseLabel
  cases Label.parse raw <;> simp

variable {value value' : Option Json} {texts texts' : List String} {labels : Labels}

/-- A value that lists texts declares the set of the labels that these are read as. -/
theorem ofValue_of_lists (lists : Lists value texts) :
    ofValue value = (texts.mapM parseLabel).map ofList := by
  -- The cases are the forms of a value that lists texts.
  cases lists with
  | absent => rfl
  | null => rfl
  | text raw =>
    -- One text is read as a list of one is.
    rw [ofValue, List.mapM_cons]
    cases parseLabel raw <;> rfl
  -- Texts are read one after the other.
  | texts raws =>
    have read : ofItem ∘ Json.str = parseLabel := funext fun raw => by
      rw [Function.comp_apply, ofItem]
    rw [ofValue, List.mapM_map, read]

/-- A value that declares a set of labels lists texts. -/
theorem exists_lists (success : ofValue value = .ok labels) : ∃ texts, Lists value texts := by
  -- The cases are the kinds of values, of which three list texts.
  cases value with
  | none => exact ⟨[], .absent⟩
  | some value =>
    cases value with
    | null => exact ⟨[], .null⟩
    | str raw => exact ⟨[raw], .text raw⟩
    | arr items =>
      -- Each item is read as a label, so it is a text.
      obtain ⟨found, read, _⟩ := exists_of_map_eq_ok success
      have texts : items ∈ Set.range (List.map Json.str) := by
        rw [Set.range_list_map]
        intro item member
        obtain ⟨label, _, here⟩ := result_of_mapM read member
        cases item with
        | str raw => exact ⟨raw, rfl⟩
        | _ => cases here
      obtain ⟨raws, rfl⟩ := texts
      exact ⟨raws, .texts raws⟩
    | bool _ => cases success
    | num _ => cases success
    | obj _ => cases success

/-- A value that lists texts declares a set of labels just if all of these are read as labels. -/
theorem ofValue_succeeds_iff (lists : Lists value texts) :
    (∃ labels, ofValue value = .ok labels) ↔
      ∀ raw ∈ texts, ∃ label, Label.parse raw = .ok label := by
  -- A set is declared if its list can be read, and the list is read text by text.
  rw [ofValue_of_lists lists, map_succeeds_iff, mapM_succeeds_iff]
  simp only [parseLabel_eq_ok_iff]

/-- The set that a value declares has the labels that its texts are read as, and the default label
if there are no texts. -/
theorem mem_iff_of_ofValue (lists : Lists value texts) (success : ofValue value = .ok labels)
    (label : Label) : label ∈ labels ↔
      (∃ raw ∈ texts, Label.parse raw = .ok label) ∨ texts = [] ∧ label = .default := by
  rw [ofValue_of_lists lists] at success
  obtain ⟨found, read, rfl⟩ := exists_of_map_eq_ok success
  -- What is read of the texts are the labels found.
  have among : label ∈ found ↔ ∃ raw ∈ texts, Label.parse raw = .ok label := by
    constructor
    · intro member
      obtain ⟨raw, listed, here⟩ := exists_of_mapM read member
      exact ⟨raw, listed, parseLabel_eq_ok_iff.mp here⟩
    · rintro ⟨raw, listed, here⟩
      -- The text has a result among the labels, and it is read in one way.
      obtain ⟨other, member, there⟩ := result_of_mapM read listed
      rw [parseLabel_eq_ok_iff.mpr here] at there
      exact Except.ok.inj there ▸ member
  -- As many labels are found as there are texts.
  have none : found = [] ↔ texts = [] := by
    have pairs := (forall₂_of_mapM read).length_eq
    rw [← List.length_eq_zero_iff, ← pairs, List.length_eq_zero_iff]
  rw [mem_ofList, among, none]

/-- Values that list the same texts, in any order and however often each, declare the same set. -/
theorem ofValue_congr (lists : Lists value texts) (lists' : Lists value' texts')
    (same : ∀ raw, raw ∈ texts ↔ raw ∈ texts') (success : ofValue value = .ok labels) :
    ofValue value' = .ok labels := by
  -- Being read does not depend on where a text stands, so the second value declares a set too.
  have all := (ofValue_succeeds_iff lists).mp ⟨labels, success⟩
  obtain ⟨labels', success'⟩ := (ofValue_succeeds_iff lists').mpr fun raw member =>
    all raw ((same raw).mpr member)
  -- Both sets have the labels that the same texts are read as.
  have empty : texts = [] ↔ texts' = [] := by
    simp only [List.eq_nil_iff_forall_not_mem, same]
  have sets : labels' = labels := ext fun label => by
    rw [mem_iff_of_ofValue lists success, mem_iff_of_ofValue lists' success', empty]
    simp only [same]
  rw [success', sets]

/-- A set that a value declares has a label. -/
theorem exists_mem_of_ofValue (lists : Lists value texts) (success : ofValue value = .ok labels) :
    ∃ label, label ∈ labels := by
  have all := (ofValue_succeeds_iff lists).mp ⟨labels, success⟩
  -- Without texts there is the default label, and else the one that the first text is read as.
  cases texts with
  | nil => exact ⟨.default, (mem_iff_of_ofValue lists success _).mpr (Or.inr ⟨rfl, rfl⟩)⟩
  | cons raw rest =>
    obtain ⟨label, read⟩ := all raw List.mem_cons_self
    exact ⟨label, (mem_iff_of_ofValue lists success _).mpr
      (Or.inl ⟨raw, List.mem_cons_self, read⟩)⟩

end Labels

/-- A document value is read as a label just if it is a text that is. -/
theorem Label.ofJson?_eq_some_iff {value : Json} {label : Label} :
    ofJson? value = some label ↔ ∃ raw, value = .str raw ∧ parse raw = .ok label := by
  -- Only a text is one.
  have text : ∀ raw, value.text? = some raw ↔ value = .str raw := by
    intro raw
    cases value <;> simp [Json.text?]
  simp only [ofJson?, Option.bind_eq_some_iff, toOption_eq_some_iff, text]

/-- A proxy has the default label, or one that it names. -/
theorem Node.labelOf_cases (node : Option Node) :
    labelOf node = .default ∨ ∃ proxy raw, node = some proxy ∧ raw ∈ proxy.candidates ∧
      Label.parse raw = .ok (labelOf node) := by
  -- A proxy that names no label that can be read has the default one, as one that is not there.
  cases node with
  | none => exact Or.inl rfl
  | some proxy =>
    cases named : proxy.label? with
    | none => exact Or.inl (by rw [labelOf, Option.bind_some, named]; rfl)
    | some label =>
      have same : labelOf (some proxy) = label := by rw [labelOf, Option.bind_some, named]; rfl
      obtain ⟨raw, candidate, read⟩ := List.exists_of_findSome?_eq_some named
      refine Or.inr ⟨proxy, raw, rfl, candidate, ?_⟩
      rw [same]
      exact toOption_eq_some_iff.mp read

/-- A text is read as a label exactly if it is a word of 1 to 63 ASCII letters, digits, points,
underscores and hyphens, with a letter or digit at either end and blanks around it at most, and then
as this word in lower case. Every label has this form, and its own text is read as the label again,
in a document too; a document value is read as a label just as its text is, and a proxy has the
default label or one of those that it names. A value declares a set of labels exactly if it is
nothing, a text or a list of texts, all of which are read as labels; the set then has these labels,
or the default label if there are none, and neither their order nor their repetition counts. -/
theorem Labels.read_canonically :
    (∀ raw, (∃ label, Label.parse raw = .ok label) ↔
      ∃ word, Text.Frames raw word ∧ Label.Spells word) ∧
    (∀ raw label, Label.parse raw = .ok label ↔ ∃ word, Text.Frames raw word ∧
      Label.Spells word ∧ label.text = String.ofList (word.map Char.toLower)) ∧
    (∀ label : Label, Label.Spells label.text.toList ∧
      label.text.toList.map Char.toLower = label.text.toList ∧
      Label.parse label.text = .ok label ∧ Label.ofJson? (.str label.text) = some label) ∧
    (∀ value label, Label.ofJson? value = some label ↔
      ∃ raw, value = .str raw ∧ Label.parse raw = .ok label) ∧
    (∀ node, Node.labelOf node = .default ∨ ∃ proxy raw, node = some proxy ∧
      raw ∈ proxy.candidates ∧ Label.parse raw = .ok (Node.labelOf node)) ∧
    (∀ value, (∃ labels, ofValue value = .ok labels) ↔
      ∃ texts, Lists value texts ∧ ∀ raw ∈ texts, ∃ label, Label.parse raw = .ok label) ∧
    (∀ value texts labels, Lists value texts → ofValue value = .ok labels →
      (∃ label, label ∈ labels) ∧ ∀ label, label ∈ labels ↔
        (∃ raw ∈ texts, Label.parse raw = .ok label) ∨ texts = [] ∧ label = .default) ∧
    ∀ value value' texts texts' labels, Lists value texts → Lists value' texts' →
      (∀ raw, raw ∈ texts ↔ raw ∈ texts') → ofValue value = .ok labels →
        ofValue value' = .ok labels := by
  refine ⟨fun _ => Label.parse_succeeds_iff, fun _ _ => Label.parse_eq_ok_iff_frames,
    fun label => ⟨label.spells_text, label.toLower_text, label.parse_text, ?_⟩,
    fun _ _ => Label.ofJson?_eq_some_iff, Node.labelOf_cases, fun value => ⟨?_, ?_⟩,
    fun _ _ _ lists success => ⟨exists_mem_of_ofValue lists success,
      mem_iff_of_ofValue lists success⟩,
    fun _ _ _ _ _ lists lists' same success => ofValue_congr lists lists' same success⟩
  · exact Label.ofJson?_eq_some_iff.mpr ⟨label.text, rfl, label.parse_text⟩
  · -- Only a value that lists texts declares a set.
    rintro ⟨labels, success⟩
    obtain ⟨texts, lists⟩ := exists_lists success
    exact ⟨texts, lists, (ofValue_succeeds_iff lists).mp ⟨labels, success⟩⟩
  · rintro ⟨texts, lists, all⟩
    exact (ofValue_succeeds_iff lists).mpr all

end ControlPlane
