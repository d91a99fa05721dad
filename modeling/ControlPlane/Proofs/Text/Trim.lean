import Mathlib.Data.List.DropRight
import ControlPlane.Text.Blank

/-! Texts without the blanks around them. -/

namespace ControlPlane.Text

/-- Dropping at the end is what the library has for lists. -/
theorem dropRight_eq_rdropWhile (test : Char → Bool) (cs : List Char) :
    dropRight test cs = cs.rdropWhile test := rfl

/-- Nothing is dropped at the end if the last character stays. -/
theorem dropRight_eq_self {test : Char → Bool} {cs : List Char}
    (stays : ∀ c ∈ cs.getLast?, test c = false) : dropRight test cs = cs := by
  -- What would be dropped first is the last character.
  rw [dropRight_eq_rdropWhile, List.rdropWhile_eq_self_iff]
  intro some
  simpa using stays _ (List.getLast?_eq_some_getLast some)

/-- The first character is dropped at the end only after all the others. -/
theorem dropRight_cons (test : Char → Bool) (c : Char) (cs : List Char) :
    dropRight test (c :: cs) =
      if test c = true ∧ dropRight test cs = [] then [] else c :: dropRight test cs := by
  -- Read backwards, the first character comes last.
  unfold dropRight
  rw [List.reverse_cons, List.dropWhile_append]
  cases left : cs.reverse.dropWhile test with
  | nil => cases first : test c <;> simp [first]
  | cons last others => simp

/-- Nothing is dropped at the beginning if the first character stays. -/
theorem dropWhile_eq_self {test : Char → Bool} {cs : List Char}
    (stays : ∀ c ∈ cs.head?, test c = false) : cs.dropWhile test = cs := by
  -- An empty text has nothing to drop.
  cases cs with
  | nil => rfl
  | cons first rest => exact List.dropWhile_cons_of_neg (by simp [stays first rfl])

/-- A character that fails the test is not dropped at the beginning. -/
theorem mem_dropWhile {test : Char → Bool} {cs : List Char} {c : Char} (member : c ∈ cs)
    (stays : test c = false) : c ∈ cs.dropWhile test := by
  -- A character is among those that are dropped or among those that are kept, and the former pass
  -- the test.
  rw [← List.takeWhile_append_dropWhile (p := test) (l := cs), List.mem_append] at member
  rcases member with dropped | kept
  · rw [List.mem_takeWhile_imp dropped] at stays
    cases stays
  · exact kept

/-- A text with no blank at either end is trimmed already. -/
theorem trim_eq_self {text : String} (first : ∀ c ∈ text.toList.head?, isBlank c = false)
    (last : ∀ c ∈ text.toList.getLast?, isBlank c = false) : trim text = text := by
  -- Neither side has anything to drop.
  unfold trim trimChars
  rw [dropWhile_eq_self first, dropRight_eq_self last, String.ofList_toList]

/-- The last character of what is left after dropping at the end fails the test. -/
theorem not_of_mem_getLast?_dropRight {test : Char → Bool} {cs : List Char} :
    ∀ c ∈ (dropRight test cs).getLast?, test c = false := by
  -- Dropping would have gone on with a character that passes.
  intro c last
  rw [dropRight_eq_rdropWhile] at last
  obtain ⟨some, rfl⟩ := List.mem_getLast?_eq_getLast last
  simpa using List.rdropWhile_last_not test cs some

/-- There is no blank at the beginning of a trimmed text. -/
theorem isBlank_of_mem_head?_trim {text : String} :
    ∀ c ∈ (trim text).toList.head?, isBlank c = false := by
  intro c first
  rw [trim, String.toList_ofList, trimChars, dropRight_eq_rdropWhile] at first
  -- What is left begins as the text without its first blanks does.
  obtain ⟨tail, whole⟩ := List.rdropWhile_prefix isBlank (text.toList.dropWhile isBlank)
  have begins : (text.toList.dropWhile isBlank).head? = some c := by
    rw [← whole, List.head?_append, first]
    rfl
  have kept := List.head?_dropWhile_not isBlank text.toList
  rw [begins] at kept
  exact kept

/-- There is no blank at the end of a trimmed text. -/
theorem isBlank_of_mem_getLast?_trim {text : String} :
    ∀ c ∈ (trim text).toList.getLast?, isBlank c = false := by
  -- Dropping at the end is the last thing that is done.
  rw [trim, String.toList_ofList, trimChars]
  exact not_of_mem_getLast?_dropRight

/-- Whether a text is some word with nothing but blanks around it. -/
def Frames (raw : String) (word : List Char) : Prop :=
  ∃ before after, raw.toList = before ++ word ++ after ∧
    (∀ c ∈ before, isBlank c = true) ∧ ∀ c ∈ after, isBlank c = true

/-- A text is what trimming leaves of it, with blanks around it. -/
theorem frames_trim (raw : String) : Frames raw (trim raw).toList := by
  -- The blanks at either end are those that are dropped there.
  rw [trim, String.toList_ofList, trimChars, dropRight_eq_rdropWhile]
  refine ⟨raw.toList.takeWhile isBlank, (raw.toList.dropWhile isBlank).rtakeWhile isBlank, ?_,
    fun c => List.mem_takeWhile_imp, fun c => List.mem_rtakeWhile_imp⟩
  rw [List.append_assoc, List.rdropWhile_append_rtakeWhile, List.takeWhile_append_dropWhile]

/-- A word with no blank at either end is what trimming leaves of a text that frames it. -/
theorem trim_of_frames {raw : String} {word : List Char} (frames : Frames raw word)
    (some : word ≠ []) (first : ∀ c ∈ word.head?, isBlank c = false)
    (last : ∀ c ∈ word.getLast?, isBlank c = false) : (trim raw).toList = word := by
  obtain ⟨before, after, whole, blanksBefore, blanksAfter⟩ := frames
  obtain ⟨c, rest, rfl⟩ := List.exists_cons_of_ne_nil some
  -- The blanks in front are dropped up to the word, and those behind it up to its last character.
  have begun : (c :: rest ++ after).dropWhile isBlank = c :: rest ++ after :=
    dropWhile_eq_self (by simpa using first)
  have ended : dropRight isBlank (c :: rest ++ after) = dropRight isBlank (c :: rest) := by
    unfold dropRight
    rw [List.reverse_append, List.dropWhile_append_of_pos]
    simpa using blanksAfter
  rw [trim, String.toList_ofList, whole, List.append_assoc, trimChars,
    List.dropWhile_append_of_pos blanksBefore, begun, ended, dropRight_eq_self last]

end ControlPlane.Text
