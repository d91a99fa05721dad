import ControlPlane.Compile.Naming
import ControlPlane.Proofs.Text.Case
import ControlPlane.Proofs.Text.Cut
import ControlPlane.Proofs.Text.Trim

/-! The form in which names of APIs enter the names of resources: the runs of letters and digits in
a name, in lower case, with one underscore between them. -/

namespace ControlPlane.Naming

/-- The pieces of a text that are not empty, in lower case. -/
def lowered (pieces : List (List Char)) : List (List Char) :=
  (pieces.filter (!·.isEmpty)).map (·.map Char.toLower)

/-- The maximal runs of ASCII letters and digits in some characters, in their order and in lower
case: what is left between all other characters. -/
def runs (cs : List Char) : List (List Char) := lowered (cs.splitOnP (!·.isAlphanum))

/-- The words that a name consists of: its runs, or `api` if it has none. -/
def words (raw : String) : List (List Char) :=
  if runs raw.toList = [] then [['a', 'p', 'i']] else runs raw.toList

/-- Whether some characters can be a word: there are some, all of them lower-case letters or
digits. -/
def IsWord (word : List Char) : Prop :=
  word ≠ [] ∧ ∀ c ∈ word, (c.isLower || c.isDigit) = true

/-- A letter or digit belongs to the first piece of what it stands in front of. -/
theorem splitOnP_letter {c : Char} (letter : c.isAlphanum = true) {rest piece : List Char}
    {pieces : List (List Char)} (split : rest.splitOnP (!·.isAlphanum) = piece :: pieces) :
    (c :: rest).splitOnP (!·.isAlphanum) = (c :: piece) :: pieces := by
  -- The library cuts the rest first and then adds the letter to the first piece.
  rw [List.splitOnP_cons_eq_if_modifyHead, if_neg (by simp [letter]), split]
  rfl

/-- Any other character is a cut. -/
theorem splitOnP_mark {c : Char} (mark : c.isAlphanum = false) (rest : List Char) :
    (c :: rest).splitOnP (!·.isAlphanum) = [] :: rest.splitOnP (!·.isAlphanum) := by
  rw [List.splitOnP_cons_eq_if_modifyHead, if_pos (by simp [mark])]

/-- Each run can be a word. -/
theorem isWord_of_mem_runs {cs word : List Char} (member : word ∈ runs cs) : IsWord word := by
  -- A run is a piece that is not empty.
  obtain ⟨piece, among, rfl⟩ := List.mem_map.mp member
  obtain ⟨among, filled⟩ := List.mem_filter.mp among
  -- A piece has no character but letters and digits, and here they are in lower case.
  rw [← Text.cutAt_eq_splitOnP] at among
  have letters := Text.forall_mem_cutAt cs piece among
  refine ⟨by simpa using filled, List.forall_mem_map.mpr fun c inside => ?_⟩
  rw [Text.isLower_or_isDigit_toLower]
  simpa using letters c inside

/-- A name has words. -/
theorem words_ne_nil (raw : String) : words raw ≠ [] := by
  -- A name without runs has the one word that stands in for them.
  unfold words
  split
  · simp
  · assumption

/-- What a name consists of can be words. -/
theorem isWord_of_mem_words {raw : String} {word : List Char} (member : word ∈ words raw) :
    IsWord word := by
  unfold words at member
  split at member
  · -- The word that stands in is one by itself.
    rw [List.mem_singleton.mp member]
    exact ⟨List.cons_ne_nil _ _, List.all_eq_true.mp (by decide)⟩
  · exact isWord_of_mem_runs member

/-- A word has no character but letters and digits, so it is nowhere cut. -/
theorem uncut_of_isWord {word : List Char} (isWord : IsWord word) :
    ∀ c ∈ word, (!c.isAlphanum) = false := by
  intro c member
  -- They are in lower case already.
  have plain := isWord.2 c member
  rw [← Text.isLower_or_isDigit_toLower, Text.toLower_eq_self plain, plain]
  rfl

/-- Words with underscores between them are nothing only if there are none. -/
theorem intercalate_ne_nil {first : List Char} {rest : List (List Char)} (word : IsWord first) :
    ['_'].intercalate (first :: rest) ≠ [] := by
  have filled := word.1
  -- The first word alone is not nothing, and anything behind it only adds to it.
  cases rest with
  | nil => simpa using filled
  | cons second others => simp

/-- What the scan writes, without the underscore that may stand at its end: the runs with
underscores between them. Behind a letter or digit the first piece goes on with this letter's run
and may be nothing. -/
theorem dropRight_spaced (cs : List Char) :
    ∃ piece pieces, cs.splitOnP (!·.isAlphanum) = piece :: pieces ∧
      Text.dropRight (· == '_') (spaced false cs) =
        ['_'].intercalate (piece.map Char.toLower :: lowered pieces) ∧
      Text.dropRight (· == '_') (spaced true cs) = ['_'].intercalate (runs cs) := by
  -- The induction is on the characters, with both states of the scan at once, as each leads to the
  -- other.
  induction cs with
  | nil => exact ⟨[], [], rfl, rfl, rfl⟩
  | cons c rest ih =>
    obtain ⟨piece, pieces, split, inside, outside⟩ := ih
    cases letter : c.isAlphanum with
    | true =>
      have pieced := splitOnP_letter letter split
      -- A letter or digit is written in lower case, and it is not dropped.
      have kept : c.toLower ≠ '_' := by
        rw [Ne, Text.toLower_eq_iff (by decide)]
        rintro rfl
        cases letter
      have written : Text.dropRight (· == '_') (c.toLower :: spaced false rest) =
          ['_'].intercalate ((c :: piece).map Char.toLower :: lowered pieces) := by
        rw [Text.dropRight_cons, if_neg (by simp [kept]), inside]
        cases lowered pieces <;> simp
      refine ⟨c :: piece, pieces, pieced, ?_, ?_⟩
      · rw [spaced, if_pos letter, written]
      · rw [spaced, if_pos letter, written, runs, pieced]
        rfl
    | false =>
      have pieced := splitOnP_mark letter rest
      have noLetter : ¬c.isAlphanum = true := by simp [letter]
      refine ⟨[], rest.splitOnP (!·.isAlphanum), pieced, ?_, ?_⟩
      · -- An underscore is written, and it is dropped if no run comes after it.
        rw [spaced, if_neg noLetter, if_neg (by simp), Text.dropRight_cons, outside]
        change _ = ['_'].intercalate ([] :: runs rest)
        cases found : runs rest with
        | nil => simp
        | cons first others =>
          have word : IsWord first := isWord_of_mem_runs (found ▸ List.mem_cons_self)
          rw [if_neg fun dropped => intercalate_ne_nil word dropped.2]
          simp
      · -- Nothing is written, and the piece that ends here is empty.
        rw [spaced, if_neg noLetter, if_pos rfl, outside, runs, runs, pieced]
        rfl

/-- A name in its form is its words with underscores between them. -/
theorem toList_sanitize (raw : String) : (sanitize raw).toList = ['_'].intercalate (words raw) := by
  obtain ⟨_, _, _, _, written⟩ := dropRight_spaced raw.toList
  unfold sanitize words
  rw [written]
  cases found : runs raw.toList with
  | nil => rfl
  | cons first rest =>
    have word : IsWord first := isWord_of_mem_runs (found ▸ List.mem_cons_self)
    -- There is a run, so what is written is not empty and nothing stands in for it.
    rw [if_neg (List.cons_ne_nil _ _)]
    split
    · rename_i nothing
      exact absurd nothing (intercalate_ne_nil word)
    · rw [String.toList_ofList]

/-- Words with underscores between them are cut into these words. -/
theorem splitOnP_intercalate {first : List Char} {rest : List (List Char)}
    (all : ∀ word ∈ first :: rest, IsWord word) :
    (['_'].intercalate (first :: rest)).splitOnP (!·.isAlphanum) = first :: rest := by
  -- The induction is on the words behind the first one.
  induction rest generalizing first with
  | nil =>
    have whole := uncut_of_isWord (all first List.mem_cons_self)
    simpa using List.splitOnP_eq_singleton whole
  | cons second others ih =>
    -- The first cut is the underscore behind the first word.
    obtain ⟨word, later⟩ := List.forall_mem_cons.mp all
    rw [List.intercalate_cons_cons, List.append_assoc, List.singleton_append,
      List.splitOnP_append_cons_of_forall_mem (uncut_of_isWord word) _ (by decide), ih later]

/-- Words with underscores between them have these words as their runs. -/
theorem runs_intercalate {found : List (List Char)} (some : found ≠ [])
    (all : ∀ word ∈ found, IsWord word) : runs (['_'].intercalate found) = found := by
  obtain ⟨first, rest, rfl⟩ := List.exists_cons_of_ne_nil some
  rw [runs, splitOnP_intercalate all, lowered]
  -- No word is empty, and all are in lower case.
  have filled : (first :: rest).filter (!·.isEmpty) = first :: rest :=
    List.filter_eq_self.mpr fun word member => by simpa using (all word member).1
  have lower : ∀ word ∈ first :: rest, word.map Char.toLower = id word := by
    intro word member
    have plain : ∀ c ∈ word, c.toLower = id c := fun c inside =>
      Text.toLower_eq_self ((all word member).2 c inside)
    rw [List.map_congr_left plain, List.map_id]
    rfl
  rw [filled, List.map_congr_left lower, List.map_id]

/-- A name in its form consists of the same words. -/
theorem words_sanitize (raw : String) : words (sanitize raw) = words raw := by
  -- The words of a form are the runs of its characters, which are the words it is written from.
  have found := words_ne_nil raw
  have same := runs_intercalate found fun _ => isWord_of_mem_words
  rw [words, toList_sanitize, same, if_neg found]

/-- The form of a name is one or more words, not empty and of lower-case letters and digits alone,
with one underscore between them: the maximal runs of ASCII letters and digits in the name, in their
order and in lower case, or `api` if there are none. It is its own form, and names have the same
form exactly if they consist of the same words. -/
theorem sanitize_normal_form :
    (∀ raw, words raw ≠ [] ∧ (∀ word ∈ words raw, IsWord word) ∧
      (sanitize raw).toList = ['_'].intercalate (words raw)) ∧
    (∀ raw, sanitize (sanitize raw) = sanitize raw) ∧
    ∀ first second, sanitize first = sanitize second ↔ words first = words second := by
  -- Two names with the same words have the same form, which is made of the words alone.
  have of_words : ∀ {first second}, words first = words second →
      sanitize first = sanitize second := by
    intro first second same
    rw [← String.toList_inj, toList_sanitize, toList_sanitize, same]
  refine ⟨fun raw => ⟨words_ne_nil raw, fun _ => isWord_of_mem_words, toList_sanitize raw⟩,
    fun raw => of_words (words_sanitize raw), fun first second => ⟨fun same => ?_, of_words⟩⟩
  -- The words can be read back from the form.
  rw [← words_sanitize first, same, words_sanitize]

example : sanitize " Pet-Store (v2) API!" = "pet_store_v2_api" := by decide

end ControlPlane.Naming
