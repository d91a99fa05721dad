import ControlPlane.Text.Blank

/-! Texts that are cut at some of their characters, and texts with a mark in them: the pieces are
what stands between the cuts, and the first and the last mark stand where they do. -/

namespace ControlPlane.Text

/-- A text with a beginning is that beginning with the rest behind it. -/
theorem eq_append_of_afterPrefix? {α : Type} [DecidableEq α] {start whole rest : List α}
    (found : afterPrefix? start whole = some rest) : whole = start ++ rest := by
  -- The beginning is taken off character by character.
  induction start generalizing whole with
  | nil => simpa [afterPrefix?] using found
  | cons first others ih =>
    cases whole with
    | nil => simp [afterPrefix?] at found
    | cons c cs =>
      -- Both begin with the same character.
      simp only [afterPrefix?] at found
      split at found
      · rename_i same
        rw [same, ih found, List.cons_append]
      · cases found

/-- A text with a beginning has the rest behind it. -/
@[simp] theorem afterPrefix?_append {α : Type} [DecidableEq α] (start rest : List α) :
    afterPrefix? start (start ++ rest) = some rest := by
  -- Each character of the beginning is found and taken off.
  induction start with
  | nil => rfl
  | cons first others ih => rw [List.cons_append, afterPrefix?, if_pos rfl, ih]

/-- What stands before the first mark tells where the mark is. -/
theorem eq_of_append_mark {mark : Char} {front front' rest rest' : List Char}
    (absent : mark ∉ front) (absent' : mark ∉ front')
    (same : front ++ mark :: rest = front' ++ mark :: rest') : front = front' ∧ rest = rest' := by
  -- The induction is on the front, and the mark is ahead of both fronts as long as they agree.
  induction front generalizing front' with
  | nil =>
    -- The mark comes first on one side, so it does on the other.
    cases front' with
    | nil => exact ⟨rfl, (List.cons.inj same).2⟩
    | cons c others => exact absurd ((List.cons.inj same).1 ▸ List.mem_cons_self) absent'
  | cons c others ih =>
    cases front' with
    | nil => exact absurd ((List.cons.inj same).1 ▸ List.mem_cons_self) absent
    | cons c' others' =>
      -- Both begin with the same character, and the mark is still ahead.
      obtain ⟨head, tail⟩ := List.cons.inj same
      obtain ⟨fronts, rests⟩ := ih (fun member => absent (List.mem_cons_of_mem _ member))
        (fun member => absent' (List.mem_cons_of_mem _ member)) tail
      exact ⟨by rw [head, fronts], rests⟩

/-- What stands behind the last mark tells where the mark is. -/
theorem eq_of_mark_append {mark : Char} {front front' rest rest' : List Char}
    (absent : mark ∉ rest) (absent' : mark ∉ rest')
    (same : front ++ mark :: rest = front' ++ mark :: rest') : front = front' ∧ rest = rest' := by
  -- Read backwards, it is the first mark.
  have backwards : rest.reverse ++ mark :: front.reverse =
      rest'.reverse ++ mark :: front'.reverse := by
    simpa using congrArg List.reverse same
  obtain ⟨rests, fronts⟩ := eq_of_append_mark (by simpa using absent) (by simpa using absent')
    backwards
  exact ⟨List.reverse_inj.mp fronts, List.reverse_inj.mp rests⟩

/-- A text is cut into at least one piece. -/
theorem cutAt_ne_nil (test : Char → Bool) (cs : List Char) : cutAt test cs ≠ [] := by
  -- A character either begins a new piece or joins one.
  cases cs with
  | nil => simp [cutAt]
  | cons c rest =>
    unfold cutAt
    split
    · simp
    · split <;> simp

/-- Cutting a text is what the library has for lists. -/
theorem cutAt_eq_splitOnP (test : Char → Bool) (cs : List Char) :
    cutAt test cs = cs.splitOnP test := by
  -- The induction is on the text.
  induction cs with
  | nil => rfl
  | cons c rest ih =>
    rw [cutAt, List.splitOnP_cons_eq_if_modifyHead, ih]
    -- A character that is no cut joins the first piece of the rest, which has one.
    cases pieces : rest.splitOnP test with
    | nil => exact absurd pieces (List.splitOnP_ne_nil test rest)
    | cons piece others => rfl

section

variable {test : Char → Bool}

/-- Two texts with a cut between them are cut apart there. -/
theorem cutAt_append {cut : Char} (cuts : test cut = true) (front rest : List Char) :
    cutAt test (front ++ cut :: rest) = cutAt test front ++ cutAt test rest := by
  -- The induction is on the front, which ends at the cut.
  induction front with
  | nil => simp [cutAt, cuts]
  | cons c front ih =>
    by_cases here : test c = true
    · simp [cutAt, here, ih]
    · -- The character joins the first piece of the front, which has one.
      cases pieces : cutAt test front with
      | nil => exact absurd pieces (cutAt_ne_nil test front)
      | cons piece others => simp [cutAt, here, ih, pieces]

/-- A text without cuts is one piece. -/
theorem cutAt_of_forall {cs : List Char} (whole : ∀ c ∈ cs, test c = false) :
    cutAt test cs = [cs] := by
  -- Every character joins the one piece there is.
  induction cs with
  | nil => rfl
  | cons c cs ih =>
    obtain ⟨here, later⟩ := List.forall_mem_cons.mp whole
    simp [cutAt, here, ih later]

/-- No piece of a text has a cut in it. -/
theorem forall_mem_cutAt (cs : List Char) :
    ∀ piece ∈ cutAt test cs, ∀ c ∈ piece, test c = false := by
  -- The induction is on the text, from whose end the pieces are built.
  induction cs with
  | nil => simp [cutAt]
  | cons c rest ih =>
    unfold cutAt
    split
    · exact List.forall_mem_cons.mpr ⟨by simp, ih⟩
    · -- The character joins the first piece of the rest.
      rename_i kept
      cases pieces : cutAt test rest with
      | nil => simpa using kept
      | cons piece others =>
        rw [pieces, List.forall_mem_cons] at ih
        exact List.forall_mem_cons.mpr
          ⟨List.forall_mem_cons.mpr ⟨by simpa using kept, ih.1⟩, ih.2⟩

end

end ControlPlane.Text
