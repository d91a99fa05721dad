import ControlPlane.Path
import ControlPlane.Proofs.Text.Cut

/-! Paths and their segments: what a path is made of, how paths are put one behind the other, and
what is left of a path below a base. -/

namespace ControlPlane

namespace Path

/-- Whether some characters can be a segment: there are some, and none of them is a slash. -/
def IsSegment (segment : List Char) : Prop := segment ≠ [] ∧ ∀ c ∈ segment, (c == '/') = false

/-- The segments of a path can be segments. -/
theorem isSegment_of_mem_segments {path segment : List Char} (member : segment ∈ segments path) :
    IsSegment segment := by
  -- A segment is a piece between slashes that is not empty.
  obtain ⟨among, filled⟩ := List.mem_filter.mp member
  exact ⟨by simpa using filled, Text.forall_mem_cutAt path segment among⟩

/-- What stands before the first slash is a segment, unless it is empty, and so is what stands
behind each of the others. -/
theorem segments_append_flatMap {front : List Char} (whole : ∀ c ∈ front, (c == '/') = false)
    {found : List (List Char)} (all : ∀ segment ∈ found, IsSegment segment) :
    segments (front ++ found.flatMap ('/' :: ·)) = [front].filter (!·.isEmpty) ++ found := by
  unfold segments
  -- The induction is on the segments, with any text in front of them.
  induction found generalizing front with
  | nil => simp [Text.cutAt_of_forall whole]
  | cons first rest ih =>
    obtain ⟨⟨filled, closed⟩, others⟩ := List.forall_mem_cons.mp all
    -- The path is cut behind its front, and the first segment is the front of the rest.
    rw [List.flatMap_cons, List.cons_append, Text.cutAt_append rfl, Text.cutAt_of_forall whole,
      List.filter_append, ih closed others]
    simp [filled]

/-- A path that is written with a slash in front of each segment has these segments. -/
theorem segments_flatMap {found : List (List Char)} (all : ∀ segment ∈ found, IsSegment segment) :
    segments (found.flatMap ('/' :: ·)) = found := by
  -- Here nothing stands in front.
  have nothing : ∀ c ∈ ([] : List Char), (c == '/') = false := by simp
  exact segments_append_flatMap nothing all

/-- A path in its normal form: the root, or segments with a slash in front of each. -/
def IsNormal (path : String) : Prop :=
  path = "/" ∨ ∃ segments ≠ [], (∀ segment ∈ segments, IsSegment segment) ∧
    path.toList = segments.flatMap ('/' :: ·)

/-- The path of some segments is in its normal form. -/
theorem isNormal_ofSegments {found : List (List Char)}
    (all : ∀ segment ∈ found, IsSegment segment) : IsNormal (String.ofList (ofSegments found)) := by
  -- Without segments the path is the root.
  cases found with
  | nil => exact Or.inl rfl
  | cons first rest => exact Or.inr ⟨first :: rest, List.cons_ne_nil _ _, all, String.toList_ofList⟩

/-- Every path has a normal form. -/
theorem isNormal_normalize (path : String) : IsNormal (normalize path) :=
  isNormal_ofSegments fun _ => isSegment_of_mem_segments

/-- A path with a slash in front of each of its segments, which is nothing for the root. -/
def slashed (path : String) : String :=
  String.ofList ((segments path.toList).flatMap ('/' :: ·))

/-- A path read from the left, with a slash written in front of each segment when this begins;
`inside` tells whether the character before belongs to the segment. -/
def spread (inside : Bool) : List Char → List Char
  | [] => []
  | c :: rest =>
    if c = '/' then spread false rest
    else if inside then c :: spread true rest
    else '/' :: c :: spread true rest

/-- Reading from the left writes the segments of a path with a slash in front of each, the first of
which goes on with what was read if this is not at its end. -/
theorem exists_spread (cs : List Char) :
    ∃ piece pieces, Text.cutAt (· == '/') cs = piece :: pieces ∧
      spread true cs = piece ++ (pieces.filter (!·.isEmpty)).flatMap ('/' :: ·) ∧
      spread false cs = ((piece :: pieces).filter (!·.isEmpty)).flatMap ('/' :: ·) := by
  -- The induction is on the path; the first piece goes on with whatever was read before.
  induction cs with
  | nil => exact ⟨[], [], rfl, rfl, rfl⟩
  | cons c rest ih =>
    obtain ⟨piece, pieces, cut, inside, outside⟩ := ih
    by_cases slash : c = '/'
    · -- A slash ends the segment, if there is one.
      exact ⟨[], piece :: pieces, by simp [Text.cutAt, slash, cut],
        by simp [spread, slash, outside], by simp [spread, slash, outside]⟩
    · -- Any other character belongs to the first piece.
      exact ⟨c :: piece, pieces, by simp [Text.cutAt, slash, cut],
        by simp [spread, slash, inside], by simp [spread, slash, inside]⟩

/-- A path is read from the left into its segments. -/
theorem toList_slashed (path : String) : (slashed path).toList = spread false path.toList := by
  -- Before the path there is no segment to go on with.
  obtain ⟨piece, pieces, cut, _, outside⟩ := exists_spread path.toList
  rw [slashed, String.toList_ofList, outside, segments, cut]

/-- Reading from the left writes no character but slashes and those of the path. -/
theorem mem_of_mem_spread {inside : Bool} {cs : List Char} {c : Char}
    (member : c ∈ spread inside cs) : c = '/' ∨ c ∈ cs := by
  -- The induction is on the path, wherever reading is.
  induction cs generalizing inside with
  | nil => cases member
  | cons d rest ih =>
    have later : ∀ {inside}, c ∈ spread inside rest → c = '/' ∨ c ∈ d :: rest :=
      fun among => (ih among).imp_right (List.mem_cons_of_mem d)
    unfold spread at member
    -- A slash is left out until the next segment begins.
    split at member
    · exact later member
    · -- The character itself is written, behind a slash if a segment begins with it.
      split at member
      · rcases List.mem_cons.mp member with rfl | among
        · exact Or.inr List.mem_cons_self
        · exact later among
      · rcases List.mem_cons.mp member with slash | among
        · exact Or.inl slash
        · rcases List.mem_cons.mp among with rfl | among
          · exact Or.inr List.mem_cons_self
          · exact later among

/-- A path that may be nothing, with a slash for the root. -/
def orRoot (path : String) : String := if path = "" then "/" else path

/-- The path of some segments is nothing only if there are none, and then it is the root. -/
theorem ofSegments_eq (found : List (List Char)) :
    String.ofList (ofSegments found) = orRoot (String.ofList (found.flatMap ('/' :: ·))) := by
  -- Only without segments nothing is written.
  cases found with
  | nil => rfl
  | cons first rest =>
    have filled : String.ofList ((first :: rest).flatMap ('/' :: ·)) ≠ "" := by
      rw [Ne, String.ofList_eq_empty_iff]
      simp
    rw [orRoot, if_neg filled]
    rfl

/-- Two paths one after the other have the segments of both. -/
theorem join_eq (first second : String) :
    join first second = orRoot (slashed first ++ slashed second) := by
  rw [join, ofSegments_eq, List.flatMap_append, String.ofList_append]
  rfl

/-- A path in its normal form is its segments, or the root. -/
theorem normalize_eq (path : String) : normalize path = orRoot (slashed path) :=
  ofSegments_eq _

/-- A path and its normal form have the same segments. -/
theorem slashed_normalize (path : String) : slashed (normalize path) = slashed path := by
  rw [normalize_eq]
  unfold orRoot
  split
  · -- The root has no segments.
    rename_i root
    exact root.symm
  · simp only [slashed, String.toList_ofList]
    rw [segments_flatMap fun segment => isSegment_of_mem_segments]

/-- A path in its normal form is written with slashes as it is, except for the root. -/
theorem slashed_of_normal {path raw : String} (normal : path = normalize raw) :
    slashed path = if path = "/" then "" else path := by
  -- The normal form has the same segments.
  have same : path = orRoot (slashed path) := by
    rw [normal, slashed_normalize, ← normalize_eq]
  by_cases empty : slashed path = ""
  · rw [orRoot, if_pos empty] at same
    rw [empty, if_pos same]
  · rw [orRoot, if_neg empty] at same
    -- The root has no segments, so this is not the root.
    have filled : path ≠ "/" := by
      intro root
      rw [root] at empty
      exact empty rfl
    rw [if_neg filled, ← same]

/-- A path below a base is the path itself, or stands behind the base in it, or is the root in place
of nothing behind it. -/
theorem belowBase_cases (base path : List Char) :
    belowBase base path = path ∨ path = base ++ belowBase base path ∨
      path = base ∧ belowBase base path = ['/'] := by
  unfold belowBase
  -- The base is the root, or the path begins with it, at a segment's end, or not.
  split
  · exact Or.inl rfl
  · split
    · rename_i found
      have whole := Text.eq_append_of_afterPrefix? found
      exact Or.inr (Or.inr ⟨by simpa using whole, rfl⟩)
    · rename_i rest found
      exact Or.inr (Or.inl (Text.eq_append_of_afterPrefix? found))
    · exact Or.inl rfl

end Path

end ControlPlane
