import ControlPlane.Proofs.Path.Segments

/-! Paths one after the other: the segments of a path are all that counts, and a base path that a
path already begins with does not count twice. -/

namespace ControlPlane.Path

/-- The segments of a path are what its slashes leave, without the empty pieces. -/
theorem segments_eq_splitOn (path : List Char) :
    segments path = (path.splitOn '/').filter (!·.isEmpty) := by
  -- Cutting at slashes is the library's splitting at them.
  rw [segments, Text.cutAt_eq_splitOnP, List.splitOn_eq_splitOnP]

/-- The path of some segments has these segments. -/
theorem segments_ofSegments {found : List (List Char)}
    (all : ∀ segment ∈ found, IsSegment segment) : segments (ofSegments found) = found := by
  -- The root has no segments, as its one slash has nothing around it.
  cases found with
  | nil => rfl
  | cons first rest => exact segments_flatMap all

/-- The segments of two paths can be segments. -/
theorem isSegment_of_mem_append {first second segment : List Char}
    (member : segment ∈ segments first ++ segments second) : IsSegment segment := by
  -- It is a segment of the first path or of the second one.
  rcases List.mem_append.mp member with among | among
  · exact isSegment_of_mem_segments among
  · exact isSegment_of_mem_segments among

/-- Two paths one after the other have the segments of the first and then those of the second. -/
@[simp] theorem segments_join (first second : String) :
    segments (join first second).toList = segments first.toList ++ segments second.toList := by
  -- The joined path is written from these segments, and they are read back from it.
  rw [join, String.toList_ofList]
  exact segments_ofSegments fun _ => isSegment_of_mem_append

/-- A path keeps its segments in its normal form. -/
@[simp] theorem segments_normalize (path : String) :
    segments (normalize path).toList = segments path.toList := by
  -- The normal form is written from the segments, and they are read back from it.
  rw [normalize, String.toList_ofList]
  exact segments_ofSegments fun _ => isSegment_of_mem_segments

/-- Paths one after the other are the same path just if their segments are the same. -/
theorem join_eq_join_iff {first second first' second' : String} :
    join first second = join first' second' ↔
      segments first.toList ++ segments second.toList =
        segments first'.toList ++ segments second'.toList := by
  -- A joined path is made of its segments alone, and it shows them.
  constructor
  · intro same
    rw [← segments_join, same, segments_join]
  · intro same
    rw [join, same, join]

/-- Two paths one after the other that have the segments of one path are its normal form. -/
theorem join_eq_normalize {first second path : String}
    (same : segments first.toList ++ segments second.toList = segments path.toList) :
    join first second = normalize path := by
  rw [join, same, normalize]

/-- Below a base path, a path that begins with the segments of the base has the segments that come
after them. -/
theorem segments_belowBase {base rest : List (List Char)}
    (all : ∀ segment ∈ base ++ rest, IsSegment segment) :
    segments (belowBase (ofSegments base) (ofSegments (base ++ rest))) = rest := by
  -- The segments of the base and those behind it are segments each.
  obtain ⟨ofBase, ofRest⟩ := List.forall_mem_append.mp all
  cases base with
  | nil =>
    -- Every path is below the root.
    rw [belowBase, ofSegments, if_pos rfl]
    exact segments_ofSegments ofRest
  | cons first others =>
    -- Any other base is not the root, and the path begins with its very characters.
    have filled := (ofBase first List.mem_cons_self).1
    have begins : ofSegments (first :: others ++ rest) =
        ofSegments (first :: others) ++ rest.flatMap ('/' :: ·) := List.flatMap_append
    have below : ofSegments (first :: others) ≠ ['/'] := by
      simp [ofSegments, filled]
    rw [belowBase, if_neg below, begins, Text.afterPrefix?_append]
    -- Behind the base there is nothing, or a slash and the next segment.
    cases rest with
    | nil => rfl
    | cons next later => exact segments_flatMap ofRest

/-- A path below a base is the path itself, or it has the segments that the path has after those of
the base. -/
theorem segments_append_belowBase (base path : List Char) :
    belowBase base path = path ∨ segments base ++ segments (belowBase base path) = segments path := by
  -- The cases are those of what is found behind the base in the path.
  unfold belowBase
  split
  · exact Or.inl rfl
  · -- The base is not the root, so the path may begin with it.
    split
    · -- The path is the base, and there is nothing below it.
      rename_i found
      rw [Text.eq_append_of_afterPrefix? found, List.append_nil]
      exact Or.inr (List.append_nil _)
    · -- The base ends at a slash, where the path is cut.
      rename_i rest found
      rw [Text.eq_append_of_afterPrefix? found, segments, segments, segments,
        Text.cutAt_append rfl, List.filter_append]
      exact Or.inr rfl
    · exact Or.inl rfl

/-- What stands behind a base path has the same segments as what is below the base in both. -/
theorem segments_relativeTo_join (raw path : String) :
    segments (relativeTo (normalize raw) (join (normalize raw) path)).toList =
      segments path.toList := by
  -- Both the base and the joined path are written from segments.
  rw [relativeTo, String.toList_ofList, join, String.toList_ofList, segments_normalize, normalize,
    String.toList_ofList]
  exact segments_belowBase fun _ => isSegment_of_mem_append

/-- Paths are joined by their segments, which are what their slashes leave without the empty pieces:
the segments of the first and then those of the second, and nothing else, make the joined path,
which is in its normal form. So joining is associative, nothing and the root are neutral up to the
normal form, and the normal form is its own. Below a base in its normal form, a full path begins
with the segments of the base and is its own full path; it is a path behind the base, or the path
alone if this names the base already. -/
theorem join_algebra :
    (∀ path, segments path = (path.splitOn '/').filter (!·.isEmpty)) ∧
    (∀ first second, IsNormal (join first second) ∧ segments (join first second).toList =
      segments first.toList ++ segments second.toList) ∧
    (∀ first second first' second', join first second = join first' second' ↔
      segments first.toList ++ segments second.toList =
        segments first'.toList ++ segments second'.toList) ∧
    (∀ first second third,
      join (join first second) third = join first (join second third)) ∧
    (∀ path, join "" path = normalize path ∧ join path "" = normalize path ∧
      join "/" path = normalize path ∧ join path "/" = normalize path) ∧
    (∀ path, normalize (normalize path) = normalize path) ∧
    ∀ raw path, let base := normalize raw
      let full (path : String) := join base (relativeTo base path)
      segments base.toList <+: segments (full path).toList ∧ full (full path) = full path ∧
        (full path = join base path ∨ full path = normalize path) := by
  refine ⟨segments_eq_splitOn,
    fun first second => ⟨isNormal_ofSegments fun _ => isSegment_of_mem_append,
      segments_join first second⟩,
    fun _ _ _ _ => join_eq_join_iff, fun first second third => ?_, fun path => ?_, fun path => ?_,
    fun raw path => ⟨?_, ?_, ?_⟩⟩
  · -- Both sides have the segments of the three paths one after the other.
    rw [join_eq_join_iff, segments_join, segments_join, List.append_assoc]
  · -- Nothing and the root have no segments.
    exact ⟨join_eq_normalize (List.nil_append _), join_eq_normalize (List.append_nil _),
      join_eq_normalize (List.nil_append _), join_eq_normalize (List.append_nil _)⟩
  · -- The normal form has the segments of the path, and it is made of them alone.
    rw [normalize, segments_normalize, ← normalize]
  · -- The base is joined in front.
    rw [segments_join]
    exact List.prefix_append _ _
  · -- The full path is the base with something behind it, which is what is below the base again.
    change join _ (relativeTo _ (join _ _)) = join _ _
    rw [join_eq_join_iff, segments_relativeTo_join]
  · rcases segments_append_belowBase (normalize raw).toList path.toList with same | behind
    · -- Nothing is taken away.
      have alone : relativeTo (normalize raw) path = path := by
        rw [relativeTo, same, String.ofList_toList]
      exact Or.inl (congrArg (join (normalize raw)) alone)
    · -- With what is taken away in front again, the segments are those of the path.
      refine Or.inr (join_eq_normalize ?_)
      rw [relativeTo, String.toList_ofList, behind]

end ControlPlane.Path
