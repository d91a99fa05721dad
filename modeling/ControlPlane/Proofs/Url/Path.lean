import Mathlib.Data.List.Basic
import ControlPlane.Api.Endpoint
import ControlPlane.Proofs.Text.Cut
import ControlPlane.Proofs.Text.Trim

/-! URLs put together of a scheme, a host and a path: a path that reading leaves as it is comes back,
whatever host it stands behind. -/

namespace ControlPlane

namespace Url

/-- A character that may stand in a host or in the port after it. -/
def isHostChar (c : Char) : Bool := !Text.isBlank c && !endsAuthority true c && c != '@'

theorem of_isHostChar {c : Char} (plain : isHostChar c = true) :
    -- The three tests are what the definition joins.
    Text.isBlank c = false ∧ endsAuthority true c = false ∧ c ≠ '@' := by
  simpa [isHostChar, and_assoc] using plain

/-- A character that may stand in a path is above the space and not blank. -/
theorem of_isPathChar {c : Char} (plain : isPathChar c = true) :
    0x20 < c.val ∧ Text.isBlank c = false := by
  simp only [isPathChar, Bool.and_eq_true, decide_eq_true_eq] at plain
  obtain ⟨⟨⟨above, below⟩, _⟩, _⟩ := plain
  refine ⟨above, ?_⟩
  -- All blanks lie below those characters or above them.
  have low := UInt32.lt_iff_toNat_lt.mp above
  have high := UInt32.lt_iff_toNat_lt.mp below
  simp only [Text.isBlank, Bool.or_eq_false_iff, Bool.and_eq_false_iff, beq_eq_false_iff_ne,
    decide_eq_false_iff_not, ne_eq, UInt32.le_iff_toNat_le, ← UInt32.toNat_inj]
  simp at low high ⊢
  omega

/-- A character is escaped as characters that may stand in a path. -/
theorem isPathChar_of_mem_escape {c d : Char} (member : d ∈ escapeUnless isPathChar c) :
    isPathChar d = true := by
  -- A character that may stand there is itself, and any other one is written as bytes.
  unfold escapeUnless at member
  split at member
  · rename_i plain
    rw [List.mem_singleton.mp member]
    exact plain
  · obtain ⟨byte, _, digit⟩ := List.mem_flatMap.mp member
    -- Each byte is written with a percent sign and two digits, all of which may stand there.
    have digits : ∀ n < 16,
        isPathChar (if n < 10 then Char.ofNat (48 + n) else Char.ofNat (55 + n)) = true := by
      decide
    have small := byte.toNat_lt
    simp only [escapeByte, List.mem_cons, List.not_mem_nil, or_false] at digit
    rcases digit with rfl | rfl | rfl
    · decide
    · exact digits _ (by omega)
    · exact digits _ (by omega)

/-- What holds of every segment and of the empty one still holds when dots are resolved. -/
theorem forall_mem_resolve {holds : List Char → Prop} (empty : holds [])
    {segments done : List (List Char)} (before : ∀ segment ∈ done, holds segment)
    (rest : ∀ segment ∈ segments, holds segment) :
    ∀ segment ∈ resolve done segments, holds segment := by
  -- The induction is on the segments, with those that are done before them.
  induction segments generalizing done with
  | nil => exact fun segment member => before segment (List.mem_reverse.mp member)
  | cons first others ih =>
    rw [List.forall_mem_cons] at rest
    -- A path that ends in dots ends in the empty segment.
    have dots : ∀ kept : List (List Char), (∀ segment ∈ kept, holds segment) →
        ∀ segment ∈ resolve (if others.isEmpty then [] :: kept else kept) others,
          holds segment := by
      intro kept all
      apply ih _ rest.2
      split
      · exact List.forall_mem_cons.mpr ⟨empty, all⟩
      · exact all
    unfold resolve
    dsimp only
    split
    · -- In the directory above there are only segments from before.
      cases done with
      | nil => exact dots [] before
      | cons last earlier =>
        dsimp only
        by_cases drive : isDrive last = true
        · rw [if_pos drive]
          exact dots _ before
        · rw [if_neg drive]
          exact dots _ (List.forall_mem_cons.mp before).2
    · split
      · exact dots done before
      · exact ih (List.forall_mem_cons.mpr ⟨rest.1, before⟩) rest.2

/-- Resolving dots leaves at least one segment. -/
theorem resolve_ne_nil {segments done : List (List Char)} (some : segments ≠ []) :
    resolve done segments ≠ [] := by
  -- The induction is on the segments, of which the last one leaves something.
  induction segments generalizing done with
  | nil => exact absurd rfl some
  | cons first rest ih =>
    unfold resolve
    dsimp only
    cases rest with
    | nil =>
      -- The last segment is kept, or the path ends in a slash in its place.
      rw [List.isEmpty_nil, if_pos rfl, if_pos rfl]
      simp only [resolve]
      split
      · simp
      · split <;> simp
    | cons second rest =>
      split
      · exact ih (List.cons_ne_nil _ _)
      · split <;> exact ih (List.cons_ne_nil _ _)

/-- A path is read as segments with a slash before each. -/
theorem readPath_eq (cs : List Char) :
    ∃ segments, segments ≠ [] ∧ (∀ segment ∈ segments, ∀ c ∈ segment, isPathChar c = true) ∧
      readPath true cs = String.ofList (segments.flatMap fun segment => '/' :: segment) := by
  -- The segments that are read are those that resolving leaves.
  unfold readPath
  simp only [Bool.not_true, Bool.and_false, Bool.false_eq_true, if_false]
  refine ⟨_, resolve_ne_nil ?_, forall_mem_resolve ?_ ?_ ?_, rfl⟩
  · exact fun none => Text.cutAt_ne_nil _ _ (List.map_eq_nil_iff.mp none)
  · exact fun c member => absurd member List.not_mem_nil
  · exact fun segment member => absurd member List.not_mem_nil
  · -- Whatever the segments were, they are escaped.
    intro segment member c inside
    obtain ⟨piece, _, rfl⟩ := List.mem_map.mp member
    obtain ⟨d, _, escaped⟩ := List.mem_flatMap.mp inside
    exact isPathChar_of_mem_escape escaped

/-- A path that is read begins with a slash. -/
theorem readPath_cons (cs : List Char) : ∃ tail, (readPath true cs).toList = '/' :: tail := by
  -- The first segment has a slash before it.
  obtain ⟨segments, some, _, same⟩ := readPath_eq cs
  obtain ⟨first, rest, rfl⟩ := List.exists_cons_of_ne_nil some
  exact ⟨_, by rw [same, String.toList_ofList, List.flatMap_cons, List.cons_append]⟩

/-- A path that is read has only characters that may stand in a path. -/
theorem isPathChar_of_mem_readPath {cs : List Char} {c : Char}
    (member : c ∈ (readPath true cs).toList) : isPathChar c = true := by
  obtain ⟨segments, _, plain, same⟩ := readPath_eq cs
  -- A character is a slash before a segment or one of a segment.
  rw [same, String.toList_ofList] at member
  obtain ⟨segment, among, inside⟩ := List.mem_flatMap.mp member
  rcases List.mem_cons.mp inside with rfl | inside
  · decide
  · exact plain segment among c inside

section Authority

variable {host tail : List Char} (plain : ∀ c ∈ host, isHostChar c = true)
include plain

/-- A host alone is no user information. -/
theorem splitUser_append :
    splitUser true (host ++ '/' :: tail) = (none, host ++ '/' :: tail) := by
  -- Everything up to the slash is the authority, and there is no at sign in it.
  have authority : (host ++ '/' :: tail).takeWhile (fun c => !endsAuthority true c) = host := by
    rw [List.takeWhile_append_of_pos fun c member => by
        simp [(of_isHostChar (plain c member)).2.1],
      List.takeWhile_cons_of_neg (by decide), List.append_nil]
  have whole : host.reverse.takeWhile (· ≠ '@') = host.reverse := by
    rw [← List.append_nil host.reverse, List.takeWhile_append_of_pos, List.takeWhile_nil]
    intro c member
    simpa using (of_isHostChar (plain c (List.mem_reverse.mp member))).2.2
  unfold splitUser
  rw [authority]
  dsimp only
  rw [whole, List.reverse_reverse, if_pos rfl]

/-- What stands after the name is the path, or a port and the path. -/
theorem drop_hostLength (inBrackets : Bool) :
    (host ++ '/' :: tail).drop (hostLength true inBrackets (host ++ '/' :: tail)) = '/' :: tail ∨
      ∃ port, (∀ c ∈ port, isHostChar c = true) ∧
        (host ++ '/' :: tail).drop (hostLength true inBrackets (host ++ '/' :: tail)) =
          ':' :: (port ++ '/' :: tail) := by
  -- The induction is on the host, whose colons outside of brackets end the name.
  induction host generalizing inBrackets with
  | nil => exact Or.inl rfl
  | cons first rest ih =>
    rw [List.forall_mem_cons] at plain
    rw [List.cons_append, hostLength]
    by_cases colon : first = ':' ∧ ¬inBrackets
    · -- The name ends here, and the rest of the host is the port.
      rw [if_pos colon, colon.1]
      exact Or.inr ⟨rest, plain.2, rfl⟩
    · rw [if_neg colon, if_neg (by simp [(of_isHostChar plain.1).2.1]), Nat.add_comm,
        List.drop_succ_cons]
      exact ih plain.2 _

/-- What stands after a port that can be read is the path. -/
theorem readPort_append {number : Option Nat} {rest : List Char}
    (success : readPort (host ++ '/' :: tail) = .ok (number, rest)) : rest = '/' :: tail := by
  -- Digits are read until something else comes, which must be the slash.
  unfold readPort at success
  rw [List.dropWhile_append] at success
  cases left : host.dropWhile Char.isDigit with
  | nil =>
    rw [left] at success
    simp only [List.isEmpty_nil, if_true] at success
    rw [List.dropWhile_cons_of_neg (by decide)] at success
    dsimp only at success
    split at success
    · cases success
    · exact (Prod.ext_iff.mp (Except.ok.inj success)).2.symm
  | cons c more =>
    -- Something else than a digit stands in the port, so it cannot be read.
    have among : c ∈ host := (List.dropWhile_sublist _).subset (left ▸ List.mem_cons_self)
    rw [left] at success
    simp [(of_isHostChar (plain c among)).2.1] at success

/-- What stands after the host is read as the path. -/
theorem path_of_readAuthority {scheme : String} (special : isSpecial scheme = true) {url : Url}
    (success : readAuthority scheme (host ++ '/' :: tail) = .ok url) :
    url.path = readPath true ('/' :: tail) := by
  -- The parts are read one after the other: no user, then a name, then a port if there is one, and
  -- the path.
  unfold readAuthority at success
  dsimp only at success
  rw [special, splitUser_append plain] at success
  dsimp only at success
  rw [if_neg (by simp)] at success
  split at success
  · cases success
  · rw [if_pos rfl] at success
    cases named : domainHost ((host ++ '/' :: tail).take
      (hostLength true false (host ++ '/' :: tail))) with
    | error fault => rw [named] at success; cases success
    | ok name =>
      rw [named] at success
      dsimp only [bind, Except.bind] at success
      split at success
      · cases success
      · rcases drop_hostLength plain false with rest | ⟨port, more, rest⟩
        · -- There is no port.
          rw [rest] at success
          split at success
          · rename_i colon
            simp at colon
          · split at success
            · cases success
            · exact (congrArg Url.path (Except.ok.inj success)).symm
        · -- There is a port, and the path stands behind it.
          rw [rest] at success
          split at success
          · rename_i colon
            cases colon
            cases read : readPort (port ++ '/' :: tail) with
            | error fault => rw [read] at success; cases success
            | ok found =>
              obtain ⟨number, left⟩ := found
              rw [read, readPort_append more read] at success
              dsimp only at success
              split at success
              · cases success
              · exact (congrArg Url.path (Except.ok.inj success)).symm
          · rename_i none
            exact absurd rfl (none _)

end Authority

section Written

variable {scheme host path : String} (web : scheme = "http" ∨ scheme = "https")
  (plain : ∀ c ∈ host.toList, isHostChar c = true) (named : host ≠ "")
  (settled : readPath true path.toList = path)

/-- The characters of a URL that is put together. -/
theorem toList_written (scheme host path : String) :
    (scheme ++ "://" ++ host ++ path).toList =
      scheme.toList ++ ':' :: '/' :: '/' :: (host.toList ++ path.toList) := by
  simp

include web in
/-- A URL that is put together begins with the first letter of its scheme. -/
theorem head?_written : (scheme ++ "://" ++ host ++ path).toList.head? = some 'h' := by
  rw [toList_written]
  -- Both schemes begin with the same letter.
  rcases web with rfl | rfl <;> rfl

include web in
/-- A URL that is put together names its scheme. -/
theorem hasWord_written :
    Text.hasWord [':', '/', '/'] (scheme ++ "://" ++ host ++ path).toList = true := by
  rw [toList_written]
  rcases web with rfl | rfl <;> rfl

include settled in
/-- A URL that is put together ends in a character of its path. -/
theorem isPathChar_of_mem_getLast? {c : Char}
    (last : c ∈ (scheme ++ "://" ++ host ++ path).toList.getLast?) : isPathChar c = true := by
  -- The path is not empty, so it is the end of the whole.
  obtain ⟨tail, begins⟩ := readPath_cons path.toList
  rw [settled] at begins
  have some : path.toList ≠ [] := begins ▸ List.cons_ne_nil _ _
  have own : c ∈ path.toList := by
    rw [toList_written, ← List.cons_append, ← List.cons_append, ← List.cons_append,
      ← List.append_assoc, List.getLast?_append_of_ne_nil _ some] at last
    exact List.mem_of_getLast? last
  rw [← settled] at own
  exact isPathChar_of_mem_readPath own

include web settled in
/-- A URL that is put together has no blanks around it. -/
theorem trim_written : Text.trim (scheme ++ "://" ++ host ++ path) =
    scheme ++ "://" ++ host ++ path := by
  -- It begins with a letter and ends with a character of a path.
  apply Text.trim_eq_self
  · rw [head?_written web]
    simp [Text.isBlank]
  · exact fun c last => (of_isPathChar (isPathChar_of_mem_getLast? settled last)).2

include web plain settled in
/-- There is no blank in a URL that is put together. -/
theorem isBlank_of_mem_written {c : Char}
    (member : c ∈ (scheme ++ "://" ++ host ++ path).toList) : Text.isBlank c = false := by
  rw [toList_written, List.mem_append, List.mem_cons, List.mem_cons, List.mem_cons,
    List.mem_append] at member
  -- Each part has none: the scheme, the mark, the host and the path.
  rcases member with inScheme | rfl | rfl | rfl | inHost | inPath
  · have letters : scheme.toList.all isHostChar = true := by rcases web with rfl | rfl <;> rfl
    exact (of_isHostChar (List.all_eq_true.mp letters c inScheme)).1
  · decide
  · decide
  · decide
  · exact (of_isHostChar (plain c inHost)).1
  · rw [← settled] at inPath
    exact (of_isPathChar (isPathChar_of_mem_readPath inPath)).2

include web plain settled in
/-- Nothing is left off from a URL that is put together before it is read. -/
theorem filter_written :
    (Text.dropRight (fun c => c.val ≤ 0x20)
      ((scheme ++ "://" ++ host ++ path).toList.dropWhile fun c => c.val ≤ 0x20)).filter
        (fun c => c ≠ '\t' && c ≠ '\n' && c ≠ '\r') =
      (scheme ++ "://" ++ host ++ path).toList := by
  rw [Text.dropWhile_eq_self, Text.dropRight_eq_self, List.filter_eq_self]
  · -- A tab or a line break would be a blank.
    intro c member
    have visible := isBlank_of_mem_written web plain settled member
    have apart : ∀ d, Text.isBlank d = true → c ≠ d := by
      rintro d blank rfl
      rw [blank] at visible
      cases visible
    simp [apart '\t' (by decide), apart '\n' (by decide), apart '\r' (by decide)]
  · -- The last character is above the space.
    intro c last
    have above := (of_isPathChar (isPathChar_of_mem_getLast? settled last)).1
    simpa using above
  · -- The first character is a letter.
    rw [head?_written web]
    simp

include web plain named settled in
/-- A URL that is put together is read from its host on. -/
theorem parse_written : parse (scheme ++ "://" ++ host ++ path) =
    readAuthority scheme (host.toList ++ path.toList) := by
  -- The scheme is split off at the first colon, and what is left is told by it.
  have split : splitScheme? (scheme ++ "://" ++ host ++ path).toList =
      some (scheme.toList, '/' :: '/' :: (host.toList ++ path.toList)) := by
    rw [toList_written]
    rcases web with rfl | rfl <;> rfl
  have special : isSpecial scheme = true := by rcases web with rfl | rfl <;> decide
  have remote : scheme ≠ "file" := by rcases web with rfl | rfl <;> decide
  -- The host begins with a character that is no slash.
  have begins : ∀ c ∈ (host.toList ++ path.toList).head?, (c == '/' || c == '\\') = false := by
    intro c first
    rw [List.head?_append_of_ne_nil _ (by simpa using named)] at first
    have inside := (of_isHostChar (plain c (List.mem_of_head? first))).2.1
    simp only [endsAuthority, Bool.true_and, Bool.or_eq_false_iff] at inside
    simp [inside.1.1.1, inside.2]
  unfold parse
  dsimp only
  rw [filter_written web plain settled, split]
  dsimp only
  rw [String.ofList_toList, if_neg remote, if_pos special,
    List.dropWhile_cons_of_pos (by decide), List.dropWhile_cons_of_pos (by decide),
    Text.dropWhile_eq_self begins]

include web plain named settled in
/-- The path of a URL that is put together comes back. -/
theorem path_of_parse_written {url : Url}
    (success : parse (scheme ++ "://" ++ host ++ path) = .ok url) : url.path = path := by
  -- The path begins with a slash, so the host is read up to there.
  obtain ⟨tail, begins⟩ := readPath_cons path.toList
  rw [settled] at begins
  have special : isSpecial scheme = true := by rcases web with rfl | rfl <;> decide
  rw [parse_written web plain named settled, begins] at success
  rw [path_of_readAuthority plain special success, ← begins, settled]

end Written

end Url

namespace Endpoint

/-- A URL that is put together is read as it is. -/
theorem exists_parse_of_parse_written {scheme host path : String}
    (web : scheme = "http" ∨ scheme = "https") (settled : Url.readPath true path.toList = path)
    {environment : Environment} {endpoint : Endpoint}
    (success : parse environment (scheme ++ "://" ++ host ++ path) = .ok endpoint) :
    ∃ url, Url.parse (scheme ++ "://" ++ host ++ path) = .ok url := by
  -- The text names its scheme, so it is not read with another one before it.
  have absolute : withScheme (scheme ++ "://" ++ host ++ path) =
      scheme ++ "://" ++ host ++ path := by
    unfold withScheme
    rw [Url.hasWord_written web, if_pos rfl]
  unfold parse at success
  rw [Url.trim_written web settled] at success
  dsimp only at success
  rw [absolute] at success
  split at success
  · cases success
  · cases outcome : Url.parse (scheme ++ "://" ++ host ++ path) with
    | error fault => rw [outcome] at success; cases success
    | ok url => exact ⟨url, rfl⟩

end Endpoint

end ControlPlane
