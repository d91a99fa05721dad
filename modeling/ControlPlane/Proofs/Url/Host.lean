import Mathlib.Data.List.Basic
import ControlPlane.Api.Endpoint
import ControlPlane.Proofs.Sequence
import ControlPlane.Proofs.Text.Trim

/-! Hosts of URLs: a host that is read is a name or an address, and never nothing, with its brackets
or without them. -/

namespace ControlPlane

namespace Net

/-- At most as many groups are read as there may be. -/
theorem length_readGroups_le (limit : Nat) (first : Bool) (cs : List Char) :
    (readGroups limit first cs).1.length ≤ limit := by
  induction limit generalizing first cs with
  | zero => exact Nat.le_refl 0
  | succ limit ih =>
    -- Each group takes one place of those that are left.
    unfold readGroups
    dsimp only
    split
    · exact Nat.zero_le _
    · split
      · -- A dotted address counts as two groups, and there is room for them.
        rename_i dotted
        split at dotted
        · simp only [List.length_cons, List.length_nil]
          omega
        · cases dotted
      · split
        · exact Nat.zero_le _
        · rename_i group rest _
          exact Nat.succ_le_succ (ih false rest)

/-- An address that is read has eight groups. -/
theorem length_parseIpv6? {cs : List Char} {groups : List Nat}
    (read : parseIpv6? cs = some groups) : groups.length = 8 := by
  -- Nothing is left behind the address, but that does not matter for its groups.
  have whole : ∃ rest, readIpv6? cs = some (groups, rest) := by
    unfold parseIpv6? at read
    split at read
    · rename_i found
      cases read
      exact ⟨[], found⟩
    · cases read
  obtain ⟨rest, read⟩ := whole
  have head := length_readGroups_le 8 true cs
  unfold readIpv6? at read
  dsimp only at read
  split at read
  · rename_i all
    cases read
    exact all
  · split at read
    · cases read
    · split at read
      · -- The zeros fill up what the groups on both sides leave.
        rename_i left _
        cases read
        have tail := length_readGroups_le (7 - (readGroups 8 true cs).1.length) true left
        simp only [List.length_append, List.length_replicate]
        omega
      · cases read

/-- A text with a separator between two parts or more has the separator in it. -/
theorem mem_intercalate {mark : Char} {first second : List Char} {rest : List (List Char)} :
    mark ∈ [mark].intercalate (first :: second :: rest) := by
  -- The first separator stands behind the first part.
  rw [List.intercalate_cons_cons]
  simp

/-- The text of several groups has a colon in it. -/
theorem colon_mem_ipv6Text {groups : List Nat} (several : 2 ≤ groups.length) :
    ':' ∈ (ipv6Text groups).toList := by
  unfold ipv6Text
  dsimp only
  split
  · -- All groups are written, with a colon between the first two.
    match groups, several with
    | first :: second :: rest, _ =>
      rw [String.toList_intercalate]
      exact mem_intercalate
  · -- The zeros that are left out are written as two colons.
    simp

/-- The text of several bytes has a point in it. -/
theorem point_mem_ipv4Text {bytes : List Nat} (several : 2 ≤ bytes.length) :
    '.' ∈ (ipv4Text bytes).toList := by
  -- Bytes are written with a point between the first two.
  match bytes, several with
  | first :: second :: rest, _ =>
    rw [ipv4Text, String.toList_intercalate]
    exact mem_intercalate

end Net

namespace Url

/-- An address of numbers has several bytes. -/
theorem length_ipv4? {name : List Char} {bytes : List Nat} (read : ipv4? name = some bytes) :
    2 ≤ bytes.length := by
  -- The address is made of some numbers and of the bytes of the last one.
  unfold ipv4? at read
  simp only [Option.bind_eq_bind, Option.bind_none, Option.ite_none_left_eq_some,
    Option.bind_eq_some_iff, Option.pure_def, Option.some.injEq] at read
  obtain ⟨_, numbers, _, last, _, _, _, rfl⟩ := read
  -- The last number fills up what the others leave of four bytes.
  simp only [List.length_append, List.length_map, List.length_range]
  omega

namespace HostName

/-- A bracket may not stand in a host name. -/
theorem not_bracket {c : Char} (allowed : isForbidden c = false) : c ≠ '[' ∧ c ≠ ']' := by
  -- Both brackets are on the list of what is forbidden.
  constructor <;> rintro rfl <;> revert allowed <;> decide

/-- The ASCII form of a label that may stand in a name begins with no bracket. -/
theorem exists_of_encodeLabel {label : List Char} (fits : labelFits label = true)
    (some : encodeLabel label ≠ []) : ∃ c ∈ encodeLabel label, c ≠ '[' ∧ c ≠ ']' := by
  unfold encodeLabel at some ⊢
  split
  · -- A label in ASCII stands for itself.
    rename_i plain
    rw [if_pos plain] at some
    obtain ⟨first, rest, rfl⟩ := List.exists_cons_of_ne_nil some
    refine ⟨first, List.mem_cons_self, not_bracket ?_⟩
    simp only [labelFits, Bool.and_eq_true, List.all_cons, Bool.not_eq_true'] at fits
    exact fits.1.1.1
  · -- Any other label is written with a mark in front, which begins with a letter.
    exact ⟨'x', List.mem_append_left _ (by decide), by decide, by decide⟩

/-- The ASCII form of a name, if it is not nothing, has a character that is no bracket. -/
theorem exists_of_toAscii? {cs name : List Char} (read : toAscii? cs = some name)
    (some : name ≠ []) : ∃ c ∈ name, c ≠ '[' ∧ c ≠ ']' := by
  unfold toAscii? at read
  dsimp only at read
  -- A name in ASCII is read as it is, in lower case, and any other is read label by label.
  split at read
  · split at read
    · cases read
    · rename_i allowed
      cases read
      obtain ⟨first, rest, same⟩ := List.exists_cons_of_ne_nil some
      have member : first ∈ cs.map Char.toLower := same ▸ List.mem_cons_self
      refine ⟨first, member, not_bracket ?_⟩
      simpa using fun forbidden => allowed (List.any_eq_true.mpr ⟨first, member, forbidden⟩)
  · simp only [Option.bind_eq_bind, Option.bind_none, Option.ite_none_left_eq_some,
      Option.bind_eq_some_iff, Option.pure_def, Option.some.injEq] at read
    obtain ⟨_, _, labels, _, fit, _, rfl⟩ := read
    have fit : ∀ label ∈ labels, labelFits label = true := by simpa using fit
    match labels, fit with
    -- Of several labels the point between them will do, and a single one has its own character.
    | [], _ => exact absurd rfl some
    | [label], fit =>
      rw [List.map_singleton, List.intercalate_singleton] at some ⊢
      exact exists_of_encodeLabel (fit label List.mem_cons_self) some
    | first :: second :: rest, _ => exact ⟨'.', Net.mem_intercalate, by decide, by decide⟩

end HostName

/-- A host that is read has a character that is no bracket. -/
theorem exists_of_domainHost {text : List Char} {host : String}
    (read : domainHost text = .ok host) : ∃ c ∈ host.toList, c ≠ '[' ∧ c ≠ ']' := by
  unfold domainHost at read
  split at read
  · -- An address in brackets.
    split at read
    · cases read
    · split at read
      · rename_i groups address
        cases read
        have eight := Net.length_parseIpv6? address
        have colon : ':' ∈ (Net.ipv6Text groups).toList := Net.colon_mem_ipv6Text (by omega)
        exact ⟨':', by simp [colon], by decide, by decide⟩
      · cases read
  · dsimp only at read
    split at read
    · cases read
    · cases read
    · rename_i name some named
      obtain ⟨_, _, ascii⟩ := Option.bind_eq_some_iff.mp named
      split at read
      · split at read
        · -- An address of numbers.
          rename_i bytes address
          cases read
          exact ⟨'.', Net.point_mem_ipv4Text (length_ipv4? address), by decide, by decide⟩
        · cases read
      · -- A name that is no address is kept.
        cases read
        rw [String.toList_ofList]
        exact HostName.exists_of_toAscii? ascii some

/-- What is read behind a scheme has it, and the host that is read unless this is nothing. -/
theorem exists_of_readAuthority {scheme : String} {cs : List Char} {url : Url}
    (read : readAuthority scheme cs = .ok url) :
    ∃ text host, (if isSpecial scheme then domainHost text else opaqueHost text) = .ok host ∧
      url.scheme = scheme ∧ url.host = if host.isEmpty then none else some host := by
  unfold readAuthority at read
  dsimp only at read
  rw [guarded_eq_ok_iff, guarded_eq_ok_iff] at read
  obtain ⟨_, _, read⟩ := read
  -- Whichever hosts the scheme has, and with a port or without one, the record is made alike.
  split at read
  all_goals
    rename_i special
    obtain ⟨host, named, read⟩ := bind_eq_ok_iff.mp read
    rw [guarded_eq_ok_iff] at read
    replace read := read.2
    split at read
    all_goals
      obtain ⟨_, _, read⟩ := bind_eq_ok_iff.mp read
      rw [guarded_eq_ok_iff] at read
      cases read.2
      first
        | exact ⟨_, host, (if_pos special).trans named, rfl, rfl⟩
        | exact ⟨_, host, (if_neg special).trans named, rfl, rfl⟩

/-- What is read behind the scheme of files has it. -/
theorem scheme_of_readFile {cs : List Char} {url : Url} (read : readFile cs = .ok url) :
    url.scheme = "file" := by
  unfold readFile at read
  -- The branches differ in the host, and all of them make a record for files.
  dsimp only at read
  split at read
  · split at read
    · -- The host may be nothing, and the scheme is the same.
      split at read
      all_goals
        obtain ⟨_, _, read⟩ := bind_eq_ok_iff.mp read
        cases read
        rfl
    · cases read
      rfl
  · cases read
    rfl

/-- The scheme of a URL that is read is the one that stands before its first colon. -/
theorem splitScheme?_of_parse {text : String} {url : Url} (read : parse text = .ok url) :
    ∃ scheme rest, splitScheme? ((Text.dropRight (fun c => c.val ≤ 0x20)
        (text.toList.dropWhile fun c => c.val ≤ 0x20)).filter
          (fun c => c ≠ '\t' && c ≠ '\n' && c ≠ '\r')) = some (scheme, rest) ∧
      url.scheme = String.ofList scheme := by
  unfold parse at read
  dsimp only at read
  split at read
  · cases read
  · rename_i scheme rest split
    -- Whatever is read behind the scheme keeps it.
    refine ⟨scheme, rest, split, ?_⟩
    split at read
    · rename_i file
      rw [file, scheme_of_readFile read]
    · have behind : ∀ rest, readAuthority (String.ofList scheme) rest = .ok url →
          url.scheme = String.ofList scheme := by
        intro rest read
        obtain ⟨_, _, _, same, _⟩ := exists_of_readAuthority read
        exact same
      split at read
      · exact behind _ read
      · split at read
        · exact behind _ read
        · cases read
          rfl

/-- A URL of the web that is read has a host, which is not nothing. -/
theorem exists_host_of_parse {text : String} {url : Url} (read : parse text = .ok url)
    (web : url.scheme = "http" ∨ url.scheme = "https") :
    ∃ host, url.host = some host ∧ ∃ c ∈ host.toList, c ≠ '[' ∧ c ≠ ']' := by
  obtain ⟨scheme, rest, split, same⟩ := splitScheme?_of_parse read
  -- The two schemes are neither of files nor without special rules.
  have remote : String.ofList scheme ≠ "file" := by
    rw [← same]
    rcases web with web | web <;> rw [web] <;> decide
  have special : isSpecial (String.ofList scheme) = true := by
    rw [← same]
    rcases web with web | web <;> rw [web] <;> decide
  unfold parse at read
  dsimp only at read
  rw [split] at read
  dsimp only at read
  -- A scheme of the web is special and not that of files, so a host is read behind it.
  rw [if_neg remote, if_pos special] at read
  obtain ⟨_, host, named, _, kept⟩ := exists_of_readAuthority read
  rw [if_pos special] at named
  have visible := exists_of_domainHost named
  have filled : host ≠ "" := by
    rintro rfl
    obtain ⟨c, member, _⟩ := visible
    cases member
  rw [if_neg (by simpa using filled)] at kept
  exact ⟨host, kept, visible⟩

/-- A URL of the web has a port. -/
theorem effectivePort?_isSome {url : Url} (web : url.scheme = "http" ∨ url.scheme = "https") :
    ∃ port, url.effectivePort? = some port := by
  unfold effectivePort?
  -- A port that is given counts, and else each of the two schemes has its own.
  cases url.port with
  | some port => exact ⟨port, rfl⟩
  | none => rcases web with same | same <;> rw [same] <;> exact ⟨_, rfl⟩

end Url

namespace Endpoint

/-- A host with a character that is no bracket is something without its brackets too. -/
theorem bareHost_ne_empty {host : String} (visible : ∃ c ∈ host.toList, c ≠ '[' ∧ c ≠ ']') :
    bareHost host ≠ "" := by
  -- Some character of the host is left when brackets are dropped at both ends.
  obtain ⟨c, member, opening, closing⟩ := visible
  intro none
  -- If nothing were left, every character would be a bracket.
  have all : Text.dropRight (· == ']') (host.toList.dropWhile (· == '[')) = [] := by
    simpa [bareHost] using none
  rw [Text.dropRight_eq_rdropWhile, List.rdropWhile_eq_nil_iff] at all
  exact closing (by simpa using all c (Text.mem_dropWhile member (by simpa using opening)))

end Endpoint

end ControlPlane
