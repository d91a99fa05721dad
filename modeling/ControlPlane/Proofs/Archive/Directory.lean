import ControlPlane.Archive.Directory
import ControlPlane.Proofs.Archive.Inflate

/-! What a zip archive gives of its entries: the sizes that it declares are words, and the first
bytes of the contents are always those of the same contents. -/

namespace ControlPlane.Archive

/-- What comes out of an entry when it is unpacked. -/
structure Unpacked where
  bytes : ByteArray
  /-- Whether the contents end behind these bytes, or else reading breaks off there. -/
  sound : Bool

/-- The first bytes, at most so many; reading breaks off only if more are asked for. -/
def Unpacked.take (unpacked : Unpacked) (count : Nat) : Option ByteArray :=
  if count ≤ unpacked.bytes.size then some (unpacked.bytes.extract 0 count)
  else if unpacked.sound then some unpacked.bytes else none

section Words

variable {bytes : ByteArray}

/-- A number in so many bytes is less than the power of a byte. -/
theorem number?_lt {width place n : Nat} (found : number? bytes width place = some n) :
    n < Nat.pow 256 width := by
  -- The induction is on the number of bytes, each of which makes the bound a byte's power greater.
  induction width generalizing place n with
  | zero =>
    cases found
    exact Nat.one_pos
  | succ width ih =>
    obtain ⟨low, _, more⟩ := Option.bind_eq_some_iff.mp found
    obtain ⟨high, rest, same⟩ := Option.bind_eq_some_iff.mp more
    cases same
    -- The first byte is the lowest digit, and the others are a number of one byte less.
    have small := low.toNat_lt
    have below := ih rest
    show low.toNat + 256 * high < Nat.pow 256 width * 256
    omega

/-- Fields that are words are so with their numbers from eight bytes. -/
theorem widen_lt {every : Bool} {fields wide : List Nat} {place : Nat}
    (words : ∀ field ∈ fields, field < UInt64.size)
    (found : widen bytes every fields place = some wide) : ∀ field ∈ wide, field < UInt64.size := by
  -- The fields keep their order, and the place moves on with each number that is read.
  induction fields generalizing place wide with
  | nil =>
    cases found
    exact words
  | cons field rest ih =>
    obtain ⟨word, others⟩ := List.forall_mem_cons.mp words
    unfold widen at found
    split at found
    · -- A field that says that its number is elsewhere gets one of eight bytes, which is a word.
      obtain ⟨eight, here, more⟩ := Option.bind_eq_some_iff.mp found
      obtain ⟨later, behind, same⟩ := Option.bind_eq_some_iff.mp more
      cases same
      exact List.forall_mem_cons.mpr ⟨number?_lt here, ih others behind⟩
    · -- A field that holds its number itself stays as it is.
      obtain ⟨later, behind, same⟩ := Option.bind_eq_some_iff.mp found
      cases same
      exact List.forall_mem_cons.mpr ⟨word, ih others behind⟩

/-- Fields that are words are so with their numbers from an extra field. -/
theorem wideNumbers_lt {fields wide : List Nat} {fuel place size : Nat}
    (words : ∀ field ∈ fields, field < UInt64.size)
    (found : wideNumbers bytes fields fuel place size = some wide) :
    ∀ field ∈ wide, field < UInt64.size := by
  -- The fuel is that of the search through the extra fields, and the fields are the same all along.
  induction fuel generalizing place size with
  | zero =>
    cases found
    exact words
  | succ fuel ih =>
    unfold wideNumbers at found
    split at found
    · cases found
      exact words
    -- One of the extra fields holds the numbers, and the others are passed over.
    · obtain ⟨kind, _, more⟩ := Option.bind_eq_some_iff.mp found
      obtain ⟨length, _, last⟩ := Option.bind_eq_some_iff.mp more
      dsimp only at last
      split at last
      · exact widen_lt words (Option.ite_none_left_eq_some.mp last).2
      · exact ih last

/-- The size that an entry declares is a word. -/
theorem declaredSize_lt_of_member? {shift directory place behind : Nat} {member : Member}
    (found : member? bytes shift directory place = some (member, behind)) :
    member.declaredSize < UInt64.size := by
  -- The head of the entry is read field by field, and the declared size is one of three that may be
  -- wider elsewhere.
  unfold member? at found
  split at found
  · obtain ⟨flags, _, found⟩ := Option.bind_eq_some_iff.mp found
    obtain ⟨method, _, found⟩ := Option.bind_eq_some_iff.mp found
    obtain ⟨checksum, _, found⟩ := Option.bind_eq_some_iff.mp found
    obtain ⟨packedSize, packed, found⟩ := Option.bind_eq_some_iff.mp found
    obtain ⟨declaredSize, declared, found⟩ := Option.bind_eq_some_iff.mp found
    obtain ⟨nameLength, _, found⟩ := Option.bind_eq_some_iff.mp found
    obtain ⟨extraLength, _, found⟩ := Option.bind_eq_some_iff.mp found
    obtain ⟨commentLength, _, found⟩ := Option.bind_eq_some_iff.mp found
    obtain ⟨offset, place, found⟩ := Option.bind_eq_some_iff.mp found
    dsimp only at found
    split at found
    · cases found
    · obtain ⟨wide, numbers, found⟩ := Option.bind_eq_some_iff.mp found
      -- Fields of four bytes are words.
      have words : ∀ field ∈ [declaredSize, packedSize, offset], field < UInt64.size := by
        have narrow : Nat.pow 256 4 < UInt64.size := by decide
        have one := number?_lt declared
        have two := number?_lt packed
        have three := number?_lt place
        simp only [List.forall_mem_cons]
        exact ⟨by omega, by omega, by omega, by simp⟩
      have wides := wideNumbers_lt words numbers
      split at found
      · obtain ⟨start, _, found⟩ := Option.bind_eq_some_iff.mp found
        split at found
        · cases found
        · cases found
          exact wides _ List.mem_cons_self
      · cases found
  · cases found

/-- So it is for all entries of a directory, and for those of the directory that is found. -/
theorem declaredSize_lt_of_members? {shift directory count place : Nat} {found : List Member}
    (listed : members? bytes shift directory count place = some found) :
    ∀ member ∈ found, member.declaredSize < UInt64.size := by
  -- The induction is on the number of entries, each of which begins where the last one ends.
  induction count generalizing place found with
  | zero =>
    cases listed
    simp
  | succ count ih =>
    obtain ⟨⟨member, behind⟩, here, more⟩ := Option.bind_eq_some_iff.mp listed
    obtain ⟨later, others, same⟩ := Option.bind_eq_some_iff.mp more
    cases same
    exact List.forall_mem_cons.mpr ⟨declaredSize_lt_of_member? here, ih others⟩

theorem declaredSize_lt_of_directoryAt? {place : Nat} {found : List Member}
    (listed : directoryAt? bytes place = some found) :
    ∀ member ∈ found, member.declaredSize < UInt64.size := by
  -- Whether the numbers are from the short or from the long form, the entries are listed alike.
  unfold directoryAt? at listed
  split at listed
  · obtain ⟨disk, _, listed⟩ := Option.bind_eq_some_iff.mp listed
    obtain ⟨directoryDisk, _, listed⟩ := Option.bind_eq_some_iff.mp listed
    obtain ⟨countHere, _, listed⟩ := Option.bind_eq_some_iff.mp listed
    obtain ⟨count, _, listed⟩ := Option.bind_eq_some_iff.mp listed
    obtain ⟨offset, _, listed⟩ := Option.bind_eq_some_iff.mp listed
    obtain ⟨commentLength, _, listed⟩ := Option.bind_eq_some_iff.mp listed
    dsimp only at listed
    split at listed
    · cases listed
    · split at listed
      · exact declaredSize_lt_of_members? listed
      · obtain ⟨directory, _, listed⟩ := Option.bind_eq_some_iff.mp listed
        exact declaredSize_lt_of_members? listed
  · cases listed

theorem declaredSize_lt_of_directoryBelow? {place : Nat} {found : List Member}
    (listed : directoryBelow? bytes place = some found) :
    ∀ member ∈ found, member.declaredSize < UInt64.size := by
  -- The places are tried from the end of the archive on, so the first that fits is at one of them.
  induction place with
  | zero => cases listed
  | succ place ih =>
    rcases Option.or_eq_some_iff.mp listed with here | ⟨_, below⟩
    · exact declaredSize_lt_of_directoryAt? here
    · exact ih below

/-- Joining adds nothing but the entry. -/
theorem eq_or_mem_of_mem_join {member other : Member} {kept : List Member}
    (among : other ∈ member.join kept) : other = member ∨ other ∈ kept := by
  -- The entries that are kept are passed one by one, until one has the same name.
  induction kept with
  | nil => exact Or.inl (List.mem_singleton.mp among)
  | cons first rest ih =>
    -- The entry replaces the one with its name, or comes behind all others.
    unfold Member.join at among
    split at among
    · rcases List.mem_cons.mp among with same | later
      · exact Or.inl same
      · exact Or.inr (List.mem_cons_of_mem _ later)
    · rcases List.mem_cons.mp among with same | later
      · exact Or.inr (List.mem_cons.mpr (Or.inl same))
      · exact (ih later).imp id (List.mem_cons_of_mem _)

/-- The sizes that an archive declares are words. -/
theorem declaredSize_lt {found : List Member} (listed : members bytes = some found) :
    ∀ member ∈ found, member.declaredSize < UInt64.size := by
  obtain ⟨every, below, rfl⟩ := Option.map_eq_some_iff.mp listed
  have words := declaredSize_lt_of_directoryBelow? below
  -- Each one that is joined is one of the directory.
  refine List.foldlRecOn
    (motive := fun kept : List Member => ∀ member ∈ kept, member.declaredSize < UInt64.size)
    every _ (by simp) fun kept keeps member among other later => ?_
  rcases eq_or_mem_of_mem_join later with rfl | before
  · exact words other among
  · exact keeps other before

end Words

namespace Member

variable (bytes : ByteArray) (member : Member)

/-- Unpacking up to a limit gives what comes out under a greater one, cut at the limit if there is
so much of it. -/
theorem unpack_eq {limit more : Nat} (less : limit ≤ more) :
    member.unpack bytes limit =
      if limit ≤ (member.unpack bytes more).1.size then
        ((member.unpack bytes more).1.extract 0 limit, .filled)
      else member.unpack bytes more := by
  -- Deflated and stored entries are cut by different functions, so the cases are those of the
  -- method.
  unfold unpack
  dsimp only
  split
  · exact Inflate.inflate_eq less _
  · -- The contents are stored as they are.
    generalize member.packed bytes = packed
    show _ = if limit ≤ (packed.extract 0 more).size then ((packed.extract 0 more).extract 0 limit, _)
      else (packed.extract 0 more, _)
    rw [ByteArray.size_extract]
    by_cases long : limit ≤ packed.size
    · -- Cutting twice is cutting at the smaller of the two limits.
      rw [if_pos long, if_pos (by omega), ByteArray.extract_extract]
      congr 2
      omega
    · -- Neither limit cuts anything, so both sides are the contents.
      have whole : packed.extract 0 more = packed := Inflate.extract_of_size_le (by omega)
      have part : packed.extract 0 limit = packed := Inflate.extract_of_size_le (by omega)
      rw [if_neg long, if_neg (by omega), if_neg (by omega), whole, part]

/-- The whole contents, as far as a word can count them. -/
def unpacked : Unpacked :=
  ⟨(member.unpack bytes UInt64.size).1, (member.take bytes UInt64.size).isSome⟩

/-- What is read of the contents is what was unpacked. -/
theorem eq_of_take_eq_some {limit : Nat} {out : ByteArray}
    (taken : member.take bytes limit = some out) : out = (member.unpack bytes limit).1 := by
  unfold take at taken
  generalize member.unpack bytes limit = result at taken
  -- What is read is what came out, or it is refused.
  obtain ⟨found, ending⟩ := result
  cases ending with
  | filled =>
    cases taken
    rfl
  | corrupt => cases taken
  | finished =>
    obtain ⟨_, same⟩ := Option.ite_none_right_eq_some.mp taken
    cases same
    rfl
  | truncated =>
    obtain ⟨_, same⟩ := Option.ite_none_right_eq_some.mp taken
    cases same
    rfl

/-- Reading a number of bytes that is a word gives the beginning of the whole contents. -/
theorem take_eq {count : Nat} (word : count < UInt64.size) :
    member.take bytes count = (member.unpacked bytes).take count := by
  -- One unpacking up to the greatest count serves for all smaller ones.
  have cut := member.unpack_eq bytes (Nat.le_of_lt word)
  unfold Unpacked.take unpacked
  dsimp only
  by_cases long : count ≤ (member.unpack bytes UInt64.size).1.size
  · rw [if_pos long] at cut ⊢
    -- There are more bytes than are asked for, so what came out fills the count and is not checked.
    unfold take
    rw [cut]
  · -- There are fewer bytes than either count, so both read the same and check it alike.
    rw [if_neg long] at cut ⊢
    have same : member.take bytes count = member.take bytes UInt64.size := by
      unfold take
      rw [cut]
    rw [same]
    cases taken : member.take bytes UInt64.size with
    | none => rfl
    | some out => rw [member.eq_of_take_eq_some bytes taken]; rfl

end Member

end ControlPlane.Archive
