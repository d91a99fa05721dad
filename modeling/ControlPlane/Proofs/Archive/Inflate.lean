import ControlPlane.Archive.Inflate

/-! Deflated data that are unpacked up to a limit: what comes out is the beginning of what comes out
under a greater limit. -/

namespace ControlPlane.Inflate

/-- Whether some bytes are the beginning of others. -/
def Begins (front whole : ByteArray) : Prop := ∃ tail, whole = front ++ tail

namespace Begins

theorem refl (bytes : ByteArray) : Begins bytes bytes :=
  ⟨.empty, ByteArray.append_empty.symm⟩

theorem trans {first second third : ByteArray} (one : Begins first second)
    (two : Begins second third) : Begins first third := by
  obtain ⟨tail, rfl⟩ := one
  obtain ⟨more, rfl⟩ := two
  exact ⟨tail ++ more, ByteArray.append_assoc⟩

theorem append (bytes more : ByteArray) : Begins bytes (bytes ++ more) := ⟨more, rfl⟩

theorem push (bytes : ByteArray) (value : UInt8) : Begins bytes (bytes.push value) := by
  -- One byte more is what an array of one byte adds.
  refine ⟨⟨#[value]⟩, ?_⟩
  ext1
  simp [ByteArray.data_push, ByteArray.data_append]

/-- A beginning is not longer than the whole. -/
theorem size_le {front whole : ByteArray} (begins : Begins front whole) :
    front.size ≤ whole.size := by
  -- What is behind the beginning makes the whole longer.
  obtain ⟨tail, rfl⟩ := begins
  rw [ByteArray.size_append]
  omega

/-- The first bytes of the whole are those of the beginning, as far as this goes. -/
theorem extract_eq {front whole : ByteArray} (begins : Begins front whole) {count : Nat}
    (among : count ≤ front.size) : whole.extract 0 count = front.extract 0 count := by
  obtain ⟨tail, rfl⟩ := begins
  -- Nothing of the tail is among the first bytes.
  rw [ByteArray.extract_append, Nat.zero_sub, Nat.sub_eq_zero_of_le among, ByteArray.extract_same,
    ByteArray.append_empty]

end Begins

/-- What is left of some bits when at least so many have been read: bits of the same data, and none
behind their end. -/
structure Behind (least : Nat) (bits left : Bits) : Prop where
  same : left.data = bits.data
  far : bits.position + least ≤ left.position
  inside : bits.position ≤ bits.data.size * 8 → left.position ≤ bits.data.size * 8

namespace Behind

theorem refl (bits : Bits) : Behind 0 bits bits := ⟨rfl, Nat.le_refl _, id⟩

theorem trans {one two : Nat} {first second third : Bits} (here : Behind one first second)
    (there : Behind two second third) : Behind (one + two) first third := by
  obtain ⟨same, far, inside⟩ := here
  obtain ⟨same', far', inside'⟩ := there
  -- The second reader works on the same data, so its bounds are those of the first.
  rw [same] at same' inside'
  exact ⟨same', by omega, fun start => inside' (inside start)⟩

/-- If some bits have been read, then none or more. -/
theorem any {least : Nat} {bits left : Bits} (behind : Behind least bits left) :
    Behind 0 bits left :=
  ⟨behind.same, Nat.le_trans (Nat.le_add_right _ _) behind.far, behind.inside⟩

/-- What is left begins inside the data if the bits do. -/
theorem start {least : Nat} {bits left : Bits} (behind : Behind least bits left)
    (start : bits.position ≤ bits.data.size * 8) : left.position ≤ left.data.size * 8 := by
  rw [behind.same]
  exact behind.inside start

/-- Fuel that is enough for the bits is so for what is left, with one less for each bit read. -/
theorem enough {least fuel : Nat} {bits left : Bits} (behind : Behind least bits left)
    (enough : bits.data.size * 8 < bits.position + (fuel + least)) :
    left.data.size * 8 < left.position + fuel := by
  have far := behind.far
  rw [behind.same]
  omega

end Behind

/-- Whether a reader that succeeds has read at least so many bits. -/
def Reads {α : Type} (least : Nat) (reader : Reader α) : Prop :=
  ∀ bits value left, reader bits = .ok (value, left) → Behind least bits left

section Reads

variable {α β : Type}

theorem reads_pure (value : α) : Reads 0 (pure value : Reader α) := by
  intro bits found left success
  cases success
  exact .refl bits

theorem reads_stop (least : Nat) (ending : Ending) : Reads least (stop ending : Reader α) := by
  intro bits found left success
  cases success

/-- Two readers one after the other read what both read. -/
theorem Reads.both {least more : Nat} {reader : Reader α} {next : α → Reader β}
    (one : Reads least reader) (two : ∀ value, Reads more (next value)) :
    Reads (least + more) (reader >>= next) := by
  -- If both succeed together, each has succeeded, and the bits between them join what they have
  -- read.
  intro bits found left success
  -- Both readers succeed if the two together do.
  have split : ∃ value between, reader bits = .ok (value, between) ∧
      next value between = .ok (found, left) := by
    cases outcome : reader bits with
    | error ending =>
      simp only [Bind.bind, StateT.bind, Except.bind, outcome] at success
      cases success
    | ok pair =>
      simp only [Bind.bind, StateT.bind, Except.bind, outcome] at success
      exact ⟨pair.1, pair.2, rfl, success⟩
  obtain ⟨value, between, here, later⟩ := split
  exact (one _ _ _ here).trans (two value _ _ _ later)

/-- A reader that reads some bits reads none or more. -/
theorem Reads.any {least : Nat} {reader : Reader α} (reads : Reads least reader) :
    Reads 0 reader :=
  fun bits value left success => (reads bits value left success).any

/-- What a reader reads is not given back by the one after it. -/
theorem Reads.bind {least : Nat} {reader : Reader α} {next : α → Reader β}
    (one : Reads least reader) (two : ∀ value, Reads 0 (next value)) :
    Reads least (reader >>= next) :=
  one.both two

theorem reads_bit : Reads 1 bit := by
  -- A bit that is read is behind the position and before the end of the data.
  intro bits value left success
  unfold bit at success
  split at success
  · cases success
  · rename_i b found
    cases success
    refine ⟨rfl, Nat.le_refl _, fun _ => ?_⟩
    -- The byte of the bit is one of the data.
    have inside : bits.position / 8 < bits.data.size :=
      Decidable.byContradiction fun outside => by
        rw [getElem?_neg bits.data _ outside] at found
        cases found
    show bits.position + 1 ≤ _
    omega

theorem reads_number (width : Nat) : Reads width (number width) := by
  -- One bit for each place, the lowest first.
  induction width with
  | zero => exact reads_pure 0
  | succ width ih =>
    have both : Reads (1 + width) (number (width + 1)) :=
      reads_bit.both fun low => ih.bind fun high => reads_pure _
    rwa [Nat.add_comm 1 width] at both

theorem reads_align : Reads 0 align := by
  -- The position goes up to the next whole byte, which is still inside the data.
  intro bits value left success
  cases success
  refine ⟨rfl, ?_, fun inside => ?_⟩
  · show bits.position + 0 ≤ (bits.position + 7) / 8 * 8
    omega
  · show (bits.position + 7) / 8 * 8 ≤ _
    omega

/-- A word has at least one bit. -/
theorem reads_wordOf (symbols : Array Nat) (counts : List Nat) (word first index : Nat) :
    Reads 1 (wordOf symbols counts word first index) := by
  -- The counts are those of the lengths of words, and each length costs one more bit.
  induction counts generalizing word first index with
  | nil => exact reads_stop 1 _
  | cons count counts ih =>
    unfold wordOf
    refine reads_bit.bind fun low => ?_
    dsimp only
    split
    · -- The word ends at this length, and one bit has been read for it.
      exact reads_pure _
    · exact (ih _ _ _).any

theorem reads_symbol (code : Code) : Reads 1 code.symbol := reads_wordOf _ _ _ _ _

theorem reads_stepped (steps : Array (Nat × Nat)) (symbol : Nat) :
    Reads 0 (stepped steps symbol) := by
  -- A symbol stands for a number to which some bits may be added.
  unfold stepped
  split
  · exact reads_stop 0 _
  · exact (reads_number _).any.bind fun more => reads_pure _

/-- An item takes at least one bit. -/
theorem reads_item (literals distances : Code) : Reads 1 (item literals distances) := by
  -- The symbol says which kind of item it is, and it alone takes a bit.
  unfold item
  refine (reads_symbol _).bind fun symbol => ?_
  split
  · exact reads_pure _
  · split
    · exact reads_pure _
    · -- A repetition has two more parts, each with its own bits.
      refine (reads_stepped _ _).bind fun length => (reads_symbol _).any.bind fun symbol => ?_
      exact (reads_stepped _ _).bind fun distance => reads_pure _

theorem reads_codeOf (lengths : List Nat) : Reads 0 (codeOf lengths) := by
  unfold codeOf
  split
  · exact reads_pure _
  · exact reads_stop 0 _

theorem reads_lengths (code : Code) (count fuel : Nat) (newest : List Nat) :
    Reads 0 (lengths code count fuel newest) := by
  -- The branches are those of the symbols: a length, or one of three kinds of runs.
  induction fuel generalizing newest with
  | zero =>
    unfold lengths
    split
    · exact reads_pure _
    · exact reads_stop 0 _
  | succ fuel ih =>
    unfold lengths
    split
    · exact reads_pure _
    · split
      · exact reads_stop 0 _
      · refine (reads_symbol _).any.bind fun symbol => ?_
        split
        · exact ih _
        · split
          · split
            · exact reads_stop 0 _
            · exact (reads_number _).any.bind fun more => ih _
          · split
            · exact (reads_number _).any.bind fun more => ih _
            · exact (reads_number _).any.bind fun more => ih _

theorem reads_mapM (widths : List Nat) : Reads 0 (widths.mapM number) := by
  -- The widths are read one after the other, and none need take a bit.
  induction widths with
  | nil => exact reads_pure _
  | cons width rest ih =>
    rw [List.mapM_cons]
    exact (reads_number width).any.bind fun value => ih.bind fun values => reads_pure _

theorem reads_ownCodes : Reads 0 ownCodes := by
  -- Three numbers, then the lengths of the code that the other lengths are in, then those.
  unfold ownCodes
  refine (reads_number 5).any.bind fun literals => (reads_number 5).any.bind fun distances =>
    (reads_number 4).any.bind fun widths => ?_
  dsimp only
  split
  · exact reads_stop 0 _
  · refine (reads_mapM _).bind fun given => (reads_codeOf _).bind fun code => ?_
    refine (reads_lengths _ _ _ _).bind fun newest => (reads_codeOf _).bind fun literals => ?_
    exact (reads_codeOf _).bind fun distances => reads_pure _

theorem reads_codes (kind : Nat) : Reads 0 (codes kind) := by
  -- The cases are the kinds of blocks that have codes: fixed ones, their own, or none that is
  -- known.
  unfold codes
  split
  · exact (reads_codeOf _).bind fun literals => (reads_codeOf _).bind fun distances => reads_pure _
  · exact reads_ownCodes
  · exact reads_stop 0 _

/-- The length of a stored block takes more than a byte. -/
theorem reads_storedLength : Reads 16 storedLength := by
  unfold storedLength
  -- The first of the two numbers is enough for what is needed below.
  show Reads (0 + 16) _
  refine reads_align.both fun _ => (reads_number 16).bind fun length =>
    (reads_number 16).any.bind fun complement => ?_
  split
  · exact reads_pure _
  · exact reads_stop 0 _

/-- The head of a block takes at least one bit. -/
theorem reads_blockHead : Reads 1 blockHead := by
  unfold blockHead
  exact reads_bit.bind fun last => (reads_number 2).any.bind fun kind => reads_pure _

end Reads

/-- A repetition is added behind what came before. -/
theorem begins_copyBack (distance length : Nat) (out : ByteArray) :
    Begins out (copyBack distance length out) := by
  -- Each byte is copied behind the ones that are copied before it.
  induction length generalizing out with
  | zero => exact .refl out
  | succ length ih => exact (Begins.push out _).trans (ih _)

/-- The items of a block are added behind what came before. -/
theorem begins_blockItems (limit : Nat) (literals distances : Code) (fuel : Nat) (bits : Bits)
    (out : ByteArray) : Begins out (blockItems limit literals distances fuel bits out).1 := by
  -- What is added for an item is a byte or a repetition, and the rest comes behind it.
  induction fuel generalizing bits out with
  | zero => exact .refl out
  | succ fuel ih =>
    unfold blockItems
    split
    · exact .refl out
    · split
      · exact .refl out
      · exact (Begins.push out _).trans (ih _ _)
      · exact .refl out
      · -- A distance that leads before the first byte ends the block without adding anything.
        split
        · exact .refl out
        · exact (begins_copyBack _ _ out).trans (ih _ _)

/-- A stored block is added behind what came before. -/
theorem begins_storedBlock (limit : Nat) (bits : Bits) (out : ByteArray) :
    Begins out (storedBlock limit bits out).1 := by
  unfold storedBlock
  split
  · exact .refl out
  · -- Whatever ends the block, its bytes are there.
    dsimp only
    split
    · exact .append out _
    · split
      · exact .append out _
      · exact .append out _

theorem begins_block (limit kind : Nat) (bits : Bits) (out : ByteArray) :
    Begins out (block limit kind bits out).1 := by
  -- The kind says whether there are codes; without them, nothing is added.
  unfold block
  split
  · exact begins_storedBlock limit bits out
  · split
    · exact .refl out
    · exact begins_blockItems _ _ _ _ _ out

theorem begins_blocks (limit fuel : Nat) (bits : Bits) (out : ByteArray) :
    Begins out (blocks limit fuel bits out).1 := by
  -- Each block adds to what is there when its turn comes.
  induction fuel generalizing bits out with
  | zero => exact .refl out
  | succ fuel ih =>
    unfold blocks
    split
    · exact .refl out
    · split
      · exact .refl out
      · rename_i last kind left _
        have here := begins_block limit kind left out
        split
        · -- What ends inside the block has its bytes and no others.
          rename_i added _ outcome
          rw [outcome] at here
          exact here
        · rename_i added _ outcome
          rw [outcome] at here
          -- A block that is not the last is followed by the others.
          split
          · exact here
          · exact here.trans (ih _ _)

/-- A block that ends leaves what lies behind it. -/
theorem behind_blockItems {limit : Nat} {literals distances : Code} {fuel : Nat} {bits left : Bits}
    {out : ByteArray}
    (done : (blockItems limit literals distances fuel bits out).2 = .ok left) :
    Behind 0 bits left := by
  induction fuel generalizing bits out with
  | zero => cases done
  | succ fuel ih =>
    unfold blockItems at done
    -- A block ends at its end mark only; every other item is followed by more of them.
    split at done
    · cases done
    · split at done
      · cases done
      · rename_i read
        exact (reads_item _ _ _ _ _ read).any.trans (ih done)
      · rename_i read
        cases done
        exact (reads_item _ _ _ _ _ read).any
      · rename_i read
        split at done
        · cases done
        · exact (reads_item _ _ _ _ _ read).any.trans (ih done)

theorem behind_storedBlock {limit : Nat} {bits left : Bits} {out : ByteArray}
    (done : (storedBlock limit bits out).2 = .ok left) : Behind 0 bits left := by
  -- A block is left behind only if its length is sound and its bytes are all there.
  unfold storedBlock at done
  split at done
  · cases done
  · rename_i length between read
    dsimp only at done
    split at done
    · cases done
    · split at done
      · cases done
      · -- The length takes more than what is skipped to begin at a whole byte.
        rename_i room whole
        cases done
        obtain ⟨same, far, inside⟩ := reads_storedLength _ _ _ read
        rw [same] at whole
        refine ⟨same, ?_, fun _ => ?_⟩
        · show bits.position ≤ (between.position / 8 + length) * 8
          omega
        · show (between.position / 8 + length) * 8 ≤ bits.data.size * 8
          omega

theorem behind_block {limit kind : Nat} {bits left : Bits} {out : ByteArray}
    (done : (block limit kind bits out).2 = .ok left) : Behind 0 bits left := by
  -- The codes stand before the items, and both are read forward.
  unfold block at done
  split at done
  · exact behind_storedBlock done
  · split at done
    · cases done
    · rename_i read
      exact (reads_codes kind _ _ _ read).trans (behind_blockItems done)

/-- What comes out under a limit of what comes out under a greater one: the same if that is less
than the limit, and else a beginning of it that fills the limit. -/
inductive Cuts {ρ : Type} (limit : Nat) (filled : ρ) : (whole part : ByteArray × ρ) → Prop
  | same {out : ByteArray} {result : ρ} : out.size < limit →
      Cuts limit filled (out, result) (out, result)
  | full {whole part : ByteArray} {result : ρ} : limit ≤ part.size → Begins part whole →
      Cuts limit filled (whole, result) (part, filled)

/-- What fills the limit cuts everything that begins with it. -/
theorem Cuts.of_begins {ρ : Type} {limit : Nat} {filled : ρ} {whole : ByteArray × ρ}
    {part : ByteArray} (full : limit ≤ part.size) (begins : Begins part whole.1) :
    Cuts limit filled whole (part, filled) := .full full begins

section Cuts

variable {limit more : Nat} (less : limit ≤ more)
include less

/-- A smaller limit cuts the items of a block. -/
theorem cuts_blockItems (literals distances : Code) {fuel : Nat} {bits : Bits} {out : ByteArray}
    (start : bits.position ≤ bits.data.size * 8)
    (enough : bits.data.size * 8 < bits.position + fuel) :
    Cuts limit (.error .filled) (blockItems more literals distances fuel bits out)
      (blockItems limit literals distances fuel bits out) := by
  -- The fuel does not run out, as each item takes a bit of the data.
  induction fuel generalizing bits out with
  | zero => omega
  | succ fuel ih =>
    by_cases full : limit ≤ out.size
    · -- The limit is reached here, and what came before stays.
      have part : blockItems limit literals distances (fuel + 1) bits out = (out, .error .filled) := by
        rw [blockItems, if_pos full]
      rw [part]
      exact .of_begins full (begins_blockItems _ _ _ _ _ _)
    · -- There is room under both limits, so both go on alike.
      have room : ¬more ≤ out.size := by omega
      have small : out.size < limit := by omega
      rw [blockItems, blockItems, if_neg full, if_neg room]
      cases read : item literals distances bits with
      | error ending => exact .same small
      | ok pair =>
        obtain ⟨found, left⟩ := pair
        have behind := reads_item _ _ _ _ _ read
        have start' := behind.start start
        have enough' := behind.enough enough
        cases found with
        | byte value => exact ih start' enough'
        | blockEnd => exact .same small
        | repetition length distance =>
          dsimp only
          split
          · -- A distance that leads nowhere ends both alike.
            exact .same small
          · exact ih start' enough'

/-- A smaller limit cuts a stored block. -/
theorem cuts_storedBlock (bits : Bits) {out : ByteArray} (room : out.size < limit) :
    Cuts limit (.error .filled) (storedBlock more bits out) (storedBlock limit bits out) := by
  -- Both limits are compared only once the bytes of the block are added.
  unfold storedBlock
  cases read : storedLength bits with
  | error ending => exact .same room
  | ok pair =>
    obtain ⟨length, left⟩ := pair
    dsimp only
    generalize out ++ _ = added
    by_cases full : limit ≤ added.size
    · -- The block is added as a whole, whatever ends it under the greater limit.
      rw [if_pos full]
      split
      · exact .full full (.refl added)
      · split
        · exact .full full (.refl added)
        · exact .full full (.refl added)
    · -- Neither limit is reached, so the two differ in nothing.
      rw [if_neg full, if_neg (by omega)]
      split
      · exact .same (by omega)
      · exact .same (by omega)

/-- A smaller limit cuts a block. -/
theorem cuts_block (kind : Nat) {bits : Bits} {out : ByteArray}
    (start : bits.position ≤ bits.data.size * 8) (room : out.size < limit) :
    Cuts limit (.error .filled) (block more kind bits out) (block limit kind bits out) := by
  unfold block
  -- The codes do not depend on the limit, and the items are cut.
  split
  · exact cuts_storedBlock less bits room
  · cases read : codes kind bits with
    | error ending => exact .same room
    | ok pair =>
      obtain ⟨⟨literals, distances⟩, left⟩ := pair
      exact cuts_blockItems less literals distances ((reads_codes kind _ _ _ read).start start)
        (by omega)

/-- A smaller limit cuts the blocks. -/
theorem cuts_blocks {fuel : Nat} {bits : Bits} {out : ByteArray}
    (start : bits.position ≤ bits.data.size * 8)
    (enough : bits.data.size * 8 < bits.position + fuel) :
    Cuts limit .filled (blocks more fuel bits out) (blocks limit fuel bits out) := by
  -- The fuel does not run out, as the head of each block takes a bit of the data.
  induction fuel generalizing bits out with
  | zero => omega
  | succ fuel ih =>
    by_cases full : limit ≤ out.size
    · have part : blocks limit (fuel + 1) bits out = (out, .filled) := by
        rw [blocks, if_pos full]
      rw [part]
      -- The limit is reached before the block, and under a greater one more may follow.
      exact .of_begins full (begins_blocks _ _ _ _)
    · have room : ¬more ≤ out.size := by omega
      have small : out.size < limit := by omega
      rw [blocks, blocks, if_neg full, if_neg room]
      cases read : blockHead bits with
      | error ending => exact .same small
      | ok pair =>
        obtain ⟨⟨last, kind⟩, left⟩ := pair
        have head := reads_blockHead _ _ _ read
        have start' := head.start start
        have enough' := head.enough enough
        -- The block itself is cut as well, and where it ends the next one begins.
        have cut := cuts_block less kind start' small
        have behind : ∀ next, (block more kind left out).2 = .ok next → Behind 0 left next :=
          fun next done => behind_block done
        dsimp only
        generalize block more kind left out = whole, block limit kind left out = part at cut behind
        cases cut with
        | @same added result fits =>
          -- The block ends alike, so the next one begins alike.
          cases result with
          | error ending => exact .same fits
          | ok next =>
            dsimp only
            split
            · exact .same fits
            · exact ih ((behind next rfl).start start') ((behind next rfl).enough enough')
        | @full whole part result filled begins =>
          -- The limit is reached inside the block, and all other blocks come behind it.
          cases result with
          | error ending => exact .full filled begins
          | ok next =>
            dsimp only
            split
            · exact .full filled begins
            · exact .full filled (begins.trans (begins_blocks _ _ _ _))

end Cuts

/-- The first bytes are all bytes if there are not more. -/
theorem extract_of_size_le {bytes : ByteArray} {count : Nat} (fits : bytes.size ≤ count) :
    bytes.extract 0 count = bytes := by
  -- The library has this for a count written as a greatest of two.
  rw [← Nat.max_eq_left fits]
  exact ByteArray.extract_zero_max_size

/-- Data that are inflated up to a limit: what comes out under a greater one, cut at the limit if
there is so much of it. -/
theorem inflate_eq {limit more : Nat} (less : limit ≤ more) (data : ByteArray) :
    inflate limit data =
      if limit ≤ (inflate more data).1.size then ((inflate more data).1.extract 0 limit, .filled)
      else inflate more data := by
  -- There is fuel for one block more than the data have bits.
  have enough : data.size * 8 < 0 + (data.size * 8 + 1) := by omega
  have cut : Cuts limit .filled (blocks more (data.size * 8 + 1) ⟨data, 0⟩ .empty)
      (blocks limit (data.size * 8 + 1) ⟨data, 0⟩ .empty) :=
    cuts_blocks less (Nat.zero_le _) enough
  -- The two results are cut apart from their limits, so that the cases of the cut replace them.
  unfold inflate
  dsimp only
  generalize blocks more _ _ _ = whole, blocks limit _ _ _ = part at cut
  cases cut with
  | @same out result fits =>
    -- There is less than the limit, so neither count cuts anything.
    have whole : out.extract 0 more = out := extract_of_size_le (by omega)
    have part : out.extract 0 limit = out := extract_of_size_le (by omega)
    show (out.extract 0 limit, result) =
      if limit ≤ (out.extract 0 more).size then _ else (out.extract 0 more, result)
    rw [whole, part]
    exact (if_neg (by omega)).symm
  | @full whole part result filled begins =>
    -- The limit is filled, and the first bytes of the whole are those of its beginning.
    have size := begins.size_le
    have long : limit ≤ (whole.extract 0 more).size := by
      rw [ByteArray.size_extract]
      omega
    rw [if_pos long, ByteArray.extract_extract, ← begins.extract_eq filled]
    congr 2
    omega

end ControlPlane.Inflate
