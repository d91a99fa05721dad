import ControlPlane.Proofs.Text.Utf8
import ControlPlane.Wire.Proto

/-! Messages are read back from their written form: first their fields, and then what a field holds.

What is left out of a message is read as zero, as the empty text, or as the message without
fields. -/

namespace ControlPlane.Proto

/-- The number at the beginning of some bytes, and what follows it. -/
def readVarint? : List UInt8 → Option (Nat × List UInt8)
  | [] => none
  | byte :: rest =>
    if byte.toNat < 128 then some (byte.toNat, rest)
    else (readVarint? rest).map fun (high, left) => (byte.toNat - 128 + 128 * high, left)

/-- The field at the beginning of some bytes, and what follows it. -/
def readField? (bytes : List UInt8) : Option (Field × List UInt8) := do
  let (key, rest) ← readVarint? bytes
  let (value, left) ← readVarint? rest
  match key % 8 with
  | 0 => some (.number (key / 8) value, left)
  | 2 =>
    if value ≤ left.length then some (.bytes (key / 8) (left.take value), left.drop value)
    else none
  | _ => none

/-- The fields that some bytes consist of, if they are no more than a number of fields. -/
def readFields? : Nat → List UInt8 → Option Message
  | _, [] => some []
  | 0, _ :: _ => none
  | most + 1, byte :: rest => do
    let (field, left) ← readField? (byte :: rest)
    let fields ← readFields? most left
    return field :: fields

/-- The message that some bytes are the written form of; each of its fields takes a byte at
least. -/
def readMessage? (bytes : List UInt8) : Option Message := readFields? bytes.length bytes

/-- A byte that is small enough is the number that it was made of. -/
theorem toNat_toUInt8 {n : Nat} (small : n < 256) : n.toUInt8.toNat = n := by
  -- Making a byte keeps the remainder, which is the number itself.
  simp only [Nat.toUInt8, UInt8.toNat_ofNat']
  omega

/-- A number is read back, whatever follows it. -/
@[simp] theorem readVarint?_varint (n : Nat) (rest : List UInt8) :
    readVarint? (varint n ++ rest) = some (n, rest) := by
  -- The induction is on the groups of seven bits.
  induction n using varint.induct with
  | case1 n small =>
    -- The last group is one byte without a mark.
    have byte : n.toUInt8.toNat = n := toNat_toUInt8 (by omega)
    rw [varint, if_pos small]
    simp [readVarint?, byte, small]
  | case2 n large ih =>
    -- Any other group carries the mark, and the groups above it are read back first.
    have byte : (n % 128 + 128).toUInt8.toNat = n % 128 + 128 := toNat_toUInt8 (by omega)
    have marked : ¬ n % 128 + 128 < 128 := by omega
    have whole : n % 128 + 128 - 128 + 128 * (n / 128) = n := by omega
    rw [varint, if_neg large, List.cons_append, readVarint?, byte, if_neg marked, ih]
    simp only [Option.map_some, whole]

/-- A field is read back, whatever follows it. -/
@[simp] theorem readField?_encode (field : Field) (rest : List UInt8) :
    readField? (field.encode ++ rest) = some (field, rest) := by
  -- The key holds the number of the field and three bits for its kind.
  cases field with
  | number tag value =>
    have kind : tag * 8 % 8 = 0 := by omega
    have own : tag * 8 / 8 = tag := by omega
    simp [readField?, Field.encode, kind, own]
  | bytes tag value =>
    have kind : (tag * 8 + 2) % 8 = 2 := by omega
    have own : (tag * 8 + 2) / 8 = tag := by omega
    simp [readField?, Field.encode, kind, own]

/-- A number takes a byte at least. -/
theorem varint_ne_nil (n : Nat) : varint n ≠ [] := by
  -- Either way the first group is a byte.
  rw [varint]
  split
  · simp
  · simp

/-- A field takes a byte at least. -/
theorem encode_ne_nil (field : Field) : field.encode ≠ [] := by
  -- A field begins with its key, which is a number.
  cases field with
  | number tag value => simp [Field.encode, varint_ne_nil]
  | bytes tag value => simp [Field.encode, varint_ne_nil]

/-- A message has no more fields than bytes. -/
theorem length_le_encode (m : Message) : m.length ≤ (Message.encode m).length := by
  -- The induction is on the fields, each of which adds a byte at least.
  induction m with
  | nil => exact Nat.zero_le _
  | cons field rest ih =>
    have some : 0 < field.encode.length := List.length_pos_iff.mpr (encode_ne_nil field)
    simp only [Message.encode, List.flatMap_cons, List.length_append, List.length_cons] at ih ⊢
    omega

/-- The fields of a message are read back, if as many are allowed. -/
theorem readFields?_encode {most : Nat} {m : Message} (enough : m.length ≤ most) :
    readFields? most (Message.encode m) = some m := by
  -- The induction is on the fields, with any greater number of them allowed.
  induction m generalizing most with
  | nil => cases most <;> rfl
  | cons field rest ih =>
    cases most with
    | zero => cases enough
    | succ most =>
      -- The first field is read in front of the others.
      have read := readField?_encode field (Message.encode rest)
      have written : Message.encode (field :: rest) = field.encode ++ Message.encode rest :=
        List.flatMap_cons ..
      -- The first byte belongs to the first field.
      cases bytes : Message.encode (field :: rest) with
      | nil => exact absurd (written.symm.trans bytes) (by simp [encode_ne_nil])
      | cons byte left =>
        rw [← written, bytes] at read
        simp [readFields?, read, ih (Nat.le_of_succ_le_succ enough)]

/-- A message is read back from its written form. -/
@[simp] theorem readMessage?_encode (m : Message) :
    readMessage? (Message.encode m) = some m :=
  readFields?_encode (length_le_encode m)

/-- The text that some bytes are the written form of. -/
def textOf (bytes : List UInt8) : String := (String.fromUTF8? ⟨bytes.toArray⟩).getD ""

/-- A text is read back from its written form. -/
@[simp] theorem textOf_toByteArray (value : String) : textOf value.toByteArray.toList = value := by
  simp [textOf]

/-- The number of a field. -/
def Field.tag : Field → Nat
  | .number tag _ => tag
  | .bytes tag _ => tag

/-- The fields of a message with a number, in their order. -/
def Message.fields (message : Message) (tag : Nat) : Message :=
  message.filter fun field => field.tag = tag

variable {tag other : Nat}

/-- The fields of two messages, one after the other, are those of the first and of the second. -/
@[simp] theorem fields_append (first second : Message) :
    Message.fields (first ++ second) tag =
      Message.fields first tag ++ Message.fields second tag :=
  List.filter_append ..

/-- Fields that all have one number are those of that number. -/
theorem fields_of_tag {m : Message} (all : ∀ field ∈ m, field.tag = other) :
    Message.fields m tag = if other = tag then m else [] := by
  -- Either all fields are kept, or none is.
  by_cases same : other = tag
  · rw [if_pos same]
    exact List.filter_eq_self.mpr fun field member => by simp [all field member, same]
  · rw [if_neg same]
    exact List.filter_eq_nil_iff.mpr fun field member => by simp [all field member, same]

/-- A message inside another is one field. -/
@[simp] theorem fields_message (value : Message) :
    Message.fields (message other value) tag = if other = tag then message other value else [] :=
  fields_of_tag (by simp [message, Field.tag])

/-- A number that is always written is one field. -/
@[simp] theorem fields_numberAlways (value : Nat) :
    Message.fields (numberAlways other value) tag =
      if other = tag then numberAlways other value else [] :=
  fields_of_tag (by simp [numberAlways, Field.tag])

/-- A number is at most one field. -/
@[simp] theorem fields_number (value : Nat) :
    Message.fields (number other value) tag = if other = tag then number other value else [] := by
  -- A number other than zero is the one field there is.
  refine fields_of_tag fun field member => ?_
  unfold number at member
  split at member
  · cases member
  · cases List.mem_singleton.mp member
    rfl

/-- A text that is always written is one field. -/
@[simp] theorem fields_textAlways (value : String) :
    Message.fields (textAlways other value) tag =
      if other = tag then textAlways other value else [] :=
  fields_of_tag (by simp [textAlways, Field.tag])

/-- A text is at most one field. -/
@[simp] theorem fields_text (value : String) :
    Message.fields (text other value) tag = if other = tag then text other value else [] := by
  -- A text that is not empty is the one field there is.
  refine fields_of_tag fun field member => ?_
  unfold text at member
  split at member
  · cases member
  · cases List.mem_singleton.mp member
    rfl

/-- Messages inside another under one number are the fields of that number. -/
@[simp] theorem fields_messages {α : Type} (values : List α) (f : α → Message) :
    Message.fields (values.flatMap fun value => message other (f value)) tag =
      if other = tag then values.flatMap fun value => message other (f value) else [] := by
  -- Every field comes from one of the messages, under the number that they share.
  refine fields_of_tag fun field member => ?_
  obtain ⟨value, _, only⟩ := List.mem_flatMap.mp member
  cases List.mem_singleton.mp only
  rfl

/-- Texts under one number are the fields of that number. -/
@[simp] theorem fields_texts (values : List String) :
    Message.fields (values.flatMap (textAlways other)) tag =
      if other = tag then values.flatMap (textAlways other) else [] := by
  -- Every field comes from one of the texts, under the number that they share.
  refine fields_of_tag fun field member => ?_
  obtain ⟨value, _, only⟩ := List.mem_flatMap.mp member
  cases List.mem_singleton.mp only
  rfl

/-- The counted bytes of a field. -/
def Field.bytes? : Field → Option (List UInt8)
  | .bytes _ value => some value
  | .number _ _ => none

/-- The message that some bytes are the written form of, or the one without fields. -/
def messageOf (bytes : List UInt8) : Message := (readMessage? bytes).getD []

/-- A message is read back as it was written. -/
-- Reading succeeds, so nothing stands in for the message.
@[simp] theorem messageOf_encode (m : Message) : messageOf (Message.encode m) = m := by
  simp [messageOf]

/-- The number that fields hold; the last one counts, and there may be none. -/
def numberIn (fields : Message) : Nat :=
  match fields.getLast? with
  | some (.number _ value) => value
  | _ => 0

/-- The texts that fields hold. -/
def textsIn (fields : Message) : List String := (fields.filterMap Field.bytes?).map textOf

/-- The messages that fields hold. -/
def messagesIn (fields : Message) : List Message := (fields.filterMap Field.bytes?).map messageOf

/-- A number is held by its field. -/
@[simp] theorem numberIn_numberAlways (value : Nat) :
    numberIn (numberAlways tag value) = value := rfl

/-- A number is held by its field, and zero by none. -/
@[simp] theorem numberIn_number (value : Nat) : numberIn (number tag value) = value := by
  -- Zero is not written, and it is what is read where nothing stands.
  unfold number
  split
  · rename_i zero
    exact zero.symm
  · rfl

/-- No fields hold no text. -/
@[simp] theorem textsIn_nil : textsIn [] = [] := rfl

/-- A text is held by its field. -/
@[simp] theorem textsIn_textAlways (value : String) : textsIn (textAlways tag value) = [value] := by
  -- The one field holds the bytes of the text.
  simp [textsIn, textAlways, Field.bytes?]

/-- A text is held by its field, and the empty text by none. -/
@[simp] theorem textsIn_text (value : String) :
    textsIn (text tag value) = if value = "" then [] else [value] := by
  -- The empty text is not written.
  unfold text
  by_cases empty : value = "" <;> simp [empty]

/-- Texts are held by their fields. -/
@[simp] theorem textsIn_flatMap (values : List String) :
    textsIn (values.flatMap (textAlways tag)) = values := by
  -- The induction is on the texts, as the first one has the first field.
  induction values with
  | nil => rfl
  | cons value rest ih =>
    rw [List.flatMap_cons]
    simp only [textsIn, List.filterMap_append, List.map_append] at ih ⊢
    rw [ih]
    simp [textAlways, Field.bytes?]

/-- No fields hold no message. -/
@[simp] theorem messagesIn_nil : messagesIn [] = [] := rfl

/-- A message is held by its field. -/
@[simp] theorem messagesIn_message (m : Message) : messagesIn (message tag m) = [m] := by
  simp [messagesIn, message, Field.bytes?]

/-- Messages are held by their fields. -/
@[simp] theorem messagesIn_flatMap {α : Type} (values : List α) (f : α → Message) :
    messagesIn (values.flatMap fun value => message tag (f value)) = values.map f := by
  -- The induction is on the messages, as the first one has the first field.
  induction values with
  | nil => rfl
  | cons value rest ih =>
    rw [List.flatMap_cons, List.map_cons]
    simp only [messagesIn, List.filterMap_append, List.map_append] at ih ⊢
    rw [ih]
    simp [message, Field.bytes?]

namespace Message

/-- The number under a number. -/
@[simp] def numberAt (m : Message) (tag : Nat) : Nat := numberIn (m.fields tag)

/-- The texts under a number. -/
@[simp] def textsAt (m : Message) (tag : Nat) : List String := textsIn (m.fields tag)

/-- The text under a number, unless it is left out. -/
@[simp] def text? (m : Message) (tag : Nat) : Option String := (m.textsAt tag).getLast?

/-- The text under a number. -/
@[simp] def textAt (m : Message) (tag : Nat) : String := (m.text? tag).getD ""

/-- The messages under a number. -/
@[simp] def innersAt (m : Message) (tag : Nat) : List Message := messagesIn (m.fields tag)

/-- The message under a number, unless it is left out. -/
@[simp] def inner? (m : Message) (tag : Nat) : Option Message := (m.innersAt tag).getLast?

/-- The message under a number. -/
@[simp] def inner (m : Message) (tag : Nat) : Message := (m.inner? tag).getD []

end Message

/-- A text is read back also if it is left out for being empty. -/
@[simp] theorem getLast?_text_getD (value : String) :
    (if value = "" then [] else [value]).getLast?.getD "" = value := by
  -- The empty text is what is read where nothing stands.
  split
  · rename_i empty
    exact empty.symm
  · rfl

end ControlPlane.Proto
