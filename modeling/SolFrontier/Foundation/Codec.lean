import Mathlib.Data.Nat.Digits.Lemmas
import SolFrontier.Foundation.Bytes

/-! # Binary formats

A format writes a value as bytes and reads it back off the front of a byte
string. Its two laws are fields: reading undoes writing, and whatever reads
successfully was written by the same format. Formats compose like Borsh types
do: in sequence, as options, length-prefixed lists and tagged unions.
-/

namespace Foundation

/-- A prefix format for the values satisfying `valid`. -/
structure Codec (α : Type) where
  valid : α → Prop
  encode : α → List UInt8
  decode : List UInt8 → Option (α × List UInt8)
  decode_encode : ∀ {value} rest, valid value → decode (encode value ++ rest) = some (value, rest)
  encode_decode : ∀ {bytes value rest}, decode bytes = some (value, rest) →
    valid value ∧ bytes = encode value ++ rest

namespace Codec

variable {α β : Type}

/-- Encodings of valid values are uniquely readable, whatever follows them. -/
theorem encode_append_inj (codec : Codec α) {left right : α} {leftRest rightRest : List UInt8}
    (hleft : codec.valid left) (hright : codec.valid right)
    (heq : codec.encode left ++ leftRest = codec.encode right ++ rightRest) :
    left = right ∧ leftRest = rightRest := by
  have hread := codec.decode_encode leftRest hleft
  rw [heq, codec.decode_encode rightRest hright, Option.some.injEq, Prod.mk.injEq] at hread
  exact ⟨hread.1.symm, hread.2.symm⟩

theorem encode_inj (codec : Codec α) {left right : α} (hleft : codec.valid left)
    (hright : codec.valid right) (heq : codec.encode left = codec.encode right) :
    left = right := by
  have happend : codec.encode left ++ [] = codec.encode right ++ [] := by rw [heq]
  exact (codec.encode_append_inj hleft hright happend).1

/-- Transport a format along a change of representation. -/
def imap (codec : Codec α) (ofRep : α → β) (toRep : β → α)
    (hrep : ∀ rep, codec.valid rep → toRep (ofRep rep) = rep)
    (hvalue : ∀ value, ofRep (toRep value) = value) : Codec β where
  valid value := codec.valid (toRep value)
  encode value := codec.encode (toRep value)
  decode bytes := (codec.decode bytes).map fun read => (ofRep read.1, read.2)
  decode_encode rest hvalid := by
    rw [codec.decode_encode rest hvalid, Option.map_some, hvalue]
  encode_decode hdecode := by
    obtain ⟨⟨rep, rest⟩, hread, heq⟩ := Option.map_eq_some_iff.mp hdecode
    simp only [Prod.mk.injEq] at heq
    obtain ⟨rfl, rfl⟩ := heq
    obtain ⟨hvalid, hbytes⟩ := codec.encode_decode hread
    rw [hrep rep hvalid]
    exact ⟨hvalid, hbytes⟩

/-- One value after another. -/
def seq (left : Codec α) (right : Codec β) : Codec (α × β) where
  valid pair := left.valid pair.1 ∧ right.valid pair.2
  encode pair := left.encode pair.1 ++ right.encode pair.2
  decode bytes := do
    let (first, bytes) ← left.decode bytes
    let (second, bytes) ← right.decode bytes
    some ((first, second), bytes)
  decode_encode rest hvalid := by
    simp [List.append_assoc, left.decode_encode _ hvalid.1, right.decode_encode _ hvalid.2]
  encode_decode hdecode := by
    simp only [Option.bind_eq_bind, Option.bind_eq_some_iff, Option.some.injEq, Prod.mk.injEq,
      Prod.exists] at hdecode
    obtain ⟨first, middle, hfirst, second, final, hsecond, rfl, rfl⟩ := hdecode
    obtain ⟨hvalidFirst, rfl⟩ := left.encode_decode hfirst
    obtain ⟨hvalidSecond, rfl⟩ := right.encode_decode hsecond
    exact ⟨⟨hvalidFirst, hvalidSecond⟩, by rw [List.append_assoc]⟩

def byte : Codec UInt8 where
  valid _ := True
  encode value := [value]
  decode
    | [] => none
    | value :: rest => some (value, rest)
  decode_encode _ _ := rfl
  encode_decode {bytes value rest} hdecode := by
    cases bytes with
    | nil => simp at hdecode
    | cons head tail =>
        simp only [Option.some.injEq, Prod.mk.injEq] at hdecode
        obtain ⟨rfl, rfl⟩ := hdecode
        exact ⟨trivial, rfl⟩

/-- A fixed number of raw bytes. -/
def bytes (count : Nat) : Codec (Bytes count) where
  valid _ := True
  encode value := value.1
  decode input :=
    if h : count ≤ input.length then
      some (⟨input.take count, by simp [h]⟩, input.drop count)
    else none
  decode_encode {value} rest _ := by
    obtain ⟨list, rfl⟩ := value
    simp
  encode_decode {input value rest} hdecode := by
    split at hdecode
    · simp only [Option.some.injEq] at hdecode
      obtain ⟨rfl, rfl⟩ := hdecode
      exact ⟨trivial, by simp⟩
    · simp at hdecode

/-- A byte naming one of finitely many constants. -/
def constant (toByte : α → UInt8) (ofByte : UInt8 → Option α)
    (hto : ∀ value, ofByte (toByte value) = some value)
    (hof : ∀ tag value, ofByte tag = some value → toByte value = tag) : Codec α where
  valid _ := True
  encode value := [toByte value]
  decode
    | [] => none
    | tag :: rest => (ofByte tag).map fun value => (value, rest)
  decode_encode _ _ := by simp [hto]
  encode_decode {bytes value rest} hdecode := by
    cases bytes with
    | nil => simp at hdecode
    | cons tag tail =>
        simp only [Option.map_eq_some_iff, Prod.mk.injEq] at hdecode
        obtain ⟨read, hread, rfl, rfl⟩ := hdecode
        exact ⟨trivial, by simp [hof tag read hread]⟩

/-- A tagged union: the tag decides the format of the payload. -/
def union {payload : α → Type} (tag : Codec α) (body : (value : α) → Codec (payload value)) :
    Codec ((value : α) × payload value) where
  valid pair := tag.valid pair.1 ∧ (body pair.1).valid pair.2
  encode pair := tag.encode pair.1 ++ (body pair.1).encode pair.2
  decode bytes := do
    let (first, bytes) ← tag.decode bytes
    let (second, bytes) ← (body first).decode bytes
    some (⟨first, second⟩, bytes)
  decode_encode {pair} rest hvalid := by
    simp [List.append_assoc, tag.decode_encode _ hvalid.1, (body pair.1).decode_encode _ hvalid.2]
  encode_decode hdecode := by
    simp only [Option.bind_eq_bind, Option.bind_eq_some_iff, Option.some.injEq, Prod.mk.injEq,
      Prod.exists] at hdecode
    obtain ⟨first, middle, hfirst, second, final, hsecond, rfl, rfl⟩ := hdecode
    obtain ⟨hvalidFirst, rfl⟩ := tag.encode_decode hfirst
    obtain ⟨hvalidSecond, rfl⟩ := (body first).encode_decode hsecond
    exact ⟨⟨hvalidFirst, hvalidSecond⟩, by rw [List.append_assoc]⟩

/-- A tag byte, one for an option's value and zero for its absence. -/
def option (codec : Codec α) : Codec (Option α) where
  valid
    | none => True
    | some value => codec.valid value
  encode
    | none => [0]
    | some value => 1 :: codec.encode value
  decode
    | [] => none
    | tag :: rest =>
        if tag = 0 then some (none, rest)
        else if tag = 1 then (codec.decode rest).map fun read => (some read.1, read.2)
        else none
  decode_encode {value} rest hvalid := by
    cases value with
    | none => rfl
    | some value => simp [codec.decode_encode rest hvalid]
  encode_decode {bytes value rest} hdecode := by
    cases bytes with
    | nil => simp at hdecode
    | cons tag tail =>
        simp only at hdecode
        split at hdecode
        next htag =>
          simp only [Option.some.injEq, Prod.mk.injEq] at hdecode
          obtain ⟨rfl, rfl⟩ := hdecode
          exact ⟨trivial, by simp [htag]⟩
        next =>
          split at hdecode
          next htag =>
            obtain ⟨⟨read, final⟩, hread, heq⟩ := Option.map_eq_some_iff.mp hdecode
            simp only [Prod.mk.injEq] at heq
            obtain ⟨rfl, rfl⟩ := heq
            obtain ⟨hvalid, rfl⟩ := codec.encode_decode hread
            exact ⟨hvalid, by simp [htag]⟩
          next => simp at hdecode

/-! ## Little-endian integers -/

/-- The `width` low bytes of a number, least significant first. -/
def leBytes : Nat → Nat → List UInt8
  | 0, _ => []
  | width + 1, value => UInt8.ofNat value :: leBytes width (value / 256)

/-- The number little-endian bytes denote. -/
def ofLeBytes : List UInt8 → Nat
  | [] => 0
  | byte :: rest => byte.toNat + 256 * ofLeBytes rest

@[simp] theorem length_leBytes (width value : Nat) : (leBytes width value).length = width := by
  induction width generalizing value with
  | zero => rfl
  | succ width ih => simp [leBytes, ih]

theorem ofLeBytes_leBytes {width value : Nat} (hvalue : value < 256 ^ width) :
    ofLeBytes (leBytes width value) = value := by
  induction width generalizing value with
  | zero => simp only [pow_zero, Nat.lt_one_iff] at hvalue; simp [leBytes, ofLeBytes, hvalue]
  | succ width ih =>
      have hdiv : value / 256 < 256 ^ width := by
        rw [Nat.div_lt_iff_lt_mul (by norm_num), ← pow_succ]
        exact hvalue
      have hbyte : (UInt8.ofNat value).toNat = value % 256 := by simp
      rw [leBytes, ofLeBytes, ih hdiv, hbyte]
      omega

theorem ofLeBytes_lt (bytes : List UInt8) : ofLeBytes bytes < 256 ^ bytes.length := by
  induction bytes with
  | nil => simp [ofLeBytes]
  | cons byte rest ih =>
      have hbyte := byte.toNat_lt
      rw [ofLeBytes, List.length_cons, pow_succ]
      omega

theorem leBytes_ofLeBytes (bytes : List UInt8) :
    leBytes bytes.length (ofLeBytes bytes) = bytes := by
  induction bytes with
  | nil => rfl
  | cons byte rest ih =>
      have hbyte := byte.toNat_lt
      have hdiv : (byte.toNat + 256 * ofLeBytes rest) / 256 = ofLeBytes rest := by omega
      have hhead : UInt8.ofNat (byte.toNat + 256 * ofLeBytes rest) = byte := by
        apply UInt8.toNat_inj.mp
        rw [UInt8.toNat_ofNat']
        omega
      rw [List.length_cons, ofLeBytes, leBytes, hdiv, ih, hhead]

/-- A natural number in a fixed little-endian width. -/
def nat (width : Nat) : Codec Nat where
  valid value := value < 256 ^ width
  encode value := leBytes width value
  decode input :=
    if width ≤ input.length then some (ofLeBytes (input.take width), input.drop width) else none
  decode_encode {value} rest hvalid := by
    simp [ofLeBytes_leBytes hvalid]
  encode_decode {input value rest} hdecode := by
    split at hdecode
    next hwidth =>
      simp only [Option.some.injEq, Prod.mk.injEq] at hdecode
      obtain ⟨rfl, rfl⟩ := hdecode
      have hlength : (input.take width).length = width := by simp [hwidth]
      constructor
      · simpa only [hlength] using ofLeBytes_lt (input.take width)
      · have hbytes := leBytes_ofLeBytes (input.take width)
        rw [hlength] at hbytes
        rw [hbytes, List.take_append_drop]
    next => simp at hdecode

def u16 : Codec UInt16 :=
  (nat 2).imap UInt16.ofNat UInt16.toNat
    (fun _ hvalid => UInt16.toNat_ofNat_of_lt' hvalid) (fun _ => UInt16.ofNat_toNat)

def u32 : Codec UInt32 :=
  (nat 4).imap UInt32.ofNat UInt32.toNat
    (fun _ hvalid => UInt32.toNat_ofNat_of_lt' hvalid) (fun _ => UInt32.ofNat_toNat)

def u64 : Codec UInt64 :=
  (nat 8).imap UInt64.ofNat UInt64.toNat
    (fun _ hvalid => UInt64.toNat_ofNat_of_lt' hvalid) (fun _ => UInt64.ofNat_toNat)

/-- Two's complement, as its unsigned word. -/
def i32 : Codec Int32 :=
  u32.imap UInt32.toInt32 Int32.toUInt32 (fun _ _ => rfl) (fun _ => rfl)

def i64 : Codec Int64 :=
  u64.imap UInt64.toInt64 Int64.toUInt64 (fun _ _ => rfl) (fun _ => rfl)

theorem u16_valid (value : UInt16) : u16.valid value := value.toNat_lt

theorem u32_valid (value : UInt32) : u32.valid value := value.toNat_lt

theorem u64_valid (value : UInt64) : u64.valid value := value.toNat_lt

def bool : Codec Bool :=
  constant (fun value => if value then 1 else 0)
    (fun tag => if tag = 0 then some false else if tag = 1 then some true else none)
    (by decide) (by intro tag value; split_ifs <;> simp_all)

/-! ## Lists -/

/-- Read a known number of items. -/
def decodeItems (codec : Codec α) : Nat → List UInt8 → Option (List α × List UInt8)
  | 0, input => some ([], input)
  | count + 1, input => do
      let (item, input) ← codec.decode input
      let (items, input) ← decodeItems codec count input
      some (item :: items, input)

theorem decodeItems_encode (codec : Codec α) {items : List α}
    (hvalid : ∀ item ∈ items, codec.valid item) (rest : List UInt8) :
    decodeItems codec items.length (items.flatMap codec.encode ++ rest) = some (items, rest) := by
  induction items with
  | nil => rfl
  | cons item items ih =>
      simp [decodeItems, List.append_assoc, codec.decode_encode _ (hvalid item (by simp)),
        ih fun other hmem => hvalid other (by simp [hmem])]

theorem encode_decodeItems (codec : Codec α) {count : Nat} {input rest : List UInt8}
    {items : List α} (hdecode : decodeItems codec count input = some (items, rest)) :
    items.length = count ∧ (∀ item ∈ items, codec.valid item) ∧
      input = items.flatMap codec.encode ++ rest := by
  induction count generalizing input items with
  | zero =>
      simp only [decodeItems, Option.some.injEq, Prod.mk.injEq] at hdecode
      obtain ⟨rfl, rfl⟩ := hdecode
      simp
  | succ count ih =>
      simp only [decodeItems, Option.bind_eq_bind, Option.bind_eq_some_iff, Option.some.injEq,
        Prod.mk.injEq, Prod.exists] at hdecode
      obtain ⟨item, middle, hitem, tail, final, htail, rfl, rfl⟩ := hdecode
      obtain ⟨hvalid, rfl⟩ := codec.encode_decode hitem
      obtain ⟨hlength, hvalidTail, rfl⟩ := ih htail
      refine ⟨by simp [hlength], ?_, by simp [List.append_assoc]⟩
      intro other hmem
      rcases List.mem_cons.mp hmem with rfl | hother
      · exact hvalid
      · exact hvalidTail other hother

/-- A list behind its length. -/
def counted (length : Codec Nat) (codec : Codec α) : Codec (List α) where
  valid items := length.valid items.length ∧ ∀ item ∈ items, codec.valid item
  encode items := length.encode items.length ++ items.flatMap codec.encode
  decode input := do
    let (count, input) ← length.decode input
    decodeItems codec count input
  decode_encode {items} rest hvalid := by
    simp only [List.append_assoc, length.decode_encode _ hvalid.1, Option.bind_eq_bind,
      Option.bind_some]
    exact decodeItems_encode codec hvalid.2 rest
  encode_decode {input items rest} hdecode := by
    simp only [Option.bind_eq_bind, Option.bind_eq_some_iff, Prod.exists] at hdecode
    obtain ⟨count, middle, hcount, hitems⟩ := hdecode
    obtain ⟨hvalidCount, rfl⟩ := length.encode_decode hcount
    obtain ⟨rfl, hvalid, rfl⟩ := encode_decodeItems codec hitems
    exact ⟨⟨hvalidCount, hvalid⟩, by rw [List.append_assoc]⟩

/-- A list behind its `u32` length. -/
def list (codec : Codec α) : Codec (List α) := counted (nat 4) codec

/-! ## Base-128 lengths -/

/-- Seven bits a byte, least significant first; the high bit says more follow. -/
def compactBytes (value : Nat) : List UInt8 :=
  if value < 128 then [UInt8.ofNat value]
  else UInt8.ofNat (value % 128 + 128) :: compactBytes (value / 128)

/-- Read such a number; a last byte of zero would be an alias of a shorter form. -/
def ofCompactBytes : List UInt8 → Option (Nat × List UInt8)
  | [] => none
  | byte :: rest =>
      if byte.toNat < 128 then some (byte.toNat, rest)
      else
        match ofCompactBytes rest with
        | some (high + 1, rest) => some (byte.toNat - 128 + 128 * (high + 1), rest)
        | _ => none

theorem ofCompactBytes_compactBytes (value : Nat) (rest : List UInt8) :
    ofCompactBytes (compactBytes value ++ rest) = some (value, rest) := by
  induction value using compactBytes.induct with
  | case1 value hsmall =>
      have hbyte : (UInt8.ofNat value).toNat = value := by
        rw [UInt8.toNat_ofNat']
        omega
      rw [compactBytes, if_pos hsmall, List.singleton_append, ofCompactBytes, hbyte,
        if_pos hsmall]
  | case2 value hlarge ih =>
      have hbyte : (UInt8.ofNat (value % 128 + 128)).toNat = value % 128 + 128 := by
        rw [UInt8.toNat_ofNat']
        omega
      obtain ⟨high, hhigh⟩ : ∃ high, value / 128 = high + 1 :=
        Nat.exists_eq_succ_of_ne_zero (by omega)
      rw [hhigh] at ih
      rw [compactBytes, if_neg hlarge, List.cons_append, ofCompactBytes, hbyte,
        if_neg (by omega), hhigh, ih]
      simp only [Option.some.injEq, Prod.mk.injEq, and_true]
      omega

theorem compactBytes_ofCompactBytes {bytes rest : List UInt8} {value : Nat}
    (hread : ofCompactBytes bytes = some (value, rest)) : bytes = compactBytes value ++ rest := by
  induction bytes generalizing value with
  | nil => simp [ofCompactBytes] at hread
  | cons byte tail ih =>
      have hbound := byte.toNat_lt
      rw [ofCompactBytes] at hread
      split at hread
      next hsmall =>
        simp only [Option.some.injEq, Prod.mk.injEq] at hread
        obtain ⟨rfl, rfl⟩ := hread
        rw [compactBytes, if_pos hsmall, UInt8.ofNat_toNat, List.singleton_append]
      next hlarge =>
        split at hread
        next high final htail =>
          simp only [Option.some.injEq, Prod.mk.injEq] at hread
          obtain ⟨rfl, rfl⟩ := hread
          have hdiv : (byte.toNat - 128 + 128 * (high + 1)) / 128 = high + 1 := by omega
          have hmod : (byte.toNat - 128 + 128 * (high + 1)) % 128 + 128 = byte.toNat := by omega
          rw [compactBytes, if_neg (by omega), hdiv, hmod, UInt8.ofNat_toNat, List.cons_append,
            ← ih htail]
        next => simp at hread

/-- A length of any size in base 128. -/
def compact : Codec Nat where
  valid _ := True
  encode := compactBytes
  decode := ofCompactBytes
  decode_encode rest _ := ofCompactBytes_compactBytes _ rest
  encode_decode hdecode := ⟨trivial, compactBytes_ofCompactBytes hdecode⟩

/-- A list behind its base-128 length. -/
def vec (codec : Codec α) : Codec (List α) := counted compact codec

/-! ## Total formats -/

/-- Every value has bytes that it is read back from. -/
def Total (codec : Codec α) : Prop := ∀ value, codec.valid value

section

variable {left : Codec α} {right : Codec β}

theorem Total.seq (hleft : left.Total) (hright : right.Total) : (left.seq right).Total :=
  fun pair => ⟨hleft pair.1, hright pair.2⟩

theorem Total.imap (htotal : left.Total) {ofRep : α → β} {toRep : β → α}
    (hrep : ∀ rep, left.valid rep → toRep (ofRep rep) = rep)
    (hvalue : ∀ value, ofRep (toRep value) = value) :
    (left.imap ofRep toRep hrep hvalue).Total :=
  fun value => htotal (toRep value)

theorem Total.union {payload : α → Type} {body : (value : α) → Codec (payload value)}
    (htag : left.Total) (hbody : ∀ value, (body value).Total) : (left.union body).Total :=
  fun pair => ⟨htag pair.1, hbody pair.1 pair.2⟩

theorem Total.option (htotal : left.Total) : left.option.Total := by
  intro value
  cases value with
  | none => trivial
  | some value => exact htotal value

theorem Total.vec (htotal : left.Total) : left.vec.Total :=
  fun _ => ⟨trivial, fun item _ => htotal item⟩

end

theorem total_byte : byte.Total := fun _ => trivial

theorem total_bytes (count : Nat) : (bytes count).Total := fun _ => trivial

theorem total_constant {toByte : α → UInt8} {ofByte : UInt8 → Option α}
    (hto : ∀ value, ofByte (toByte value) = some value)
    (hof : ∀ tag value, ofByte tag = some value → toByte value = tag) :
    (constant toByte ofByte hto hof).Total := fun _ => trivial

theorem total_bool : bool.Total := total_constant _ _

theorem total_u16 : u16.Total := u16_valid

theorem total_u32 : u32.Total := u32_valid

theorem total_u64 : u64.Total := u64_valid

theorem total_i32 : i32.Total := total_u32.imap _ _

theorem total_i64 : i64.Total := total_u64.imap _ _

/-! ## Whole byte strings -/

/-- Read a value and leave no byte. -/
def fromSlice (codec : Codec α) (bytes : List UInt8) : Option α :=
  match codec.decode bytes with
  | some (value, []) => some value
  | _ => none

theorem fromSlice_eq_some {codec : Codec α} {bytes : List UInt8} {value : α} :
    codec.fromSlice bytes = some value ↔ codec.decode bytes = some (value, []) := by
  unfold fromSlice
  constructor
  · intro hread
    split at hread
    next read hdecode =>
      obtain rfl := Option.some.inj hread
      exact hdecode
    · cases hread
  · intro hdecode
    rw [hdecode]

theorem fromSlice_encode (codec : Codec α) {value : α} (hvalid : codec.valid value) :
    codec.fromSlice (codec.encode value) = some value := by
  apply fromSlice_eq_some.mpr
  have hdecode := codec.decode_encode [] hvalid
  rwa [List.append_nil] at hdecode

/-! ## Widths -/

/-- Every encoding has this many bytes. -/
def Width (codec : Codec α) (width : Nat) : Prop := ∀ value, (codec.encode value).length = width

/-- Every encoding has at least this many bytes. -/
def MinWidth (codec : Codec α) (width : Nat) : Prop := ∀ value, width ≤ (codec.encode value).length

section

variable {left : Codec α} {right : Codec β} {first second : Nat}

theorem Width.minWidth (hwidth : left.Width first) : left.MinWidth first :=
  fun value => (hwidth value).ge

theorem Width.seq (hleft : left.Width first) (hright : right.Width second) :
    (left.seq right).Width (first + second) := by
  intro pair
  rw [Codec.seq, List.length_append, hleft, hright]

theorem MinWidth.seq (hleft : left.MinWidth first) (hright : right.MinWidth second) :
    (left.seq right).MinWidth (first + second) := by
  intro pair
  rw [Codec.seq, List.length_append]
  exact Nat.add_le_add (hleft pair.1) (hright pair.2)

theorem Width.imap (hwidth : left.Width first) {ofRep : α → β} {toRep : β → α}
    (hrep : ∀ rep, left.valid rep → toRep (ofRep rep) = rep)
    (hvalue : ∀ value, ofRep (toRep value) = value) :
    (left.imap ofRep toRep hrep hvalue).Width first :=
  fun value => hwidth (toRep value)

theorem MinWidth.imap (hwidth : left.MinWidth first) {ofRep : α → β} {toRep : β → α}
    (hrep : ∀ rep, left.valid rep → toRep (ofRep rep) = rep)
    (hvalue : ∀ value, ofRep (toRep value) = value) :
    (left.imap ofRep toRep hrep hvalue).MinWidth first :=
  fun value => hwidth (toRep value)

theorem MinWidth.union {payload : α → Type} {tag : Codec α}
    {body : (value : α) → Codec (payload value)} (htag : tag.MinWidth first)
    (hbody : ∀ value, (body value).MinWidth second) : (tag.union body).MinWidth (first + second) := by
  intro pair
  rw [Codec.union, List.length_append]
  exact Nat.add_le_add (htag pair.1) (hbody pair.1 pair.2)

end

theorem width_byte : byte.Width 1 := fun _ => rfl

theorem width_bytes (count : Nat) : (bytes count).Width count := fun value => value.2

theorem width_constant {toByte : α → UInt8} {ofByte : UInt8 → Option α}
    (hto : ∀ value, ofByte (toByte value) = some value)
    (hof : ∀ tag value, ofByte tag = some value → toByte value = tag) :
    (constant toByte ofByte hto hof).Width 1 := fun _ => rfl

theorem width_nat (width : Nat) : (nat width).Width width := fun value => length_leBytes width value

theorem width_u16 : u16.Width 2 := (width_nat 2).imap _ _

theorem width_u64 : u64.Width 8 := (width_nat 8).imap _ _

theorem minWidth_list (codec : Codec α) : codec.list.MinWidth 4 := by
  intro items
  rw [list, counted, List.length_append, width_nat 4]
  exact Nat.le_add_right _ _

theorem minWidth_option (codec : Codec α) : codec.option.MinWidth 1 := by
  intro value
  cases value <;> simp [option]

end Codec

end Foundation
