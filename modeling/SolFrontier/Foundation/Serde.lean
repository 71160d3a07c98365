import SolFrontier.Foundation.JsonTree

/-! # JSON as serde reads and writes it

A value is written in declared order and read by the names of its members. Each
format carries its law: what was written is read back.
-/

namespace Foundation

/-! ## The reader -/

/-- A number of a text: an integer of 64 bits, or a double. No format below takes
a double, so its value is left out. -/
inductive SerdeNumber where
  | integer (value : ℤ)
  | float
  deriving DecidableEq

namespace SerdeNumber

open JsonText

def ofInt (value : ℤ) : SerdeNumber :=
  if -2 ^ 63 ≤ value ∧ value < 2 ^ 64 then integer value else float

/-- A number without fraction and exponent. Negative zero is a double. -/
def isIntegral (lexeme : List Char) : Bool :=
  lexeme.all (fun c => c.isDigit || c = '-') && lexeme ≠ ['-', '0']

def read (text : List Char) : Option (SerdeNumber × List Char) :=
  (readNumber text).map fun (value, rest) =>
    let lexeme := text.take (text.length - rest.length)
    (if isIntegral lexeme then ofInt value.num else float, rest)

theorem isIntegral_toString (value : ℤ) : isIntegral (toString value).toList = true := by
  have hdigits : ∀ value : Nat, ∀ c ∈ Nat.toDigits 10 value, c.isDigit = true :=
    fun value c hmem => Nat.isDigit_of_mem_toDigits (by norm_num) (by norm_num) hmem
  cases value with
  | ofNat value =>
      have hplain : Nat.toDigits 10 value ≠ ['-', '0'] := by
        intro heq
        have hsign := hdigits value '-' (by simp [heq])
        cases hsign
      simp only [isIntegral, toList_toString_ofNat, Bool.and_eq_true, List.all_eq_true,
        decide_eq_true_eq]
      exact ⟨fun c hmem => by simp [hdigits value c hmem], hplain⟩
  | negSucc value =>
      -- the digits after the sign are not those of zero
      obtain ⟨c, rest, htext, hc⟩ := toDigits_head (Nat.succ_pos value)
      have hplain : '-' :: Nat.toDigits 10 (value + 1) ≠ ['-', '0'] := by
        intro heq
        rw [htext] at heq
        exact hc (List.cons.inj (List.cons.inj heq).2).1
      simp only [isIntegral, toList_toString_negSucc, Bool.and_eq_true, List.all_eq_true,
        decide_eq_true_eq]
      refine ⟨fun c hmem => ?_, hplain⟩
      rcases List.mem_cons.mp hmem with rfl | hdigit
      · rfl
      · simp [hdigits _ c hdigit]

theorem read_int (value : ℤ) (rest : List Char) (hrest : EndsNumber rest) :
    read ((toString value).toList ++ rest) = some (ofInt value, rest) := by
  have hlexeme : ((toString value).toList ++ rest).take
      (((toString value).toList ++ rest).length - rest.length) = (toString value).toList := by
    simp
  rw [read, readNumber_int value hrest, Option.map_some]
  dsimp only
  rw [hlexeme, isIntegral_toString, if_pos rfl, Rat.num_intCast]

end SerdeNumber

/-- Join surrogate pairs; half a pair is an error. -/
def wholeChars : List Nat → Option (List Char)
  | high :: low :: rest =>
      if 0xD800 ≤ high ∧ high < 0xDC00 ∧ 0xDC00 ≤ low ∧ low < 0xE000 then
        (wholeChars rest).map fun chars =>
          Char.ofNat (0x10000 + (high - 0xD800) * 1024 + (low - 0xDC00)) :: chars
      else if high.isValidChar then
        (wholeChars (low :: rest)).map fun chars => Char.ofNat high :: chars
      else none
  | [code] => if code.isValidChar then some [Char.ofNat code] else none
  | [] => some []

theorem wholeChars_toNat (chars : List Char) : wholeChars (chars.map Char.toNat) = some chars := by
  induction chars with
  | nil => rfl
  | cons c rest ih =>
      have hvalid : c.toNat.isValidChar := c.valid
      cases rest with
      | nil => simp [wholeChars, hvalid]
      | cons d rest =>
          have hcode : ¬ (0xD800 ≤ c.toNat ∧ c.toNat < 0xDC00 ∧ 0xDC00 ≤ d.toNat ∧
              d.toNat < 0xE000) := by
            intro h
            rcases hvalid with hlow | ⟨hhigh, _⟩ <;> omega
          rw [List.map_cons] at ih
          rw [List.map_cons, List.map_cons, wholeChars, if_neg hcode, if_pos hvalid, ih,
            Option.map_some, Char.ofNat_toNat]

def serdeReader : JsonReader SerdeNumber where
  number := SerdeNumber.read
  chars := wholeChars
  ofInt := SerdeNumber.ofInt
  number_int := SerdeNumber.read_int
  chars_toNat := wholeChars_toNat

/-- A document as the deserializers get it. -/
abbrev SerdeTree := JsonTree SerdeNumber

/-! ## Formats -/

/-- How the values of a type are written as JSON and read from a document. -/
structure Serde (α : Type) where
  write : α → Json
  read : SerdeTree → Option α
  read_write : ∀ value, read (serdeReader.tree (write value)) = some value

namespace Serde

variable {α β : Type}

/-- Transport a format along a change of representation. -/
def imap (format : Serde α) (ofRep : α → β) (toRep : β → α)
    (hvalue : ∀ value, ofRep (toRep value) = value) : Serde β where
  write value := format.write (toRep value)
  read tree := (format.read tree).map ofRep
  read_write value := by rw [format.read_write, Option.map_some, hvalue]

/-- Machine integers: a number outside their range is refused. -/
def integer (toInt : α → ℤ) (ofInt : ℤ → Option α)
    (hvalue : ∀ value, ofInt (toInt value) = some value)
    (hrange : ∀ value, -2 ^ 63 ≤ toInt value ∧ toInt value < 2 ^ 64) : Serde α where
  write value := .number (toInt value)
  read
    | .number (.integer value) => ofInt value
    | _ => none
  read_write value := by
    have hnumber : serdeReader.ofInt (toInt value) = .integer (toInt value) :=
      if_pos (hrange value)
    rw [JsonReader.tree, hnumber]
    exact hvalue value

/-- Unsigned integers of a width. -/
def unsigned (bits : Nat) (toNat : α → Nat) (ofNat : Nat → α)
    (hvalue : ∀ value, ofNat (toNat value) = value)
    (hrange : ∀ value, toNat value < 2 ^ bits) (hbits : bits ≤ 64) : Serde α :=
  integer (fun value => toNat value)
    (fun value => if 0 ≤ value ∧ value < 2 ^ bits then some (ofNat value.toNat) else none)
    (fun value => by
      have hlt : ((toNat value : Nat) : ℤ) < 2 ^ bits := by exact_mod_cast hrange value
      rw [if_pos ⟨Int.natCast_nonneg _, hlt⟩, Int.toNat_natCast, hvalue])
    (fun value => by
      have hwidth : 2 ^ bits ≤ 2 ^ 64 := Nat.pow_le_pow_right (by norm_num) hbits
      have hlt := hrange value
      omega)

def u8 : Serde UInt8 :=
  unsigned 8 UInt8.toNat UInt8.ofNat (fun _ => UInt8.ofNat_toNat) UInt8.toNat_lt (by norm_num)

def u16 : Serde UInt16 :=
  unsigned 16 UInt16.toNat UInt16.ofNat (fun _ => UInt16.ofNat_toNat) UInt16.toNat_lt (by norm_num)

def u32 : Serde UInt32 :=
  unsigned 32 UInt32.toNat UInt32.ofNat (fun _ => UInt32.ofNat_toNat) UInt32.toNat_lt (by norm_num)

def u64 : Serde UInt64 :=
  unsigned 64 UInt64.toNat UInt64.ofNat (fun _ => UInt64.ofNat_toNat) UInt64.toNat_lt (by norm_num)

/-- Signed integers of a width. -/
def signed (bits : Nat) (toInt : α → ℤ) (ofInt : ℤ → α)
    (hvalue : ∀ value, ofInt (toInt value) = value)
    (hrange : ∀ value, -2 ^ bits ≤ toInt value ∧ toInt value < 2 ^ bits) (hbits : bits ≤ 63) :
    Serde α :=
  integer toInt
    (fun value => if -2 ^ bits ≤ value ∧ value < 2 ^ bits then some (ofInt value) else none)
    (fun value => by rw [if_pos (hrange value), hvalue])
    (fun value => by
      have hwidth : (2 : ℤ) ^ bits ≤ 2 ^ 63 := pow_le_pow_right₀ (by norm_num) hbits
      have hlt := hrange value
      omega)

def i32 : Serde Int32 :=
  signed 31 Int32.toInt Int32.ofInt (fun _ => Int32.ofInt_toInt _)
    (fun value => ⟨Int32.le_toInt value, Int32.toInt_lt value⟩) (by norm_num)

def i64 : Serde Int64 :=
  signed 63 Int64.toInt Int64.ofInt (fun _ => Int64.ofInt_toInt _)
    (fun value => ⟨Int64.le_toInt value, Int64.toInt_lt value⟩) (by norm_num)

def bool : Serde Bool where
  write := .bool
  read
    | .bool value => some value
    | _ => none
  read_write _ := rfl

/-- Values with a text of their own. -/
def text (toText : α → String) (ofText : String → Option α)
    (hvalue : ∀ value, ofText (toText value) = some value) : Serde α where
  write value := .string (toText value)
  read
    | .string text => ofText text
    | _ => none
  read_write := hvalue

def list (format : Serde α) : Serde (List α) where
  write values := .array (values.map format.write)
  read
    | .array items => items.mapM format.read
    | _ => none
  read_write values := by
    rw [JsonReader.tree, JsonReader.trees_eq_map]
    induction values with
    | nil => rfl
    | cons value rest ih => simp_all [format.read_write]

/-- A byte array of a fixed length, written as its numbers. -/
def bytes (count : Nat) : Serde (Bytes count) where
  write value := u8.list.write value.1
  read tree := do
    let bytes ← u8.list.read tree
    if h : bytes.length = count then some ⟨bytes, h⟩ else none
  read_write value := by
    rw [u8.list.read_write, Option.bind_eq_bind, Option.bind_some, dif_pos value.2]

/-- Whether a document is a unit. From a buffered document an empty object is one too. -/
def isUnit (buffered : Bool) : SerdeTree → Bool
  | .null => true
  | .object [] => buffered
  | _ => false

/-- Unit variants by their labels: the label alone, or an object with a unit under it. -/
def labelled (buffered : Bool) (label : α → String) (ofLabel : String → Option α)
    (hvalue : ∀ value, ofLabel (label value) = some value) : Serde α where
  write value := .string (label value)
  read
    | .string text => ofLabel text
    | .object [(text, value)] => if isUnit buffered value then ofLabel text else none
    | _ => none
  read_write := hvalue

/-- The value of a label. -/
def ofLabel (values : List α) (label : α → String) (text : String) : Option α :=
  values.find? fun value => label value = text

/-- An enumeration of unit variants. -/
def variants (buffered : Bool) (values : List α) (label : α → String)
    (hvalue : ∀ value, ofLabel values label (label value) = some value) : Serde α :=
  labelled buffered label (ofLabel values label) hvalue

end Serde

/-! ## Records -/

/-- A member that may be left out of an object. -/
structure Slot (α : Type) where
  write : α → Json
  read : Option SerdeTree → Option α
  read_write : ∀ value, read (some (serdeReader.tree (write value))) = some value

namespace Serde

variable {α : Type}

/-- A member that has to be there. -/
def required (format : Serde α) : Slot α where
  write := format.write
  read slot := slot.bind format.read
  read_write := format.read_write

/-- A member that reads as none when it is null or not there. -/
def optional (format : Serde α) (hnull : ∀ value, format.write value ≠ .null) :
    Slot (Option α) where
  write
    | none => .null
    | some value => format.write value
  read
    | none | some .null => some none
    | some tree => (format.read tree).map some
  read_write value := by
    cases value with
    | none => rfl
    | some value =>
        have hread := format.read_write value
        have htree : serdeReader.tree (format.write value) ≠ .null := by
          cases hwrite : format.write value with
          | null => exact absurd hwrite (hnull value)
          | _ => simp [JsonReader.tree]
        cases hcases : serdeReader.tree (format.write value) with
        | null => exact absurd hcases htree
        | _ => simp [← hcases, hread]

end Serde

/-- Named members in declared order. -/
structure Fields (α : Type) where
  names : List String
  write : α → List Json
  read : List (Option SerdeTree) → Option α
  length_write : ∀ value, (write value).length = names.length
  read_write : ∀ value,
    read ((write value).map fun json => some (serdeReader.tree json)) = some value

/-- The members under declared names. A member of another name and a name given
twice are errors. -/
def slotsOf (names : List String) (members : List (String × SerdeTree)) :
    Option (List (Option SerdeTree)) :=
  if (members.map Prod.fst).Nodup ∧ ∀ member ∈ members, member.1 ∈ names then
    some (names.map fun name => members.lookup name)
  else none

/-- Every name of a row is found with its own value. -/
theorem lookup_zip {ν : Type} {names : List String} (hnodup : names.Nodup) {values : List ν}
    (hlength : values.length = names.length) :
    names.map (fun name => (names.zip values).lookup name) = values.map some := by
  induction names generalizing values with
  | nil =>
      obtain rfl := List.length_eq_zero_iff.mp hlength
      rfl
  | cons name rest ih =>
      cases values with
      | nil => cases hlength
      | cons value others =>
          rw [List.nodup_cons] at hnodup
          have hothers := ih hnodup.2 (Nat.succ.inj hlength)
          -- the other names do not meet the first member
          have hskip : rest.map (fun other => ((name :: rest).zip (value :: others)).lookup other) =
              rest.map fun other => (rest.zip others).lookup other := by
            apply List.map_congr_left
            intro other hmem
            have hne : (other == name) = false := by
              rw [beq_eq_false_iff_ne]
              rintro rfl
              exact hnodup.1 hmem
            rw [List.zip_cons_cons, List.lookup_cons, hne]
          rw [List.map_cons, hskip, hothers]
          simp

namespace Fields

variable {α β : Type}

def last (name : String) (slot : Slot α) : Fields α where
  names := [name]
  write value := [slot.write value]
  read
    | [tree] => slot.read tree
    | _ => none
  length_write _ := rfl
  read_write := slot.read_write

def cons (name : String) (slot : Slot α) (rest : Fields β) : Fields (α × β) where
  names := name :: rest.names
  write pair := slot.write pair.1 :: rest.write pair.2
  read
    | tree :: trees => do
        let first ← slot.read tree
        let others ← rest.read trees
        some (first, others)
    | [] => none
  length_write pair := congrArg Nat.succ (rest.length_write pair.2)
  read_write pair := by simp [slot.read_write, rest.read_write]

/-- Transport along a change of representation. -/
def imap (fields : Fields α) (ofRep : α → β) (toRep : β → α)
    (hvalue : ∀ value, ofRep (toRep value) = value) : Fields β where
  names := fields.names
  write value := fields.write (toRep value)
  read trees := (fields.read trees).map ofRep
  length_write value := fields.length_write (toRep value)
  read_write value := by rw [fields.read_write, Option.map_some, hvalue]

def members (fields : Fields α) (value : α) : List (String × Json) :=
  fields.names.zip (fields.write value)

/-- The record of a document: an object by its names, or an array by position. -/
def ofTree (fields : Fields α) : SerdeTree → Option α
  | .object members => (slotsOf fields.names members).bind fields.read
  | .array items =>
      if items.length = fields.names.length then fields.read (items.map some) else none
  | _ => none

theorem names_members (fields : Fields α) (value : α) :
    (fields.members value).map Prod.fst = fields.names :=
  List.map_fst_zip (fields.length_write value).ge

/-- Members with distinct names are read back from an object. -/
theorem ofTree_members (fields : Fields α) (hnames : fields.names.Nodup) (value : α) :
    fields.ofTree (.object (serdeReader.memberTrees (fields.members value))) = some value := by
  have hlength := fields.length_write value
  have hmembers : serdeReader.memberTrees (fields.members value) =
      fields.names.zip ((fields.write value).map serdeReader.tree) := by
    rw [JsonReader.memberTrees_eq_map, members, List.zip_map_right]
    rfl
  have hfst : (fields.names.zip ((fields.write value).map serdeReader.tree)).map Prod.fst =
      fields.names :=
    List.map_fst_zip (by simp [hlength])
  have hdeclared : ∀ member ∈ fields.names.zip ((fields.write value).map serdeReader.tree),
      member.1 ∈ fields.names := by
    intro member hmem
    rw [← hfst]
    exact List.mem_map_of_mem hmem
  have hslots :
      slotsOf fields.names (fields.names.zip ((fields.write value).map serdeReader.tree)) =
        some ((fields.write value).map fun json => some (serdeReader.tree json)) := by
    rw [slotsOf, hfst, if_pos ⟨hnames, hdeclared⟩, lookup_zip hnames (by simp [hlength]),
      List.map_map]
    rfl
  rw [hmembers, ofTree, hslots]
  exact fields.read_write value

end Fields

/-- No written member is taken for a tag of another name. -/
theorem filter_tag {tag : String} {members : List (String × Json)}
    (htag : tag ∉ members.map Prod.fst) :
    (serdeReader.memberTrees members).filter (fun member => member.1 = tag) = [] ∧
      (serdeReader.memberTrees members).filter (fun member => member.1 ≠ tag) =
        serdeReader.memberTrees members := by
  have hother : ∀ member ∈ serdeReader.memberTrees members, member.1 ≠ tag := by
    rintro member hmem rfl
    rw [JsonReader.memberTrees_eq_map] at hmem
    obtain ⟨written, hwritten, rfl⟩ := List.mem_map.mp hmem
    exact htag (List.mem_map_of_mem hwritten)
  constructor
  · rw [List.filter_eq_nil_iff]
    intro member hmem
    simpa using hother member hmem
  · rw [List.filter_eq_self]
    intro member hmem
    simpa using hother member hmem

namespace Serde

variable {α : Type}

def record (fields : Fields α) (hnames : fields.names.Nodup) : Serde α where
  write value := .object (fields.members value)
  read := fields.ofTree
  read_write := fields.ofTree_members hnames

/-- Variants told apart by a member: first in the object that is written, found
by its name or as the first item of an array when it is read. -/
def tagged {κ : Type} {Body : κ → Type} (tag : String) (label : κ → String)
    (ofLabel : String → Option κ) (hlabel : ∀ kind, ofLabel (label kind) = some kind)
    (fields : (kind : κ) → Fields (Body kind))
    (hnames : ∀ kind, (tag :: (fields kind).names).Nodup) : Serde ((kind : κ) × Body kind) where
  write pair := .object ((tag, .string (label pair.1)) :: (fields pair.1).members pair.2)
  read
    | .object members =>
        match members.filter fun member => member.1 = tag with
        | [(_, .string text)] => do
            let kind ← ofLabel text
            let body ← (fields kind).ofTree (.object (members.filter fun member => member.1 ≠ tag))
            some ⟨kind, body⟩
        | _ => none
    | .array (.string text :: items) => do
        let kind ← ofLabel text
        let body ← (fields kind).ofTree (.array items)
        some ⟨kind, body⟩
    | _ => none
  read_write := by
    rintro ⟨kind, body⟩
    have htag : tag ∉ ((fields kind).members body).map Prod.fst := by
      rw [(fields kind).names_members body]
      exact (List.nodup_cons.mp (hnames kind)).1
    have hbody := (fields kind).ofTree_members (List.nodup_cons.mp (hnames kind)).2 body
    -- the tag is found once and taking it out leaves the body
    obtain ⟨hfirst, hrest⟩ := filter_tag htag
    simp only [JsonReader.tree, JsonReader.memberTrees, List.filter_cons, hfirst, hrest]
    simp [hlabel, hbody]

end Serde

end Foundation
