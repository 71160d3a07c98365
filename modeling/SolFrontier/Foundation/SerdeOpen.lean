import SolFrontier.Foundation.Serde

/-! # Open records and enumerations as JSON

Records that ignore other members and let some of their own be left out,
enumerations told apart by a member, and values in one of two shapes. A format
here has no law of its own: it is said value by value what is read back.
-/

namespace Foundation

/-- How the values of a type are written as JSON and read from a document. -/
structure Format (α : Type) where
  write : α → Json
  read : SerdeTree → Option α

/-- A value is read back as it was written. -/
def Format.Keeps {α : Type} (format : Format α) (value : α) : Prop :=
  format.read (serdeReader.tree (format.write value)) = some value

def Serde.format {α : Type} (serde : Serde α) : Format α where
  write := serde.write
  read := serde.read

theorem Serde.keeps {α : Type} (serde : Serde α) (value : α) : serde.format.Keeps value :=
  serde.read_write value

def Serde.string : Serde String := .text id some fun _ => rfl

/-! ## Members -/

/-- A member of an object: it may be left out when it is written, and may be
missing when it is read. -/
structure Member (α : Type) where
  write : α → Option Json
  read : Option SerdeTree → Option α

def Member.Keeps {α : Type} (member : Member α) (value : α) : Prop :=
  member.read ((member.write value).map serdeReader.tree) = some value

namespace Format

variable {α β : Type}

def list (format : Format α) : Format (List α) where
  write values := .array (values.map format.write)
  read
    | .array items => items.mapM format.read
    | _ => none

theorem list_keeps {format : Format α} {values : List α}
    (hkeeps : ∀ value ∈ values, format.Keeps value) : format.list.Keeps values := by
  simp only [Keeps, list, JsonReader.tree, JsonReader.trees_eq_map]
  induction values with
  | nil => rfl
  | cons value rest ih =>
      have hfirst : format.read (serdeReader.tree (format.write value)) = some value :=
        hkeeps value List.mem_cons_self
      have hrest := ih fun other hmem => hkeeps other (List.mem_cons_of_mem _ hmem)
      rw [List.map_cons, List.map_cons, List.mapM_cons, hfirst, hrest]
      rfl

/-- A format through another representation, which not every document has. -/
def via (format : Format β) (toRep : α → β) (ofRep : β → Option α) : Format α where
  write value := format.write (toRep value)
  read tree := (format.read tree).bind ofRep

theorem via_keeps {format : Format β} {toRep : α → β} {ofRep : β → Option α} {value : α}
    (hrep : ofRep (toRep value) = some value) (hkeeps : format.Keeps (toRep value)) :
    (format.via toRep ofRep).Keeps value := by
  show (format.read (serdeReader.tree (format.write (toRep value)))).bind ofRep = some value
  rw [hkeeps, Option.bind_some, hrep]

/-- The text of a value. -/
def toText (format : Format α) (value : α) : String := (format.write value).compact

/-- The value of a text. -/
def ofText (format : Format α) (text : String) : Option α :=
  (serdeReader.parse text).bind format.read

theorem ofText_toText {format : Format α} {value : α} (hkeeps : format.Keeps value) :
    format.ofText (format.toText value) = some value := by
  rw [ofText, toText, JsonReader.parse_compact, Option.bind_some]
  exact hkeeps

/-- A member that has to be there. -/
def required (format : Format α) : Member α where
  write value := some (format.write value)
  read slot := slot.bind format.read

theorem required_keeps {format : Format α} {value : α} (hkeeps : format.Keeps value) :
    format.required.Keeps value :=
  hkeeps

/-- A member with a value of its own when it is missing. -/
def defaulted (format : Format α) (default : α) : Member α where
  write value := some (format.write value)
  read
    | none => some default
    | some tree => format.read tree

theorem defaulted_keeps {format : Format α} {default value : α} (hkeeps : format.Keeps value) :
    (format.defaulted default).Keeps value :=
  hkeeps

/-- A member left out when it is none, and none when it is null or missing. -/
def skipped (format : Format α) : Member (Option α) where
  write value := value.map format.write
  read
    | none | some .null => some none
    | some tree => (format.read tree).map some

theorem skipped_keeps {format : Format α} (hnull : format.read .null = none) {value : Option α}
    (hkeeps : ∀ inner ∈ value, format.Keeps inner) : format.skipped.Keeps value := by
  cases value with
  | none => rfl
  | some inner =>
      have hread : format.read (serdeReader.tree (format.write inner)) = some inner :=
        hkeeps inner rfl
      show format.skipped.read (some (serdeReader.tree (format.write inner))) = some (some inner)
      -- a null would have been read as no value
      cases htree : serdeReader.tree (format.write inner) with
      | null =>
          rw [htree, hnull] at hread
          cases hread
      | _ =>
          rw [htree] at hread
          simp [skipped, hread]

end Format

namespace Serde

variable {α : Type} (serde : Serde α)

theorem required_keeps (value : α) : serde.format.required.Keeps value :=
  Format.required_keeps (serde.keeps value)

theorem defaulted_keeps (default value : α) : (serde.format.defaulted default).Keeps value :=
  Format.defaulted_keeps (serde.keeps value)

theorem skipped_keeps (hnull : serde.read .null = none) (value : Option α) :
    serde.format.skipped.Keeps value :=
  Format.skipped_keeps hnull fun inner _ => serde.keeps inner

end Serde

/-! ## Rows with gaps -/

/-- The named values that are there. -/
def present {ν : Type} (row : List (String × Option ν)) : List (String × ν) :=
  row.filterMap fun (name, value) => value.map (name, ·)

section Present

variable {ν μ : Type}

@[simp] theorem present_cons_none (name : String) (row : List (String × Option ν)) :
    present ((name, none) :: row) = present row := rfl

@[simp] theorem present_cons_some (name : String) (value : ν) (row : List (String × Option ν)) :
    present ((name, some value) :: row) = (name, value) :: present row := rfl

theorem map_present (f : ν → μ) (row : List (String × Option ν)) :
    (present row).map (fun member => (member.1, f member.2)) =
      present (row.map fun member => (member.1, member.2.map f)) := by
  induction row with
  | nil => rfl
  | cons member rest ih =>
      obtain ⟨name, _ | value⟩ := member
      · simpa using ih
      · simpa using ih

theorem names_present_sublist (row : List (String × Option ν)) :
    ((present row).map Prod.fst).Sublist (row.map Prod.fst) := by
  induction row with
  | nil => exact .slnil
  | cons member rest ih =>
      obtain ⟨name, _ | value⟩ := member
      · exact ih.cons name
      · exact ih.cons_cons name

theorem lookup_present_eq_none {row : List (String × Option ν)} {name : String}
    (hfresh : name ∉ row.map Prod.fst) : (present row).lookup name = none := by
  rw [List.lookup_eq_none_iff]
  intro member hmem
  have hname := (names_present_sublist row).subset (List.mem_map_of_mem hmem)
  have hne : member.1 ≠ name := fun heq => hfresh (heq ▸ hname)
  simpa using hne.symm

/-- A name is found with its own value, or not at all. -/
theorem lookup_present {row : List (String × Option ν)} (hnodup : (row.map Prod.fst).Nodup) :
    ∀ member ∈ row, (present row).lookup member.1 = member.2 := by
  induction row with
  | nil => simp
  | cons first rest ih =>
      obtain ⟨name, value⟩ := first
      rw [List.map_cons, List.nodup_cons] at hnodup
      intro member hmem
      rcases List.mem_cons.mp hmem with rfl | hrest
      · cases value with
        | some value => simp
        | none =>
            rw [present_cons_none]
            exact lookup_present_eq_none hnodup.1
      · have hother := ih hnodup.2 member hrest
        cases value with
        | none => exact hother
        | some value =>
            -- the names of the rest do not repeat the first
            have hskip : (member.1 == name) = false := by
              have hname : member.1 ∈ rest.map Prod.fst := List.mem_map_of_mem hrest
              exact beq_eq_false_iff_ne.mpr fun heq => hnodup.1 (heq ▸ hname)
            rw [present_cons_some, List.lookup_cons, hskip]
            exact hother

theorem lookup_present_zip {names : List String} (hnodup : names.Nodup) {values : List (Option ν)}
    (hlength : values.length = names.length) :
    names.map (fun name => (present (names.zip values)).lookup name) = values := by
  have hfst : (names.zip values).map Prod.fst = names := List.map_fst_zip hlength.ge
  have hfound : ((names.zip values).map fun member =>
      (present (names.zip values)).lookup member.1) = (names.zip values).map Prod.snd :=
    List.map_congr_left (lookup_present (by rw [hfst]; exact hnodup))
  calc names.map (fun name => (present (names.zip values)).lookup name)
      = ((names.zip values).map Prod.fst).map fun name =>
          (present (names.zip values)).lookup name := by rw [hfst]
    _ = (names.zip values).map Prod.snd := by rw [List.map_map]; exact hfound
    _ = values := List.map_snd_zip hlength.le

end Present

/-! ## Open records -/

/-- The values under declared names. A declared name given twice is an error; a
member of another name is ignored. -/
def openSlots (names : List String) (members : List (String × SerdeTree)) :
    Option (List (Option SerdeTree)) :=
  if ((members.map Prod.fst).filter (· ∈ names)).Nodup then
    some (names.map fun name => members.lookup name)
  else none

/-- Named members in declared order. -/
structure OpenFields (α : Type) where
  names : List String
  write : α → List (Option Json)
  read : List (Option SerdeTree) → Option α
  length_write : ∀ value, (write value).length = names.length

namespace OpenFields

variable {α β : Type}

def Keeps (fields : OpenFields α) (value : α) : Prop :=
  fields.read ((fields.write value).map (Option.map serdeReader.tree)) = some value

def last (name : String) (member : Member α) : OpenFields α where
  names := [name]
  write value := [member.write value]
  read
    | [slot] => member.read slot
    | _ => none
  length_write _ := rfl

theorem last_keeps {name : String} {member : Member α} {value : α} (hkeeps : member.Keeps value) :
    (last name member).Keeps value :=
  hkeeps

def cons (name : String) (member : Member α) (rest : OpenFields β) : OpenFields (α × β) where
  names := name :: rest.names
  write pair := member.write pair.1 :: rest.write pair.2
  read
    | slot :: slots => do
        let first ← member.read slot
        let others ← rest.read slots
        some (first, others)
    | [] => none
  length_write pair := congrArg Nat.succ (rest.length_write pair.2)

theorem cons_keeps {name : String} {member : Member α} {rest : OpenFields β} {pair : α × β}
    (hfirst : member.Keeps pair.1) (hrest : rest.Keeps pair.2) :
    (cons name member rest).Keeps pair := by
  have hfirst : member.read ((member.write pair.1).map serdeReader.tree) = some pair.1 := hfirst
  have hrest : rest.read ((rest.write pair.2).map (Option.map serdeReader.tree)) = some pair.2 :=
    hrest
  simp [Keeps, cons, hfirst, hrest]

/-- Transport along a change of representation. -/
def imap (fields : OpenFields α) (ofRep : α → β) (toRep : β → α) : OpenFields β where
  names := fields.names
  write value := fields.write (toRep value)
  read slots := (fields.read slots).map ofRep
  length_write value := fields.length_write (toRep value)

theorem imap_keeps {fields : OpenFields α} {ofRep : α → β} {toRep : β → α} {value : β}
    (hrep : ofRep (toRep value) = value) (hkeeps : fields.Keeps (toRep value)) :
    (fields.imap ofRep toRep).Keeps value := by
  show (fields.read ((fields.write (toRep value)).map _)).map ofRep = some value
  rw [hkeeps, Option.map_some, hrep]

/-- The members that are not left out. -/
def members (fields : OpenFields α) (value : α) : List (String × Json) :=
  present (fields.names.zip (fields.write value))

/-- The record of a document: an object by its names, or an array by position, of
which the last items may be missing. -/
def ofTree (fields : OpenFields α) : SerdeTree → Option α
  | .object members => (openSlots fields.names members).bind fields.read
  | .array items =>
      if items.length ≤ fields.names.length then
        fields.read (items.map some ++ List.replicate (fields.names.length - items.length) none)
      else none
  | _ => none

theorem names_members_sublist (fields : OpenFields α) (value : α) :
    ((fields.members value).map Prod.fst).Sublist fields.names := by
  have hfst : (fields.names.zip (fields.write value)).map Prod.fst = fields.names :=
    List.map_fst_zip (fields.length_write value).ge
  rw [← hfst]
  exact names_present_sublist _

/-- Members with distinct names are read back, those left out too. -/
theorem ofTree_members {fields : OpenFields α} (hnames : fields.names.Nodup) {value : α}
    (hkeeps : fields.Keeps value) :
    fields.ofTree (.object (serdeReader.memberTrees (fields.members value))) = some value := by
  have hlength := fields.length_write value
  have htrees : serdeReader.memberTrees (fields.members value) =
      present (fields.names.zip ((fields.write value).map (Option.map serdeReader.tree))) := by
    rw [JsonReader.memberTrees_eq_map, members, map_present, List.zip_map_right]
    rfl
  have hdistinct : (((serdeReader.memberTrees (fields.members value)).map Prod.fst).filter
      (· ∈ fields.names)).Nodup := by
    apply List.Nodup.filter
    rw [JsonReader.memberTrees_eq_map, List.map_map]
    exact (fields.names_members_sublist value).nodup hnames
  rw [ofTree, openSlots, if_pos hdistinct, htrees, lookup_present_zip hnames (by simp [hlength])]
  exact hkeeps

end OpenFields

namespace Format

variable {α β : Type}

def record (fields : OpenFields α) : Format α where
  write value := .object (fields.members value)
  read := fields.ofTree

theorem record_keeps {fields : OpenFields α} (hnames : fields.names.Nodup) {value : α}
    (hkeeps : fields.Keeps value) : (record fields).Keeps value :=
  OpenFields.ofTree_members hnames hkeeps

end Format

/-! ## Variants told apart by a member -/

/-- A variant as it is read: its labels, and its value from what stands beside
the tag. -/
structure Variant (α : Type) where
  labels : List String
  read : SerdeTree → Option α

namespace Variant

variable {α β : Type}

/-- A variant with members. -/
def struct (labels : List String) (fields : OpenFields β) (ofBody : β → α) : Variant α where
  labels := labels
  read tree := (fields.ofTree tree).map ofBody

/-- A variant without members. Whatever stands beside the tag in an object is ignored. -/
def unit (labels : List String) (value : α) : Variant α where
  labels := labels
  read
    -- An array may hold the tag and nothing else.
    | .object _ | .array [] => some value
    | _ => none

/-- The variant that a tag names. In a buffered document it may be a position too. -/
def ofTag (buffered : Bool) (variants : List (Variant α)) : SerdeTree → Option (Variant α)
  | .string text => variants.find? fun variant => text ∈ variant.labels
  | .number (.integer index) => if buffered ∧ 0 ≤ index then variants[index.toNat]? else none
  | _ => none

/-- The value of a document: an object with one tag, or an array that begins with it. -/
def ofTree (tag : String) (buffered : Bool) (variants : List (Variant α)) : SerdeTree → Option α
  | .object members =>
      match members.filter fun member => member.1 = tag with
      | [(_, label)] => do
          let variant ← ofTag buffered variants label
          variant.read (.object (members.filter fun member => member.1 ≠ tag))
      | _ => none
  | .array (label :: items) => do
      let variant ← ofTag buffered variants label
      variant.read (.array items)
  | _ => none

/-- An object that begins with its tag. -/
def object (tag label : String) (members : List (String × Json)) : Json :=
  .object ((tag, .string label) :: members)

section Written

variable {tag label : String} {buffered : Bool} {variants : List (Variant α)}

/-- The tag is found once, and without it the other members are left. -/
theorem ofTree_object {variant : Variant α} {members : List (String × Json)}
    (hvariant : variants.find? (fun variant => label ∈ variant.labels) = some variant)
    (htag : tag ∉ members.map Prod.fst) :
    ofTree tag buffered variants (serdeReader.tree (object tag label members)) =
      variant.read (.object (serdeReader.memberTrees members)) := by
  obtain ⟨hfirst, hrest⟩ := filter_tag htag
  simp only [object, JsonReader.tree, JsonReader.memberTrees, ofTree, List.filter_cons, hfirst,
    hrest]
  simp [ofTag, hvariant]

end Written

/-- The format of variants that are read from objects with a tag. -/
def format (tag : String) (buffered : Bool) (variants : List (Variant α)) (write : α → Json) :
    Format α where
  write := write
  read := ofTree tag buffered variants

section Kept

variable {tag : String} {buffered : Bool} {variants : List (Variant α)} {write : α → Json}
  {labels : List String}

theorem struct_keeps {value : α} (label : String) (fields : OpenFields β) (ofBody : β → α)
    (body : β) (hvalue : ofBody body = value)
    (hwrite : write value = object tag label (fields.members body))
    (hvariant : variants.find? (fun variant => label ∈ variant.labels) =
      some (struct labels fields ofBody))
    (hnames : (tag :: fields.names).Nodup) (hkeeps : fields.Keeps body) :
    (format tag buffered variants write).Keeps value := by
  rw [List.nodup_cons] at hnames
  have htag : tag ∉ (fields.members body).map Prod.fst := fun hmem =>
    hnames.1 ((fields.names_members_sublist body).subset hmem)
  show ofTree tag buffered variants (serdeReader.tree (write value)) = some value
  rw [hwrite, ofTree_object hvariant htag]
  show (fields.ofTree _).map ofBody = some value
  rw [OpenFields.ofTree_members hnames.2 hkeeps, Option.map_some, hvalue]

theorem unit_keeps (label : String) (value : α) (hwrite : write value = object tag label [])
    (hvariant : variants.find? (fun variant => label ∈ variant.labels) =
      some (unit labels value)) :
    (format tag buffered variants write).Keeps value := by
  show ofTree tag buffered variants (serdeReader.tree (write value)) = some value
  rw [hwrite, ofTree_object hvariant (by simp)]
  rfl

end Kept

end Variant

/-! ## A text or another shape -/

/-- A text, or a value of another type, told apart by trying the text first. -/
inductive UnitOr (τ : Type) where
  | unit (name : String)
  | tagged (value : τ)

namespace Format

variable {τ : Type}

def unitOr (format : Format τ) : Format (UnitOr τ) where
  write
    | .unit name => .string name
    | .tagged value => format.write value
  read
    -- A text is taken as a name even if nothing has that name.
    | .string name => some (.unit name)
    | tree => (format.read tree).map .tagged

theorem unitOr_keeps_unit (format : Format τ) (name : String) :
    format.unitOr.Keeps (.unit name) :=
  rfl

theorem unitOr_keeps_tagged {format : Format τ}
    (hstring : ∀ text, format.read (.string text) = none) {value : τ}
    (hkeeps : format.Keeps value) : format.unitOr.Keeps (.tagged value) := by
  have hread : format.read (serdeReader.tree (format.write value)) = some value := hkeeps
  show format.unitOr.read (serdeReader.tree (format.write value)) = some (.tagged value)
  cases htree : serdeReader.tree (format.write value) with
  | string text =>
      rw [htree, hstring] at hread
      cases hread
  | _ =>
      rw [htree] at hread
      simp [unitOr, hread]

end Format

end Foundation
