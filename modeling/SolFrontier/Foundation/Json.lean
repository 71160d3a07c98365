import Mathlib.Data.List.Sort
import SolFrontier.Foundation.Bytes

/-! # JSON values and their compact text

Objects are maps: a key is looked up by name, and the text lists the members in
key order, whatever order they were given in.
-/

namespace Foundation

inductive Json where
  | null
  | bool (value : Bool)
  | number (value : Int)
  | string (value : String)
  | array (items : List Json)
  | object (members : List (String × Json))
  deriving Inhabited, Repr

namespace Json

/-- What passes from the items of an array and from the members of an object to
the whole holds of every value. -/
@[elab_as_elim]
theorem induct {motive : Json → Prop} (null : motive .null)
    (bool : ∀ value, motive (.bool value)) (number : ∀ value, motive (.number value))
    (string : ∀ value, motive (.string value))
    (array : ∀ items : List Json, (∀ item ∈ items, motive item) → motive (.array items))
    (object : ∀ members : List (String × Json),
      (∀ member ∈ members, motive member.2) → motive (.object members)) (json : Json) :
    motive json := by
  match json with
  | .null => exact null
  | .bool value => exact bool value
  | .number value => exact number value
  | .string value => exact string value
  | .array items =>
      apply array
      intro item hmem
      exact induct null bool number string array object item
  | .object members =>
      apply object
      intro member hmem
      exact induct null bool number string array object member.2
termination_by json
decreasing_by
  · have hsize := List.sizeOf_lt_of_mem hmem
    simp
    omega
  · have hsize := List.sizeOf_lt_of_mem hmem
    have hvalue : sizeOf member = 1 + sizeOf member.1 + sizeOf member.2 := by cases member; rfl
    simp
    omega

/-- The member of an object under a key. -/
def get : Json → String → Option Json
  | object members, key => (members.find? fun member => member.1 = key).map Prod.snd
  | _, _ => none

/-- Short escapes where JSON has them, a code for the other control
characters, and every other character as it is. -/
def escapeChar (c : Char) : List Char :=
  if c = '"' then ['\\', '"']
  else if c = '\\' then ['\\', '\\']
  else if c = '\x08' then ['\\', 'b']
  else if c = '\t' then ['\\', 't']
  else if c = '\n' then ['\\', 'n']
  else if c = '\x0c' then ['\\', 'f']
  else if c = '\r' then ['\\', 'r']
  else if c.toNat < 32 then
    ['\\', 'u', '0', '0', hexDigit (c.toNat / 16), hexDigit (c.toNat % 16)]
  else [c]

def quote (text : String) : String :=
  "\"" ++ String.ofList (text.toList.flatMap escapeChar) ++ "\""

mutual

/-- The compact text. -/
def render : Json → String
  | null => "null"
  | bool value => if value then "true" else "false"
  | number value => toString value
  | string value => quote value
  | array items => "[" ++ String.intercalate "," (renderItems items) ++ "]"
  | object members =>
      let sorted := (renderMembers members).insertionSort fun left right => left.1 ≤ right.1
      "\x7b" ++ String.intercalate "," (sorted.map fun member =>
        quote member.1 ++ ":" ++ member.2) ++ "\x7d"

def renderItems : List Json → List String
  | [] => []
  | item :: rest => item.render :: renderItems rest

def renderMembers : List (String × Json) → List (String × String)
  | [] => []
  | (key, value) :: rest => (key, value.render) :: renderMembers rest

end

/-- Members print in key order. -/
example : (object [("b", number 1), ("a", array [null, string "x\n"])]).render =
    "\x7b\"a\":[null,\"x\\n\"],\"b\":1\x7d" := by
  decide +kernel

end Json

end Foundation
