import Mathlib.Algebra.Order.BigOperators.Group.List
import Mathlib.Algebra.Order.Floor.Ring
import Mathlib.Data.Int.Log
import SolFrontier.Foundation.JsonTree

/-! # Reading JSON texts

The grammar of JSON over characters, with numbers read as doubles and the values
of a text as a script sees them. They are the values of its document, so the
compact text of a value is read back as that value.
-/

namespace Foundation

/-! ## Doubles -/

/-- A double that a text can stand for. The sign of zero is not kept. -/
inductive Double where
  | finite (value : ℚ)
  | infinite (negative : Bool)
  deriving DecidableEq

namespace Double

/-- The nearest integer, and the even one of two. -/
def roundHalfEven (value : ℚ) : ℤ :=
  let below := ⌊value⌋
  let rest := value - below
  if rest < 1 / 2 ∨ (rest = 1 / 2 ∧ below % 2 = 0) then below else below + 1

/-- The distance of neighbouring doubles around a value. -/
def spacing (value : ℚ) : ℚ := 2 ^ max (Int.log 2 |value| - 52) (-1074)

def nearest (value : ℚ) : Double :=
  let rounded := roundHalfEven (value / spacing value) * spacing value
  if 2 ^ 1024 ≤ |rounded| then infinite (value < 0) else finite rounded

theorem roundHalfEven_intCast (value : ℤ) : roundHalfEven value = value := by
  simp [roundHalfEven]

/-- Integers below `2 ^ 53` are doubles. -/
theorem nearest_intCast {value : ℤ} (hvalue : |value| < 2 ^ 53) :
    nearest value = finite value := by
  have hcast : |(value : ℚ)| < 2 ^ 53 := by exact_mod_cast hvalue
  have hlog : Int.log 2 |(value : ℚ)| ≤ 52 := by
    rcases eq_or_ne value 0 with rfl | hne
    · simp
    · have hpositive : 0 < |(value : ℚ)| := by simpa using hne
      apply Int.lt_add_one_iff.mp
      apply (Int.lt_zpow_iff_log_lt (by norm_num) hpositive).mp
      exact_mod_cast hcast
  obtain ⟨places, hplaces⟩ : ∃ places : ℕ,
      max (Int.log 2 |(value : ℚ)| - 52) (-1074) = -(places : ℤ) :=
    ⟨(max (Int.log 2 |(value : ℚ)| - 52) (-1074)).natAbs, by omega⟩
  have hspacing : spacing value = (2 ^ places)⁻¹ := by
    rw [spacing, hplaces, zpow_neg, zpow_natCast]
  -- in units of the spacing the value is an integer
  have hunits : (value : ℚ) / spacing value = ((value * 2 ^ places : ℤ) : ℚ) := by
    rw [hspacing, div_inv_eq_mul]
    push_cast
    rfl
  have hrounded : (roundHalfEven ((value : ℚ) / spacing value) : ℚ) * spacing value = value := by
    rw [hunits, roundHalfEven_intCast, hspacing]
    push_cast
    exact mul_inv_cancel_right₀ (by positivity) _
  have hsmall : ¬ (2 : ℚ) ^ 1024 ≤ |(value : ℚ)| := by
    apply not_le.mpr
    exact hcast.trans (pow_lt_pow_right₀ (by norm_num) (by norm_num))
  rw [nearest, hrounded, if_neg hsmall]

/-- `Number.isInteger`. -/
def isInteger : Double → Bool
  | finite value => value.den = 1
  | infinite _ => false

/-- `Number.isSafeInteger`. -/
def isSafeInteger : Double → Bool
  | finite value => value.den = 1 ∧ |value| < 2 ^ 53
  | infinite _ => false

end Double

/-! ## Values -/

/-- What a JSON text stands for. A surrogate on its own has become a
replacement character, and of two members with one key the later one counts. -/
inductive JsonValue where
  | null
  | bool (value : Bool)
  | number (value : Double)
  | string (value : String)
  | array (items : List JsonValue)
  | object (members : List (String × JsonValue))
  deriving Inhabited

namespace JsonValue

/-- The member of an object under a key. -/
def get : JsonValue → String → Option JsonValue
  | object members, key => (members.reverse.find? fun member => member.1 = key).map Prod.snd
  | _, _ => none

def string? : JsonValue → Option String
  | string text => some text
  | _ => none

end JsonValue

/-! ## The grammar -/

namespace JsonText

mutual

/-- The value at the start of a text, in a number of calls. -/
def readValue : Nat → List Char → Option (JsonValue × List Char)
  | 0, _ => none
  | calls + 1, text =>
      match skipSpace text with
      | 'n' :: 'u' :: 'l' :: 'l' :: rest => some (.null, rest)
      | 't' :: 'r' :: 'u' :: 'e' :: rest => some (.bool true, rest)
      | 'f' :: 'a' :: 'l' :: 's' :: 'e' :: rest => some (.bool false, rest)
      | '"' :: rest => (readString rest).map fun (value, rest) => (.string value, rest)
      | '[' :: rest =>
          match skipSpace rest with
          | ']' :: rest => some (.array [], rest)
          | rest => (readItems calls rest).map fun (items, rest) => (.array items, rest)
      | '\x7b' :: rest =>
          match skipSpace rest with
          | '\x7d' :: rest => some (.object [], rest)
          | rest => (readMembers calls rest).map fun (members, rest) => (.object members, rest)
      | text => (readNumber text).map fun (value, rest) => (.number (.nearest value), rest)

/-- The items of an array and its closing bracket. -/
def readItems : Nat → List Char → Option (List JsonValue × List Char)
  | 0, _ => none
  | calls + 1, text => do
      let (item, rest) ← readValue calls text
      match skipSpace rest with
      | ',' :: rest =>
          let (items, rest) ← readItems calls rest
          some (item :: items, rest)
      | ']' :: rest => some ([item], rest)
      | _ => none

/-- The members of an object and its closing brace. -/
def readMembers : Nat → List Char → Option (List (String × JsonValue) × List Char)
  | 0, _ => none
  | calls + 1, text =>
      match skipSpace text with
      | '"' :: rest => do
          let (key, rest) ← readString rest
          match skipSpace rest with
          | ':' :: rest =>
              let (value, rest) ← readValue calls rest
              match skipSpace rest with
              | ',' :: rest =>
                  let (members, rest) ← readMembers calls rest
                  some ((key, value) :: members, rest)
              | '\x7d' :: rest => some ([(key, value)], rest)
              | _ => none
          | _ => none
      | _ => none

end

/-- Read a whole text. There are at most two calls for each character. -/
def parse (text : String) : Option JsonValue := do
  let (value, rest) ← readValue (2 * text.length + 1) text.toList
  if skipSpace rest = [] then some value else none

/-! ## Reading back what was written -/

mutual

/-- The value of a rendered one: members come in key order. -/
def ofJson : Json → JsonValue
  | .null => .null
  | .bool value => .bool value
  | .number value => .number (.nearest value)
  | .string value => .string value
  | .array items => .array (ofItems items)
  | .object members =>
      .object ((ofMembers members).insertionSort fun left right => left.1 ≤ right.1)

def ofItems : List Json → List JsonValue
  | [] => []
  | item :: rest => ofJson item :: ofItems rest

def ofMembers : List (String × Json) → List (String × JsonValue)
  | [] => []
  | (key, value) :: rest => (key, ofJson value) :: ofMembers rest

end

theorem ofItems_eq_map (items : List Json) : ofItems items = items.map ofJson := by
  induction items with
  | nil => rfl
  | cons item rest ih => simp [ofItems, ih]

theorem ofMembers_eq_map (members : List (String × Json)) :
    ofMembers members = members.map fun member => (member.1, ofJson member.2) := by
  induction members with
  | nil => rfl
  | cons member rest ih => simp [ofMembers, ih]

/-! ## As documents -/

/-- Numbers read as doubles, half a surrogate pair as a replacement character. -/
def doubles : JsonReader Double where
  number text := (readNumber text).map fun (value, rest) => (.nearest value, rest)
  chars codes := some (joinCodes codes)
  ofInt value := .nearest value
  number_int value rest hrest := by
    rw [readNumber_int value hrest]
    rfl
  chars_toNat := JsonReader.some_joinCodes_toNat

mutual

/-- The value of a document. -/
def ofTree : JsonTree Double → JsonValue
  | .null => .null
  | .bool value => .bool value
  | .number value => .number value
  | .string value => .string value
  | .array items => .array (ofTrees items)
  | .object members => .object (ofMemberTrees members)

def ofTrees : List (JsonTree Double) → List JsonValue
  | [] => []
  | item :: rest => ofTree item :: ofTrees rest

def ofMemberTrees : List (String × JsonTree Double) → List (String × JsonValue)
  | [] => []
  | (key, value) :: rest => (key, ofTree value) :: ofMemberTrees rest

end

theorem readString_eq (text : List Char) : readString text = doubles.string text := by
  unfold readString JsonReader.string
  cases readCodes text <;> rfl

/-- The values are those of the documents. -/
theorem read_eq (calls : Nat) :
    (∀ text, readValue calls text =
      (doubles.value calls text).map fun (tree, rest) => (ofTree tree, rest)) ∧
    (∀ text, readItems calls text =
      (doubles.items calls text).map fun (trees, rest) => (ofTrees trees, rest)) ∧
    ∀ text, readMembers calls text =
      (doubles.members calls text).map fun (members, rest) => (ofMemberTrees members, rest) := by
  induction calls with
  | zero =>
    refine ⟨?_, ?_, ?_⟩ <;> intro text <;> rfl
  | succ calls ih =>
    obtain ⟨ihValue, ihItems, ihMembers⟩ := ih
    refine ⟨?_, ?_, ?_⟩
    · intro text
      rw [readValue, JsonReader.value]
      generalize skipSpace text = text
      -- both readers branch on the first token
      split
      · rfl
      · rfl
      · rfl
      next rest =>
        rw [readString_eq]
        cases hread : doubles.string rest <;> simp [hread, ofTree]
      next rest =>
        simp only
        generalize skipSpace rest = rest
        split
        · simp [ofTree, ofTrees]
        next hclosing =>
          rw [ihItems]
          cases hread : doubles.items calls rest <;> simp [hread, ofTree]
      next rest =>
        simp only
        generalize skipSpace rest = rest
        split
        · simp [ofTree, ofMemberTrees]
        next hclosing =>
          rw [ihMembers]
          cases hread : doubles.members calls rest <;> simp [hread, ofTree]
      next =>
        cases hread : readNumber text <;> simp [doubles, ofTree, *]
    · -- an item and then a comma or the closing bracket
      intro text
      rw [readItems, JsonReader.items, ihValue]
      cases doubles.value calls text with
      | none => rfl
      | some found =>
          obtain ⟨item, rest⟩ := found
          simp only [Option.map_some, Option.bind_eq_bind, Option.bind_some]
          generalize skipSpace rest = rest
          split
          next rest =>
            rw [ihItems]
            cases hread : doubles.items calls rest <;> simp [hread, ofTrees]
          · simp [ofTrees]
          · simp [*]
    · -- a key, a colon, a value and then a comma or the closing brace
      intro text
      rw [readMembers, JsonReader.members]
      generalize skipSpace text = text
      split
      next rest =>
        rw [readString_eq]
        cases hkey : doubles.string rest with
        | none => simp [hkey]
        | some found =>
            obtain ⟨key, rest⟩ := found
            simp only [hkey, Option.bind_eq_bind, Option.bind_some]
            generalize skipSpace rest = rest
            split
            next rest =>
              rw [ihValue]
              cases hvalue : doubles.value calls rest with
              | none => simp [hvalue]
              | some found =>
                  obtain ⟨value, rest⟩ := found
                  simp only [hvalue, Option.map_some, Option.bind_some]
                  generalize skipSpace rest = rest
                  split
                  next rest =>
                    rw [ihMembers]
                    cases hread : doubles.members calls rest <;> simp [hread, ofMemberTrees]
                  · simp [ofMemberTrees]
                  · simp [*]
            · simp [*]
      · simp [*]

theorem parse_eq (text : String) : parse text = (doubles.parse text).map ofTree := by
  unfold parse JsonReader.parse
  rw [(read_eq _).1]
  cases hread : doubles.value (2 * text.length + 1) text.toList with
  | none => rfl
  | some found =>
      obtain ⟨tree, rest⟩ := found
      simp only [Option.map_some, Option.bind_eq_bind, Option.bind_some]
      split <;> rfl

/-! ## In key order -/

theorem renderItems_eq_map (items : List Json) : Json.renderItems items = items.map Json.render := by
  induction items with
  | nil => rfl
  | cons item rest ih => simp [Json.renderItems, ih]

theorem renderMembers_eq_map (members : List (String × Json)) :
    Json.renderMembers members = members.map fun member => (member.1, member.2.render) := by
  induction members with
  | nil => rfl
  | cons member rest ih => simp [Json.renderMembers, ih]

/-- The members of an object in the order they are written in. -/
def inKeyOrder {α : Type} (members : List (String × α)) : List (String × α) :=
  members.insertionSort fun left right => left.1 ≤ right.1

/-- The order looks at keys only. -/
theorem inKeyOrder_map {α β : Type} (f : α → β) (members : List (String × α)) :
    inKeyOrder (members.map fun member => (member.1, f member.2)) =
      (inKeyOrder members).map fun member => (member.1, f member.2) := by
  symm
  apply List.map_insertionSort
  intro left _ right _
  rfl

theorem mem_inKeyOrder {α : Type} {members : List (String × α)} {member : String × α} :
    member ∈ inKeyOrder members ↔ member ∈ members :=
  List.mem_insertionSort _

theorem render_object (members : List (String × Json)) :
    (Json.object members).render =
      "\x7b" ++ String.intercalate "," ((inKeyOrder members).map fun member =>
        Json.quote member.1 ++ ":" ++ member.2.render) ++ "\x7d" := by
  rw [Json.render, renderMembers_eq_map]
  have hsorted := inKeyOrder_map Json.render members
  rw [inKeyOrder] at hsorted
  rw [hsorted, List.map_map]
  rfl

theorem ofJson_object (members : List (String × Json)) :
    ofJson (.object members) =
      .object ((inKeyOrder members).map fun member => (member.1, ofJson member.2)) := by
  rw [ofJson, ofMembers_eq_map]
  exact congrArg JsonValue.object (inKeyOrder_map ofJson members)

mutual

/-- The same value with the members of every object in key order. -/
def ordered : Json → Json
  | .null => .null
  | .bool value => .bool value
  | .number value => .number value
  | .string value => .string value
  | .array items => .array (orderedItems items)
  | .object members => .object (inKeyOrder (orderedMembers members))

def orderedItems : List Json → List Json
  | [] => []
  | item :: rest => ordered item :: orderedItems rest

def orderedMembers : List (String × Json) → List (String × Json)
  | [] => []
  | (key, value) :: rest => (key, ordered value) :: orderedMembers rest

end

theorem ordered_array (items : List Json) : ordered (.array items) = .array (items.map ordered) := by
  rw [ordered]
  congr 1
  induction items with
  | nil => rfl
  | cons item rest ih => rw [orderedItems, ih, List.map_cons]

theorem ordered_object (members : List (String × Json)) :
    ordered (.object members) =
      .object ((inKeyOrder members).map fun member => (member.1, ordered member.2)) := by
  have hmembers : orderedMembers members =
      members.map fun member => (member.1, ordered member.2) := by
    induction members with
    | nil => rfl
    | cons member rest ih => rw [orderedMembers, ih, List.map_cons]
  rw [ordered, hmembers, inKeyOrder_map]

/-- The text is the compact one of the value in key order. -/
theorem render_eq_compact (json : Json) : json.render = (ordered json).compact := by
  induction json using Json.induct with
  | null => rfl
  | bool value => rfl
  | number value => rfl
  | string value => rfl
  | array items ih =>
      rw [Json.render, renderItems_eq_map, ordered_array, Json.compact, Json.compactItems_eq_map,
        List.map_map, List.map_congr_left ih]
      rfl
  | object members ih =>
      have hmember : ∀ member ∈ inKeyOrder members,
          Json.quote member.1 ++ ":" ++ member.2.render =
            Json.compactMember (member.1, ordered member.2) := by
        intro member hmem
        rw [ih member (mem_inKeyOrder.mp hmem)]
        rfl
      rw [render_object, ordered_object, Json.compact, Json.compactMembers_eq_map, List.map_map,
        List.map_congr_left hmember]
      rfl

/-- Members in key order whose values are in key order are written as they stand. -/
theorem render_sorted {members : List (String × Json)}
    (hsorted : members.Pairwise fun left right => left.1 ≤ right.1)
    (hvalues : ∀ member ∈ members, ordered member.2 = member.2) :
    (Json.object members).render = (Json.object members).compact := by
  have hplaces : inKeyOrder members = members := hsorted.insertionSort_eq
  have hmember : ∀ member ∈ members, (member.1, ordered member.2) = member :=
    fun member hmem => Prod.ext rfl (hvalues member hmem)
  rw [render_eq_compact, ordered_object, hplaces, List.map_congr_left hmember, List.map_id']

theorem ofTrees_eq_map (trees : List (JsonTree Double)) : ofTrees trees = trees.map ofTree := by
  induction trees with
  | nil => rfl
  | cons tree rest ih => rw [ofTrees, ih, List.map_cons]

theorem ofMemberTrees_eq_map (members : List (String × JsonTree Double)) :
    ofMemberTrees members = members.map fun member => (member.1, ofTree member.2) := by
  induction members with
  | nil => rfl
  | cons member rest ih => rw [ofMemberTrees, ih, List.map_cons]

/-- Reading in key order and ordering what was read agree. -/
theorem ofTree_ordered (json : Json) : ofTree (doubles.tree (ordered json)) = ofJson json := by
  induction json using Json.induct with
  | null => rfl
  | bool value => rfl
  | number value => rfl
  | string value => rfl
  | array items ih =>
      rw [ordered_array, JsonReader.tree, JsonReader.trees_eq_map, ofTree, ofTrees_eq_map,
        List.map_map, List.map_map, ofJson, ofItems_eq_map]
      exact congrArg JsonValue.array (List.map_congr_left ih)
  | object members ih =>
      rw [ordered_object, JsonReader.tree, JsonReader.memberTrees_eq_map, ofTree,
        ofMemberTrees_eq_map, List.map_map, List.map_map, ofJson_object]
      apply congrArg JsonValue.object
      apply List.map_congr_left
      intro member hmem
      have hvalue := ih member (mem_inKeyOrder.mp hmem)
      simp [hvalue]

/-- The compact text of a value is read as that value. -/
theorem parse_render (json : Json) : parse json.render = some (ofJson json) := by
  have hdocument := @JsonReader.parse_compact _ doubles (ordered json)
  rw [← render_eq_compact] at hdocument
  rw [parse_eq, hdocument, Option.map_some, ofTree_ordered]

/-! ## Members -/

/-- With distinct keys, the order of the members does not matter. -/
theorem find?_key_perm {α : Type} {left right : List (String × α)} (hperm : left.Perm right)
    (hnodup : (left.map Prod.fst).Nodup) (key : String) :
    left.find? (fun member => member.1 = key) = right.find? fun member => member.1 = key := by
  induction hperm with
  | nil => rfl
  | cons member _ ih =>
      rw [List.map_cons, List.nodup_cons] at hnodup
      rw [List.find?_cons, List.find?_cons, ih hnodup.2]
  | swap first second rest =>
      simp only [List.map_cons, List.nodup_cons, List.mem_cons, not_or] at hnodup
      have hne : second.1 ≠ first.1 := hnodup.1.1
      simp only [List.find?_cons]
      by_cases hfirst : first.1 = key
      · have hsecond : second.1 ≠ key := fun h => hne (h.trans hfirst.symm)
        simp [hfirst, hsecond]
      · simp [hfirst]
  | trans hleft _ ih ih' =>
      rw [ih hnodup]
      exact ih' ((hleft.map Prod.fst).nodup_iff.mp hnodup)

/-- A member is read back under its key. -/
theorem get_ofJson {members : List (String × Json)} (hnodup : (members.map Prod.fst).Nodup)
    (key : String) :
    (ofJson (.object members)).get key = ((Json.object members).get key).map ofJson := by
  have hperm : (inKeyOrder members).reverse.Perm members :=
    (List.reverse_perm _).trans (List.perm_insertionSort _ members)
  have hsame := find?_key_perm hperm
    ((hperm.map Prod.fst).nodup_iff.mpr hnodup) key
  rw [ofJson_object, JsonValue.get, Json.get, ← List.map_reverse, List.find?_map, ← hsame,
    Option.map_map, Option.map_map]
  rfl

/-! ## Lengths -/

mutual

/-- A bound on the length of the text of a value: each character of a string may
need an escape. -/
def lengthBound : Json → Nat
  | .null => 4
  | .bool _ => 5
  | .number value => (toString value).length
  | .string text => 6 * text.length + 2
  | .array items => itemsBound items + 2
  | .object members => membersBound members + 2

def itemsBound : List Json → Nat
  | [] => 0
  | item :: rest => lengthBound item + 1 + itemsBound rest

def membersBound : List (String × Json) → Nat
  | [] => 0
  | (key, value) :: rest => 6 * key.length + 3 + lengthBound value + 1 + membersBound rest

end

theorem itemsBound_eq_sum (items : List Json) :
    itemsBound items = (items.map fun item => lengthBound item + 1).sum := by
  induction items with
  | nil => rfl
  | cons item rest ih => simp [itemsBound, ih]

theorem membersBound_eq_sum (members : List (String × Json)) :
    membersBound members =
      (members.map fun member => 6 * member.1.length + 3 + lengthBound member.2 + 1).sum := by
  induction members with
  | nil => rfl
  | cons member rest ih => simp [membersBound, ih]

theorem length_quote_le (text : String) : (Json.quote text).length ≤ 6 * text.length + 2 := by
  have hescape : ∀ chars : List Char, (chars.flatMap Json.escapeChar).length ≤ 6 * chars.length := by
    intro chars
    induction chars with
    | nil => rfl
    | cons c rest ih =>
        have hchar : (Json.escapeChar c).length ≤ 6 := by
          unfold Json.escapeChar
          split_ifs <;> simp
        rw [List.flatMap_cons, List.length_append, List.length_cons]
        omega
  have hquote : (Json.quote text).length = (text.toList.flatMap Json.escapeChar).length + 2 := by
    have hmarks : "\"".length = 1 := rfl
    simp only [Json.quote, String.length_append, String.length_ofList]
    omega
  have hchars := hescape text.toList
  rw [String.length_toList] at hchars
  omega

theorem length_intercalate_le (texts : List String) :
    (String.intercalate "," texts).length ≤ (texts.map fun text => text.length + 1).sum := by
  induction texts with
  | nil => exact Nat.zero_le _
  | cons text rest ih =>
      by_cases hlast : rest = []
      · simp [hlast]
      · rw [String.intercalate_cons_of_ne_nil hlast, length_joined, List.map_cons, List.sum_cons]
        omega

theorem length_render_le (json : Json) : json.render.length ≤ lengthBound json := by
  induction json using Json.induct with
  | null => exact Nat.le_refl _
  | bool value => cases value <;> decide
  | number value => exact Nat.le_refl _
  | string text => exact length_quote_le text
  | array items ih =>
      have hitems : ∀ item ∈ items, item.render.length + 1 ≤ lengthBound item + 1 := by
        intro item hmem
        exact Nat.succ_le_succ (ih item hmem)
      have hsum := List.sum_le_sum hitems
      have hjoined := length_intercalate_le (items.map Json.render)
      rw [List.map_map] at hjoined
      rw [Json.render, renderItems_eq_map, lengthBound, itemsBound_eq_sum]
      simp only [String.length_append, Function.comp_def] at hjoined ⊢
      have hbrackets : "[".length = 1 ∧ "]".length = 1 := ⟨rfl, rfl⟩
      omega
  | object members ih =>
      have hmembers : ∀ member ∈ members,
          (Json.quote member.1 ++ ":" ++ member.2.render).length + 1 ≤
            6 * member.1.length + 3 + lengthBound member.2 + 1 := by
        intro member hmem
        have hkey := length_quote_le member.1
        have hvalue := ih member hmem
        have hcolon : ":".length = 1 := rfl
        simp only [String.length_append]
        omega
      have hsum := List.sum_le_sum hmembers
      have hjoined := length_intercalate_le ((inKeyOrder members).map fun member =>
        Json.quote member.1 ++ ":" ++ member.2.render)
      -- the sum does not depend on the order
      have hperm : ((inKeyOrder members).map fun member =>
          (Json.quote member.1 ++ ":" ++ member.2.render).length + 1).sum =
          (members.map fun member =>
            (Json.quote member.1 ++ ":" ++ member.2.render).length + 1).sum :=
        ((List.perm_insertionSort _ members).map _).sum_eq
      rw [List.map_map] at hjoined
      rw [render_object, lengthBound, membersBound_eq_sum]
      have hbraces : "\x7b".length = 1 ∧ "\x7d".length = 1 := ⟨rfl, rfl⟩
      simp only [String.length_append, Function.comp_def] at hjoined hperm hsum ⊢
      omega

end JsonText

end Foundation