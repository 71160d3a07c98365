import SolFrontier.Foundation.JsonLexemes

/-! # JSON documents

The grammar of JSON over any reading of numbers and of surrogates. The compact
text of a value, with its members in the order given, is read back as that
value whatever follows it.
-/

namespace Foundation

/-- A document as its text has it, members in order and repeated keys included. -/
inductive JsonTree (ν : Type) where
  | null
  | bool (value : Bool)
  | number (value : ν)
  | string (value : String)
  | array (items : List (JsonTree ν))
  | object (members : List (String × JsonTree ν))
  deriving Inhabited

/-- What readers of JSON differ in: the value of a number, and the characters of
a string with half a surrogate pair. -/
structure JsonReader (ν : Type) where
  number : List Char → Option (ν × List Char)
  chars : List Nat → Option (List Char)
  ofInt : ℤ → ν
  number_int : ∀ (value : ℤ) (rest : List Char), JsonText.EndsNumber rest →
    number ((toString value).toList ++ rest) = some (ofInt value, rest)
  chars_toNat : ∀ text : List Char, chars (text.map Char.toNat) = some text

namespace Json

mutual

/-- The compact text, members in the order given. -/
def compact : Json → String
  | null => "null"
  | bool value => if value then "true" else "false"
  | number value => toString value
  | string value => quote value
  | array items => "[" ++ String.intercalate "," (compactItems items) ++ "]"
  | object members => "\x7b" ++ String.intercalate "," (compactMembers members) ++ "\x7d"

def compactItems : List Json → List String
  | [] => []
  | item :: rest => item.compact :: compactItems rest

def compactMembers : List (String × Json) → List String
  | [] => []
  | (key, value) :: rest => (quote key ++ ":" ++ value.compact) :: compactMembers rest

end

/-- One member of an object. -/
def compactMember (member : String × Json) : String :=
  quote member.1 ++ ":" ++ member.2.compact

theorem compactItems_eq_map (items : List Json) : compactItems items = items.map compact := by
  induction items with
  | nil => rfl
  | cons item rest ih => simp [compactItems, ih]

theorem compactMembers_eq_map (members : List (String × Json)) :
    compactMembers members = members.map compactMember := by
  induction members with
  | nil => rfl
  | cons member rest ih => simp [compactMembers, compactMember, ih]

end Json

namespace JsonReader

open JsonText

variable {ν : Type} (reader : JsonReader ν)

/-- The rest of a string after its opening quote. -/
def string (text : List Char) : Option (String × List Char) := do
  let (codes, rest) ← readCodes text
  let chars ← reader.chars codes
  some (String.ofList chars, rest)

mutual

/-- The value at the start of a text, in a number of calls. -/
def value : Nat → List Char → Option (JsonTree ν × List Char)
  | 0, _ => none
  | calls + 1, text =>
      match skipSpace text with
      | 'n' :: 'u' :: 'l' :: 'l' :: rest => some (.null, rest)
      | 't' :: 'r' :: 'u' :: 'e' :: rest => some (.bool true, rest)
      | 'f' :: 'a' :: 'l' :: 's' :: 'e' :: rest => some (.bool false, rest)
      | '"' :: rest => (reader.string rest).map fun (value, rest) => (.string value, rest)
      | '[' :: rest =>
          match skipSpace rest with
          | ']' :: rest => some (.array [], rest)
          | rest => (items calls rest).map fun (items, rest) => (.array items, rest)
      | '\x7b' :: rest =>
          match skipSpace rest with
          | '\x7d' :: rest => some (.object [], rest)
          | rest => (members calls rest).map fun (members, rest) => (.object members, rest)
      | text => (reader.number text).map fun (value, rest) => (.number value, rest)

/-- The items of an array and its closing bracket. -/
def items : Nat → List Char → Option (List (JsonTree ν) × List Char)
  | 0, _ => none
  | calls + 1, text => do
      let (item, rest) ← value calls text
      match skipSpace rest with
      | ',' :: rest =>
          let (items, rest) ← items calls rest
          some (item :: items, rest)
      | ']' :: rest => some ([item], rest)
      | _ => none

/-- The members of an object and its closing brace. -/
def members : Nat → List Char → Option (List (String × JsonTree ν) × List Char)
  | 0, _ => none
  | calls + 1, text =>
      match skipSpace text with
      | '"' :: rest => do
          let (key, rest) ← reader.string rest
          match skipSpace rest with
          | ':' :: rest =>
              let (value, rest) ← value calls rest
              match skipSpace rest with
              | ',' :: rest =>
                  let (members, rest) ← members calls rest
                  some ((key, value) :: members, rest)
              | '\x7d' :: rest => some ([(key, value)], rest)
              | _ => none
          | _ => none
      | _ => none

end

/-- Read a whole text. There are at most two calls for each character. -/
def parse (text : String) : Option (JsonTree ν) := do
  let (value, rest) ← reader.value (2 * text.length + 1) text.toList
  if skipSpace rest = [] then some value else none

mutual

/-- The document that the compact text of a value stands for. -/
def tree : Json → JsonTree ν
  | .null => .null
  | .bool value => .bool value
  | .number value => .number (reader.ofInt value)
  | .string value => .string value
  | .array items => .array (trees items)
  | .object members => .object (memberTrees members)

def trees : List Json → List (JsonTree ν)
  | [] => []
  | item :: rest => tree item :: trees rest

def memberTrees : List (String × Json) → List (String × JsonTree ν)
  | [] => []
  | (key, value) :: rest => (key, tree value) :: memberTrees rest

end

theorem trees_eq_map (items : List Json) : reader.trees items = items.map reader.tree := by
  induction items with
  | nil => rfl
  | cons item rest ih => simp [trees, ih]

theorem memberTrees_eq_map (members : List (String × Json)) :
    reader.memberTrees members = members.map fun member => (member.1, reader.tree member.2) := by
  induction members with
  | nil => rfl
  | cons member rest ih => simp [memberTrees, ih]

/-! ## Reading back what was written -/

theorem string_escaped (text : String) (rest : List Char) :
    reader.string (text.toList.flatMap Json.escapeChar ++ '"' :: rest) = some (text, rest) := by
  simp [string, readCodes_escaped, reader.chars_toNat]

/-- The text of a value is read as that value, whatever follows. -/
def ReadsBack (json : Json) : Prop :=
  ∀ (calls : Nat) (rest : List Char), EndsNumber rest → 2 * json.compact.length < calls →
    reader.value calls (json.compact.toList ++ rest) = some (reader.tree json, rest)

variable {reader}

/-- The budget of a value always allows its own call. -/
theorem ReadsBack.of_succ {json : Json}
    (hread : ∀ (calls : Nat) (rest : List Char), EndsNumber rest →
      2 * json.compact.length ≤ calls →
      reader.value (calls + 1) (json.compact.toList ++ rest) = some (reader.tree json, rest)) :
    reader.ReadsBack json := by
  intro calls rest hrest hcalls
  cases calls with
  | zero => exact absurd hcalls (Nat.not_lt_zero _)
  | succ calls => exact hread calls rest hrest (Nat.le_of_lt_succ hcalls)

theorem value_number {calls : Nat} {c : Char} {rest : List Char}
    (hc : c.isDigit = true ∨ c = '-') :
    reader.value (calls + 1) (c :: rest) =
      (reader.number (c :: rest)).map fun (value, rest) => (.number value, rest) := by
  have hother : ∀ d ∈ ['n', 't', 'f', '"', '[', '\x7b', ' ', '\t', '\n', '\r'], c ≠ d := by
    rintro d hd rfl
    have hall : ∀ d ∈ ['n', 't', 'f', '"', '[', '\x7b', ' ', '\t', '\n', '\r'],
        ¬ (d.isDigit = true ∨ d = '-') := by simp
    exact hall c hd hc
  simp at hother
  have hspace : isSpace c = false := by simp [isSpace, hother]
  rw [value, skipSpace_cons hspace]
  simp [hother]

section Joined

variable {calls : Nat} {text rest : List Char}

theorem items_last {item : Json} (hitem : reader.ReadsBack item)
    (hcalls : 2 * item.compact.length < calls) :
    reader.items (calls + 1) (item.compact.toList ++ ']' :: rest) =
      some ([reader.tree item], rest) := by
  have hread := hitem calls (']' :: rest) (endsNumber_cons (by simp) _) hcalls
  simp [items, hread, skipSpace, isSpace]

theorem items_more {item : Json} {others : List (JsonTree ν)} (hitem : reader.ReadsBack item)
    (hcalls : 2 * item.compact.length < calls)
    (hmore : reader.items calls text = some (others, rest)) :
    reader.items (calls + 1) (item.compact.toList ++ ',' :: text) =
      some (reader.tree item :: others, rest) := by
  have hread := hitem calls (',' :: text) (endsNumber_cons (by simp) _) hcalls
  simp [items, hread, skipSpace, isSpace, hmore]

theorem members_last {member : String × Json} (hvalue : reader.ReadsBack member.2)
    (hcalls : 2 * member.2.compact.length < calls) :
    reader.members (calls + 1) ((Json.compactMember member).toList ++ '\x7d' :: rest) =
      some ([(member.1, reader.tree member.2)], rest) := by
  have hread := hvalue calls ('\x7d' :: rest) (endsNumber_cons (by simp) _) hcalls
  simp [members, Json.compactMember, toList_quote, string_escaped, hread, skipSpace, isSpace]

theorem members_more {member : String × Json} {others : List (String × JsonTree ν)}
    (hvalue : reader.ReadsBack member.2) (hcalls : 2 * member.2.compact.length < calls)
    (hmore : reader.members calls text = some (others, rest)) :
    reader.members (calls + 1) ((Json.compactMember member).toList ++ ',' :: text) =
      some ((member.1, reader.tree member.2) :: others, rest) := by
  have hread := hvalue calls (',' :: text) (endsNumber_cons (by simp) _) hcalls
  simp [members, Json.compactMember, toList_quote, string_escaped, hread, skipSpace, isSpace,
    hmore]

end Joined

/-- Items between brackets, each of which reads back. -/
theorem items_joined {values : List Json} (hne : values ≠ [])
    (hvalues : ∀ item ∈ values, reader.ReadsBack item) (calls : Nat) (rest : List Char)
    (hcalls : 2 * (String.intercalate "," (values.map Json.compact)).length + 1 < calls) :
    reader.items calls ((String.intercalate "," (values.map Json.compact)).toList ++ ']' :: rest) =
      some (values.map reader.tree, rest) := by
  induction values generalizing calls with
  | nil => exact absurd rfl hne
  | cons item others ih =>
      obtain ⟨calls, rfl⟩ : ∃ fewer, calls = fewer + 1 := ⟨calls - 1, by omega⟩
      have hitem : reader.ReadsBack item := hvalues item (by simp)
      by_cases hlast : others = []
      · subst hlast
        rw [List.map_singleton, String.intercalate_singleton] at hcalls ⊢
        exact items_last hitem (by omega)
      · have hmapped : others.map Json.compact ≠ [] := by simpa using hlast
        rw [List.map_cons, String.intercalate_cons_of_ne_nil hmapped] at hcalls ⊢
        rw [length_joined] at hcalls
        have hmore := ih hlast (fun other hmem => hvalues other (by simp [hmem])) calls (by omega)
        rw [toList_joined]
        exact items_more hitem (by omega) hmore

/-- Members between braces, each with a value that reads back. -/
theorem members_joined {pairs : List (String × Json)} (hne : pairs ≠ [])
    (hpairs : ∀ member ∈ pairs, reader.ReadsBack member.2) (calls : Nat) (rest : List Char)
    (hcalls : 2 * (String.intercalate "," (pairs.map Json.compactMember)).length + 1 < calls) :
    reader.members calls
        ((String.intercalate "," (pairs.map Json.compactMember)).toList ++ '\x7d' :: rest) =
      some (pairs.map fun member => (member.1, reader.tree member.2), rest) := by
  have hshorter (member : String × Json) :
      member.2.compact.length ≤ (Json.compactMember member).length := by
    simp only [Json.compactMember, String.length_append]
    omega
  induction pairs generalizing calls with
  | nil => exact absurd rfl hne
  | cons member others ih =>
      obtain ⟨calls, rfl⟩ : ∃ fewer, calls = fewer + 1 := ⟨calls - 1, by omega⟩
      have hvalue : reader.ReadsBack member.2 := hpairs member (by simp)
      have hlength := hshorter member
      by_cases hlast : others = []
      · subst hlast
        rw [List.map_singleton, String.intercalate_singleton] at hcalls ⊢
        exact members_last hvalue (by omega)
      · have hmapped : others.map Json.compactMember ≠ [] := by simpa using hlast
        rw [List.map_cons, String.intercalate_cons_of_ne_nil hmapped] at hcalls ⊢
        rw [length_joined] at hcalls
        have hmore := ih hlast (fun other hmem => hpairs other (by simp [hmem])) calls (by omega)
        rw [toList_joined]
        exact members_more hvalue (by omega) hmore

/-- A written value starts with itself, not with a space or a bracket that closes. -/
theorem compact_head (json : Json) :
    ∃ c tail, json.compact.toList = c :: tail ∧ isSpace c = false ∧ c ≠ ']' := by
  cases json with
  | null => exact ⟨'n', _, rfl, by decide, by decide⟩
  | bool value => cases value <;> exact ⟨_, _, rfl, by decide, by decide⟩
  | number value =>
      obtain ⟨c, tail, htext, hc⟩ := toString_int_head value
      have hall : ∀ d ∈ [' ', '\t', '\n', '\r', ']'], ¬ (d.isDigit = true ∨ d = '-') := by simp
      have hne : ∀ d ∈ [' ', '\t', '\n', '\r', ']'], c ≠ d := by
        rintro d hd rfl
        exact hall c hd hc
      simp at hne
      exact ⟨c, tail, htext, by simp [isSpace, hne], hne.2.2.2.2⟩
  | string value => exact ⟨'"', _, toList_quote value, by decide, by decide⟩
  | array items =>
      have htext := toList_enclosed '[' ']' (String.intercalate "," (Json.compactItems items)) []
      rw [List.append_nil] at htext
      exact ⟨_, _, htext, by decide, by decide⟩
  | object members =>
      have htext := toList_enclosed '\x7b' '\x7d'
        (String.intercalate "," (Json.compactMembers members)) []
      rw [List.append_nil] at htext
      exact ⟨_, _, htext, by decide, by decide⟩

theorem readsBack_array {values : List Json} (hvalues : ∀ item ∈ values, reader.ReadsBack item) :
    reader.ReadsBack (.array values) := by
  apply ReadsBack.of_succ
  intro calls rest _ hcalls
  have htext : (Json.array values).compact = String.singleton '[' ++
      String.intercalate "," (values.map Json.compact) ++ String.singleton ']' := by
    rw [Json.compact, Json.compactItems_eq_map]
    rfl
  rw [htext, length_enclosed] at hcalls
  rw [htext, toList_enclosed, tree, trees_eq_map]
  cases values with
  | nil => simp [value, skipSpace, isSpace]
  | cons item others =>
      obtain ⟨c, tail, hc, hspace, hclosing⟩ := compact_head item
      have hread := items_joined (by simp) hvalues calls rest (by omega)
      obtain ⟨more, hhead⟩ := intercalate_head hc (others.map Json.compact) (']' :: rest)
      rw [List.map_cons, hhead] at hread ⊢
      rw [value, skipSpace_cons (by decide)]
      simp [skipSpace_cons hspace, hclosing, hread]

theorem readsBack_object {pairs : List (String × Json)}
    (hpairs : ∀ member ∈ pairs, reader.ReadsBack member.2) : reader.ReadsBack (.object pairs) := by
  apply ReadsBack.of_succ
  intro calls rest _ hcalls
  have htext : (Json.object pairs).compact = String.singleton '\x7b' ++
      String.intercalate "," (pairs.map Json.compactMember) ++ String.singleton '\x7d' := by
    rw [Json.compact, Json.compactMembers_eq_map]
    rfl
  rw [htext, length_enclosed] at hcalls
  rw [htext, toList_enclosed, tree, memberTrees_eq_map]
  cases pairs with
  | nil => simp [value, skipSpace, isSpace]
  | cons member others =>
      have hread := members_joined (by simp) hpairs calls rest (by omega)
      have hquote : (Json.compactMember member).toList = '"' ::
          (member.1.toList.flatMap Json.escapeChar ++ '"' :: ':' :: member.2.compact.toList) := by
        simp [Json.compactMember, toList_quote]
      obtain ⟨more, hhead⟩ := intercalate_head hquote (others.map Json.compactMember)
        ('\x7d' :: rest)
      rw [List.map_cons, hhead] at hread ⊢
      rw [value, skipSpace_cons (by decide)]
      simp [skipSpace_cons, isSpace, hread]

theorem readsBack (json : Json) : reader.ReadsBack json := by
  induction json using Json.induct with
  | null =>
      apply ReadsBack.of_succ
      intro calls rest _ _
      simp [Json.compact, value, skipSpace, isSpace, tree]
  | bool bit =>
      apply ReadsBack.of_succ
      intro calls rest _ _
      cases bit <;> simp [Json.compact, value, skipSpace, isSpace, tree]
  | number integer =>
      apply ReadsBack.of_succ
      intro calls rest hrest _
      obtain ⟨c, tail, htext, hc⟩ := toString_int_head integer
      rw [Json.compact, htext, List.cons_append, value_number hc, ← List.cons_append, ← htext,
        reader.number_int integer rest hrest]
      rfl
  | string text =>
      apply ReadsBack.of_succ
      intro calls rest _ _
      rw [Json.compact, toList_quote]
      simp [value, skipSpace, isSpace, string_escaped, tree]
  | array values ih => exact readsBack_array ih
  | object pairs ih => exact readsBack_object ih

/-- The compact text of a value is read as that value. -/
theorem parse_compact (json : Json) : reader.parse json.compact = some (reader.tree json) := by
  have hread := @readsBack _ reader json (2 * json.compact.length + 1) []
    endsNumber_nil (by omega)
  rw [List.append_nil] at hread
  unfold parse
  rw [hread]
  rfl

/-! ## Distinct texts -/

theorem eq_of_map_eq_map {α β : Type} {f : α → β} {left right : List α}
    (hinj : ∀ first ∈ left, ∀ second, f first = f second → first = second)
    (heq : left.map f = right.map f) : left = right := by
  induction left generalizing right with
  | nil => exact (List.map_eq_nil_iff.mp heq.symm).symm
  | cons first rest ih =>
      obtain ⟨second, others, rfl, hsecond, hothers⟩ := List.map_eq_cons_iff.mp heq.symm
      rw [hinj first (by simp) second hsecond.symm,
        ih (fun item hmem => hinj item (by simp [hmem])) hothers.symm]

/-- A reader that tells integers apart tells values apart. -/
theorem tree_injective (hofInt : Function.Injective reader.ofInt) :
    Function.Injective reader.tree := by
  intro left
  induction left using Json.induct with
  | null =>
      intro right heq
      cases right <;> simp_all [tree]
  | bool value =>
      intro right heq
      cases right <;> simp_all [tree]
  | number value =>
      intro right heq
      cases right <;> simp_all [tree, hofInt.eq_iff]
  | string value =>
      intro right heq
      cases right <;> simp_all [tree]
  | array items ih =>
      intro right heq
      cases right with
      | array others =>
          simp only [tree, trees_eq_map, JsonTree.array.injEq] at heq
          have hitem : ∀ item ∈ items, ∀ other, reader.tree item = reader.tree other →
              item = other :=
            fun item hmem other hsame => ih item hmem hsame
          rw [eq_of_map_eq_map hitem heq]
      | _ => simp [tree] at heq
  | object members ih =>
      intro right heq
      cases right with
      | object others =>
          simp only [tree, memberTrees_eq_map, JsonTree.object.injEq] at heq
          have hmember : ∀ member ∈ members, ∀ other : String × Json,
              (member.1, reader.tree member.2) = (other.1, reader.tree other.2) →
                member = other := by
            intro member hmem other hsame
            rw [Prod.mk.injEq] at hsame
            exact Prod.ext hsame.1 (ih member hmem hsame.2)
          rw [eq_of_map_eq_map hmember heq]
      | _ => simp [tree] at heq

theorem some_joinCodes_toNat (text : List Char) :
    some (joinCodes (text.map Char.toNat)) = some text :=
  congrArg some (joinCodes_toNat text)

/-- Numbers read exactly, half a surrogate pair as a replacement character. -/
def exact : JsonReader ℚ where
  number := readNumber
  chars codes := some (joinCodes codes)
  ofInt value := value
  number_int value _ hrest := readNumber_int value hrest
  chars_toNat := some_joinCodes_toNat

end JsonReader

/-- Values with one compact text are one value. -/
theorem Json.compact_injective : Function.Injective Json.compact := by
  intro left right heq
  have hread := @JsonReader.parse_compact _ .exact left
  rw [heq, JsonReader.parse_compact, Option.some.injEq] at hread
  exact (JsonReader.tree_injective Int.cast_injective hread).symm

end Foundation
