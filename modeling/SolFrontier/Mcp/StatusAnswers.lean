import SolFrontier.Mcp.StatusRefs
import SolFrontier.Types.CanonicalBytes

/-! # Answers to status queries

The index of hashes only suggests an intent. Whatever it answers, a resolved
answer to a hash is one that the main store alone justifies, and two of them can
differ only over a collision among the stored rules.
-/

namespace SolFrontier.Mcp.Status

open Foundation Program Types StateStore Sidecar

/-! ## Runs -/

section

variable {store after : MainStore} {text : String} {canonicalHash : Option String}
  {resolved : ResolvedIntentRef} {result : Except StoreError IntentStatusResponse}

/-- No await of a query changes the main store. -/
theorem statusStep_store {event : Event statusFace} {next : MainStore}
    (hstep : statusStep store event next) : next = store := by
  obtain ⟨op, answer⟩ := event
  cases op with
  | sidecar => exact hstep
  | getFunding => exact hstep.2
  | getRule => exact hstep.2

theorem executes_store {α : Type} {program : Program statusFace α} {value : α}
    (hexec : Executes statusStep store program after value) : after = store := by
  have hstep : ∀ (world : MainStore) event next, world = store → statusStep world event next →
      next = store := by
    intro world event next hworld hstep
    rw [statusStep_store hstep, hworld]
  exact hexec.invariant hstep rfl

/-- The two rows that a resolved reference leads to. -/
structure Rows (store : MainStore) (resolved : ResolvedIntentRef)
    (fundingIntent : Option W5hFundingIntent) (watchRule : Option StoredWatchRule) : Prop where
  funding : store.funding.lookup resolved.intentId = .ok fundingIntent
  rule : store.rules.lookup store.json resolved.ruleId = .ok watchRule

/-- A resolved reference is answered from its rows, or the store failed. -/
theorem answerResolved_iff :
    Executes statusStep store (answerResolved text canonicalHash resolved) after result ↔
      after = store ∧ ((∃ error, result = .error error) ∨
        ∃ fundingIntent watchRule, Rows store resolved fundingIntent watchRule ∧
          result = .ok
            (if canonicalHash.all fun hash =>
                canonicalMappingMatchesMainStore hash resolved fundingIntent watchRule then
              projectStatus text resolved fundingIntent watchRule
            else unsupportedResponse text .canonicalHashInconsistent)) := by
  unfold answerResolved
  rw [ask_bind, Executes.call_iff]
  constructor
  · rintro ⟨fundingAnswer, middle, ⟨hfunding, rfl⟩, hrest⟩
    cases fundingAnswer with
    | error error =>
        obtain ⟨rfl, rfl⟩ := Executes.done_iff.mp hrest
        exact ⟨rfl, .inl ⟨error, rfl⟩⟩
    | ok fundingIntent =>
        dsimp only at hrest
        rw [ask_bind] at hrest
        obtain ⟨ruleAnswer, last, ⟨hrule, rfl⟩, hrest⟩ := Executes.call_iff.mp hrest
        cases ruleAnswer with
        | error error =>
            obtain ⟨rfl, rfl⟩ := Executes.done_iff.mp hrest
            exact ⟨rfl, .inl ⟨error, rfl⟩⟩
        | ok watchRule =>
            have hrows : Rows last resolved fundingIntent watchRule :=
              ⟨by simpa [eq_comm] using hfunding, by simpa [eq_comm] using hrule⟩
            dsimp only at hrest
            split at hrest
            next hmatches =>
              obtain ⟨rfl, rfl⟩ := Executes.done_iff.mp hrest
              exact ⟨rfl, .inr ⟨fundingIntent, watchRule, hrows, by rw [if_pos hmatches]⟩⟩
            next hmismatch =>
              obtain ⟨rfl, rfl⟩ := Executes.done_iff.mp hrest
              exact ⟨rfl, .inr ⟨fundingIntent, watchRule, hrows, by rw [if_neg hmismatch]⟩⟩
  · rintro ⟨rfl, ⟨error, rfl⟩ | ⟨fundingIntent, watchRule, hrows, rfl⟩⟩
    · exact ⟨.error error, after, ⟨.inr ⟨error, rfl⟩, rfl⟩, .done _ _⟩
    · refine ⟨.ok fundingIntent, after, ⟨.inl hrows.funding.symm, rfl⟩, ?_⟩
      dsimp only
      rw [ask_bind]
      refine Executes.call_iff.mpr ⟨.ok watchRule, after, ⟨.inl hrows.rule.symm, rfl⟩, ?_⟩
      dsimp only
      split
      · exact .done _ _
      · exact .done _ _

/-- A hash is answered as unsupported, or from rows that the mapping matches. -/
theorem query_of_hash {hash : Bytes 32} (hspelling : HashSpelling hash text)
    (hexec : Executes statusStep store (queryIntentStatus text) after result) :
    (∃ error, result = .error error) ∨ (∃ reason, result = .ok (unsupportedResponse text reason)) ∨
      ∃ resolved fundingIntent watchRule, Rows store resolved fundingIntent watchRule ∧
        canonicalMappingMatchesMainStore (hexEncode hash.1) resolved fundingIntent watchRule = true ∧
        result = .ok (projectStatus text resolved fundingIntent watchRule) := by
  unfold queryIntentStatus at hexec
  rw [canonicalHashRef_eq_some.mpr ⟨hash, hspelling, rfl⟩] at hexec
  dsimp only at hexec
  obtain ⟨middle, lookup, hlookup, hrest⟩ := Executes.bind_iff.mp hexec
  obtain rfl := executes_store hlookup
  cases lookup with
  | missing => exact .inr (.inl ⟨_, (Executes.done_iff.mp hrest).2⟩)
  | unavailable => exact .inr (.inl ⟨_, (Executes.done_iff.mp hrest).2⟩)
  | found intentId =>
      dsimp only at hrest
      split at hrest
      next resolved _ =>
        obtain ⟨_, hfailed | ⟨fundingIntent, watchRule, hrows, rfl⟩⟩ := answerResolved_iff.mp hrest
        · exact .inl hfailed
        · cases hmatches : canonicalMappingMatchesMainStore (hexEncode hash.1) resolved fundingIntent
              watchRule with
          | true =>
              exact .inr (.inr ⟨resolved, fundingIntent, watchRule, hrows, hmatches, by
                simp [hmatches]⟩)
          | false => exact .inr (.inl ⟨.canonicalHashInconsistent, by simp [hmatches]⟩)
      next => exact .inr (.inl ⟨_, (Executes.done_iff.mp hrest).2⟩)

/-- A spelled UUID is answered from its rows, without the index. -/
theorem query_of_uuid {id : Bytes 16} (hspelling : UuidSpelling id text) :
    queryIntentStatus text = answerResolved text none ⟨hexEncode id.1, id⟩ := by
  obtain ⟨hresolved, hnone⟩ := resolveUuidRef_of_spelling hspelling
  unfold queryIntentStatus
  rw [hnone, hresolved]

end

/-! ## What justifies an answer -/

/-- The main store by itself gives the hash to the intent. -/
structure Justified (store : MainStore) (hash : Bytes 32) (intentId : String) : Prop where
  rule : ∃ row stored, store.rules.get intentId = some row ∧
    rowToStored store.json row = .ok stored ∧ hexEncode stored.rule.ruleId.1 = intentId ∧
    canonicalRuleHash stored.rule = hash
  funding : ∀ row, store.funding.get intentId = some row → ∃ intent,
    rowToIntent row = .ok intent ∧ intent.intentId = intentId ∧ intent.ruleIdHex = intentId ∧
      eqIgnoreAsciiCase intent.canonicalRuleHashHex (hexEncode hash.1) = true

section

variable {store : MainStore} {hash : Bytes 32} {resolved : ResolvedIntentRef}
  {fundingIntent : Option W5hFundingIntent} {watchRule : Option StoredWatchRule}

theorem mapping_matches_iff {expected : String} :
    canonicalMappingMatchesMainStore expected resolved fundingIntent watchRule = true ↔
      ∃ rule, watchRule = some rule ∧ rule.rule.ruleId = resolved.ruleId ∧
        hexEncode rule.rule.ruleId.1 = resolved.intentId ∧
        hexEncode rule.canonicalRuleHash.1 = expected ∧
        hexEncode (canonicalRuleHash rule.rule).1 = expected ∧
        ∀ intent, fundingIntent = some intent → intent.intentId = resolved.intentId ∧
          intent.ruleIdHex = resolved.intentId ∧
          eqIgnoreAsciiCase intent.canonicalRuleHashHex expected = true := by
  unfold canonicalMappingMatchesMainStore
  cases watchRule with
  | none => simp
  | some rule =>
      cases fundingIntent with
      | none => simp
      | some intent => simp [and_assoc]

/-- Rows that the mapping matches justify the answer. -/
theorem justified_of_matches (hrows : Rows store resolved fundingIntent watchRule)
    (hmatches : canonicalMappingMatchesMainStore (hexEncode hash.1) resolved fundingIntent
      watchRule = true) : Justified store hash resolved.intentId := by
  obtain ⟨rule, rfl, hid, htext, _, hhash, hfunding⟩ := mapping_matches_iff.mp hmatches
  obtain ⟨row, hget, hstored⟩ := WatchRuleTable.lookup_eq_some.mp hrows.rule
  have hkey : ruleIdHex resolved.ruleId = resolved.intentId := by
    rw [← hid]
    exact htext
  constructor
  · exact ⟨row, rule, hkey ▸ hget, hstored, htext, Subtype.ext (hexEncode_inj hhash)⟩
  · intro fundingRow hfundingRow
    have hread := hrows.funding
    rw [W5hFundingTable.lookup, hfundingRow] at hread
    cases hintent : rowToIntent fundingRow with
    | error error => simp [hintent, Except.map] at hread
    | ok intent =>
        have hsome : fundingIntent = some intent := by
          simpa [hintent, Except.map, eq_comm] using hread
        exact ⟨intent, rfl, hfunding intent hsome⟩

end

/-! ## Equal answers -/

/-- Equal but for the reference they echo. -/
def SameAnswer (left right : IntentStatusResponse) : Prop :=
  right = { left with intentRef := right.intentRef }

theorem projectStatus_same (text other : String) (resolved : ResolvedIntentRef)
    (fundingIntent : Option W5hFundingIntent) (watchRule : Option StoredWatchRule) :
    SameAnswer (projectStatus text resolved fundingIntent watchRule)
      (projectStatus other resolved fundingIntent watchRule) := by
  cases fundingIntent with
  | none => cases watchRule <;> rfl
  | some intent => rfl

theorem resolvedIntentId_projectStatus (text : String) (resolved : ResolvedIntentRef)
    (fundingIntent : Option W5hFundingIntent) (watchRule : Option StoredWatchRule) :
    (projectStatus text resolved fundingIntent watchRule).resolvedIntentId =
      some resolved.intentId := by
  cases fundingIntent with
  | none => cases watchRule <;> rfl
  | some intent => rfl

/-- Rules of one canonical form have one id. -/
theorem ruleId_of_canonicalRuleBytes {left right : WatchRule}
    (heq : canonicalRuleBytes left = canonicalRuleBytes right) : left.ruleId = right.ruleId := by
  have hprefix : ∀ rule : WatchRule, ((canonicalRuleBytes rule).drop 1).take 16 = rule.ruleId.1 := by
    intro rule
    have hlayout : ∃ rest, canonicalRuleBytes rule = rule.schemaVersion :: (rule.ruleId.1 ++ rest) :=
      ⟨_, rfl⟩
    obtain ⟨rest, hrest⟩ := hlayout
    rw [hrest, List.drop_one, List.tail_cons, List.take_append_of_le_length (by rw [rule.ruleId.2]),
      List.take_of_length_le (by rw [rule.ruleId.2])]
  apply Subtype.ext
  rw [← hprefix left, heq, hprefix right]

/-- Two stored rules whose canonical bytes collide. -/
def StoredCollision (store : MainStore) : Prop :=
  ∃ row ∈ store.rules.rows, ∃ other ∈ store.rules.rows, ∃ stored otherStored,
    rowToStored store.json row = .ok stored ∧ rowToStored store.json other = .ok otherStored ∧
      Sha256Collision (canonicalRuleBytes stored.rule) (canonicalRuleBytes otherStored.rule)

section

variable {store after otherAfter : MainStore} {hash : Bytes 32} {text other : String}
  {response otherResponse : IntentStatusResponse}

/-- An answer to a hash says unsupported, or names an intent that the main
store justifies. -/
theorem answer_of_hash (hspelling : HashSpelling hash text)
    (hexec : Executes statusStep store (queryIntentStatus text) after (.ok response)) :
    (response.status = "unsupported_ref" ∧ response.resolvedIntentId = none) ∨
      ∃ intentId, response.resolvedIntentId = some intentId ∧ Justified store hash intentId := by
  rcases query_of_hash hspelling hexec with
    ⟨_, herror⟩ | ⟨reason, hresponse⟩ | ⟨resolved, fundingIntent, watchRule, hrows, hmatches,
      hresponse⟩
  · cases herror
  · cases hresponse
    exact .inl ⟨rfl, rfl⟩
  · cases hresponse
    exact .inr ⟨resolved.intentId, resolvedIntentId_projectStatus .., justified_of_matches hrows
      hmatches⟩

/-- What a resolved answer was made from. -/
theorem resolved_of_hash (hspelling : HashSpelling hash text)
    (hexec : Executes statusStep store (queryIntentStatus text) after (.ok response))
    (hresolved : response.resolvedIntentId ≠ none) :
    ∃ resolved fundingIntent rule row, Rows store resolved fundingIntent (some rule) ∧
      response = projectStatus text resolved fundingIntent (some rule) ∧
      resolved = ⟨hexEncode rule.rule.ruleId.1, rule.rule.ruleId⟩ ∧
      canonicalRuleHash rule.rule = hash ∧ row ∈ store.rules.rows ∧
      rowToStored store.json row = .ok rule := by
  rcases query_of_hash hspelling hexec with
    ⟨_, herror⟩ | ⟨reason, hresponse⟩ | ⟨resolved, fundingIntent, watchRule, hrows, hmatches,
      hresponse⟩
  · cases herror
  · cases hresponse
    exact absurd rfl hresolved
  · cases hresponse
    obtain ⟨rule, rfl, hid, htext, _, hhash, _⟩ := mapping_matches_iff.mp hmatches
    obtain ⟨row, hget, hstored⟩ := WatchRuleTable.lookup_eq_some.mp hrows.rule
    refine ⟨resolved, fundingIntent, rule, row, hrows, rfl, ?_, Subtype.ext (hexEncode_inj hhash),
      Table.mem_of_get hget, hstored⟩
    rw [htext, hid]

/-- Two resolved answers to one hash agree, whatever the index answered, unless
stored rules collide. -/
theorem answers_agree (hspelling : HashSpelling hash text) (hother : HashSpelling hash other)
    (hexec : Executes statusStep store (queryIntentStatus text) after (.ok response))
    (hresolved : response.resolvedIntentId ≠ none)
    (hexecOther : Executes statusStep store (queryIntentStatus other) otherAfter
      (.ok otherResponse))
    (hresolvedOther : otherResponse.resolvedIntentId ≠ none) :
    SameAnswer response otherResponse ∨ StoredCollision store := by
  obtain ⟨_, fundingIntent, rule, row, hrows, rfl, rfl, hhash, hmem, hstored⟩ :=
    resolved_of_hash hspelling hexec hresolved
  obtain ⟨_, otherIntent, otherRule, otherRow, hotherRows, rfl, rfl, hotherHash, hotherMem,
    hotherStored⟩ := resolved_of_hash hother hexecOther hresolvedOther
  by_cases hbytes : canonicalRuleBytes rule.rule = canonicalRuleBytes otherRule.rule
  · have hid := ruleId_of_canonicalRuleBytes hbytes
    have hfunding := hrows.funding
    have hrule := hrows.rule
    rw [hid, hotherRows.funding] at hfunding
    rw [hid, hotherRows.rule] at hrule
    cases hfunding
    cases hrule
    left
    exact projectStatus_same ..
  · right
    exact ⟨row, hmem, otherRow, hotherMem, rule, otherRule, hstored, hotherStored, hbytes,
      hhash.trans hotherHash.symm⟩

/-- Spellings of one UUID have the same answers. -/
theorem answers_of_uuid {id : Bytes 16} (hspelling : UuidSpelling id text)
    (hother : UuidSpelling id other) {result : Except StoreError IntentStatusResponse}
    (hexec : Executes statusStep store (queryIntentStatus text) after result) :
    ∃ otherResult, Executes statusStep store (queryIntentStatus other) after otherResult ∧
      ((∃ error, result = .error error ∧ otherResult = .error error) ∨
        ∃ response otherResponse, result = .ok response ∧ otherResult = .ok otherResponse ∧
          SameAnswer response otherResponse) := by
  rw [query_of_uuid hspelling] at hexec
  obtain ⟨rfl, ⟨error, rfl⟩ | ⟨fundingIntent, watchRule, hrows, rfl⟩⟩ :=
    answerResolved_iff.mp hexec
  · refine ⟨.error error, ?_, .inl ⟨error, rfl, rfl⟩⟩
    rw [query_of_uuid hother]
    exact answerResolved_iff.mpr ⟨rfl, .inl ⟨error, rfl⟩⟩
  · refine ⟨.ok (projectStatus other ⟨hexEncode id.1, id⟩ fundingIntent watchRule), ?_, .inr
      ⟨_, _, rfl, rfl, projectStatus_same ..⟩⟩
    rw [query_of_uuid hother]
    exact answerResolved_iff.mpr ⟨rfl, .inr ⟨fundingIntent, watchRule, hrows, rfl⟩⟩

end

/-- The index is never trusted. Whatever the sidecar answers, a hash resolves
only to an intent that the main store justifies, two resolved answers agree
unless stored rules collide, and all spellings of a UUID have the same answers. -/
theorem index_never_trusted (store : MainStore) :
    (∀ hash text after response, HashSpelling hash text →
      Executes statusStep store (queryIntentStatus text) after (.ok response) →
      (response.status = "unsupported_ref" ∧ response.resolvedIntentId = none) ∨
        ∃ intentId, response.resolvedIntentId = some intentId ∧ Justified store hash intentId) ∧
    (∀ hash text other after otherAfter response otherResponse, HashSpelling hash text →
      HashSpelling hash other →
      Executes statusStep store (queryIntentStatus text) after (.ok response) →
      response.resolvedIntentId ≠ none →
      Executes statusStep store (queryIntentStatus other) otherAfter (.ok otherResponse) →
      otherResponse.resolvedIntentId ≠ none →
      SameAnswer response otherResponse ∨ StoredCollision store) ∧
    (∀ id text other after result, UuidSpelling id text → UuidSpelling id other →
      Executes statusStep store (queryIntentStatus text) after result →
      ∃ otherResult, Executes statusStep store (queryIntentStatus other) after otherResult ∧
        ((∃ error, result = .error error ∧ otherResult = .error error) ∨
          ∃ response otherResponse, result = .ok response ∧ otherResult = .ok otherResponse ∧
            SameAnswer response otherResponse)) := by
  refine ⟨?_, ?_, ?_⟩
  · intro hash text after response hspelling hexec
    exact answer_of_hash hspelling hexec
  · intro hash text other after otherAfter response otherResponse hspelling hother hexec hresolved
      hexecOther hresolvedOther
    exact answers_agree hspelling hother hexec hresolved hexecOther hresolvedOther
  · intro id text other after result hspelling hother hexec
    exact answers_of_uuid hspelling hother hexec

end SolFrontier.Mcp.Status
