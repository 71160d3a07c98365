import SolFrontier.Foundation.Repository
import SolFrontier.Foundation.Uuid
import SolFrontier.StateStore.Errors
import SolFrontier.StateStore.PendingJupiter
import SolFrontier.Types.PolicyJson
import SolFrontier.Types.Swap

/-! # Reading swap intents back

The fields of an intent travel as integers, as texts and as JSON, and are put
together again by hand. All of them come back but the creation time: the row
holds the clock's reading at the insertion in its place.
-/

namespace SolFrontier.StateStore

open Foundation Types

/-! ## Rows -/

/-- A row as it is handed out. -/
structure StoredJupiterIntent where
  intent : SwapIntent
  requestId : Option String
  state : String
  policyVerdict : Option PolicyVerdict
  preview : Option SwapPreview
  lastError : Option String
  createdAt : DateTime
  updatedAt : DateTime
  deriving DecidableEq, Repr

def parseNetwork : String → Option SolanaNetwork
  | "mainnet" | "mainnet-beta" => some .mainnetBeta
  | "devnet" => some .devnet
  | "testnet" => some .testnet
  | "localnet" | "localhost" => some .localnet
  | _ => none

theorem parseNetwork_networkStr (network : SolanaNetwork) :
    parseNetwork (networkStr network) = some network := by
  cases network <;> rfl

/-- A text that a UUID is written to. -/
def IsUuid (text : String) : Prop := ∃ id, Uuid.hyphenated id = text

/-- The UUID of a text, as the text it is written to. -/
def parseUuidText (text : String) : Option String := (Uuid.parseStr text).map Uuid.hyphenated

theorem parseUuidText_of_isUuid {text : String} (huuid : IsUuid text) : parseUuidText text = some text := by
  obtain ⟨id, rfl⟩ := huuid
  rw [parseUuidText, Uuid.parseStr_hyphenated, Option.map_some]

/-- What libraries contribute: the texts of moments, and the complaint about a
text that is no UUID. -/
structure JupiterTexts where
  moments : DateTimeText
  uuidError : String → String

/-- A value, or a failed integrity check. -/
def orCorrupt {α : Type} (value : Option α) (message : String) : Except StoreError α :=
  match value with
  | some value => .ok value
  | none => .error (.integrityCheckFailed message)

theorem orCorrupt_some {α : Type} (value : α) (message : String) :
    orCorrupt (some value) message = .ok value :=
  rfl

/-- `serde_json::from_str`. -/
def fromJson {α : Type} (format : Format α) (text : String) : Except StoreError α :=
  match format.ofText text with
  | some value => .ok value
  | none => .error .serialization

/-- `Option::transpose`. -/
def transpose {α : Type} : Option (Except StoreError α) → Except StoreError (Option α)
  | none => .ok none
  | some (.ok value) => .ok (some value)
  | some (.error error) => .error error

theorem transpose_map {α : Type} {value : Option α} {step : α → Except StoreError α}
    (hstep : ∀ inner ∈ value, step inner = .ok inner) : transpose (value.map step) = .ok value := by
  cases value with
  | none => rfl
  | some inner =>
      rw [Option.map_some, hstep inner rfl]
      rfl

/-- A column of JSON gives back what was written to it. -/
theorem transpose_fromJson {α : Type} {format : Format α} (value : Option α)
    (hkeeps : ∀ value, format.Keeps value) :
    transpose ((value.map format.toText).map (fromJson format)) = .ok value := by
  cases value with
  | none => rfl
  | some inner => simp [fromJson, transpose, Format.ofText_toText (hkeeps inner)]

section Reads

variable (texts : JupiterTexts)

def JupiterRow.rowToStored (row : JupiterRow) : Except StoreError StoredJupiterIntent := do
  let intentId ← orCorrupt (parseUuidText row.intentId)
    ("invalid intent_id '" ++ row.intentId ++ "': " ++ texts.uuidError row.intentId)
  let sessionId ← orCorrupt (parseUuidText row.sessionId)
    ("invalid session_id '" ++ row.sessionId ++ "': " ++ texts.uuidError row.sessionId)
  let requestId ← transpose (row.requestId.map fun text =>
    orCorrupt (parseUuidText text) ("invalid request_id: " ++ texts.uuidError text))
  let network ← orCorrupt (parseNetwork row.network) ("unknown network '" ++ row.network ++ "'")
  let createdAt ← orCorrupt (DateTime.ofTimestamp row.createdAt)
    ("invalid created_at " ++ toString row.createdAt)
  let updatedAt ← orCorrupt (DateTime.ofTimestamp row.updatedAt)
    ("invalid updated_at " ++ toString row.updatedAt)
  let intent : SwapIntent :=
    { id := intentId
      sessionId
      walletPubkey := row.walletPubkey
      network
      inputMint := row.inputMint
      outputMint := row.outputMint
      inputAmount := row.inputAmount.toUInt64
      slippageBps := row.slippageBps.toUInt64.toUInt16
      description := row.description.getD ""
      -- The intent takes the time of its row.
      createdAt }
  let policyVerdict ← transpose (row.policyVerdictJson.map (fromJson PolicyVerdict.format))
  let preview ← transpose (row.previewJson.map (fromJson (SwapPreview.format texts.moments)))
  .ok
    { intent
      requestId
      state := row.state
      policyVerdict
      preview
      lastError := row.lastError
      createdAt
      updatedAt }

namespace JupiterTable

def getIntent (table : JupiterTable) (intentId : String) :
    Except StoreError (Option StoredJupiterIntent) :=
  transpose ((table.get intentId).map (JupiterRow.rowToStored texts))

/-- Several rows may hold one request id; the first is taken. -/
def getByRequestId (table : JupiterTable) (requestId : String) :
    Except StoreError (Option StoredJupiterIntent) :=
  transpose ((table.rows.find? fun row => row.requestId = some requestId).map (JupiterRow.rowToStored texts))

end JupiterTable

end Reads

/-! ## Insertions -/

/-- What an insertion is given, and the clock's reading in it. -/
structure JupiterInsertion where
  intent : SwapIntent
  requestId : Option String
  state : String
  policyVerdict : Option PolicyVerdict
  preview : Option SwapPreview
  now : Int64
  intentUuid : IsUuid intent.id
  sessionUuid : IsUuid intent.sessionId
  requestUuid : ∀ text ∈ requestId, IsUuid text
  clock : InCalendar now

namespace JupiterInsertion

/-- The whole second of the clock. -/
def clockTime (insertion : JupiterInsertion) : DateTime where
  seconds := insertion.now
  nanos := 0
  inCalendar := insertion.clock
  inSecond := .inl (by decide)

variable (texts : JupiterTexts)

def call (insertion : JupiterInsertion) : JupiterCall :=
  (.insert insertion.intent insertion.requestId insertion.state
    (insertion.policyVerdict.map PolicyVerdict.format.toText)
    (insertion.preview.map (SwapPreview.format texts.moments).toText), insertion.now)

def row (insertion : JupiterInsertion) : JupiterRow where
  intentId := insertion.intent.id
  sessionId := insertion.intent.sessionId
  requestId := insertion.requestId
  walletPubkey := insertion.intent.walletPubkey
  network := networkStr insertion.intent.network
  inputMint := insertion.intent.inputMint
  outputMint := insertion.intent.outputMint
  inputAmount := insertion.intent.inputAmount.toInt64
  slippageBps := insertion.intent.slippageBps.toUInt64.toInt64
  description := some insertion.intent.description
  state := insertion.state
  policyVerdictJson := insertion.policyVerdict.map PolicyVerdict.format.toText
  previewJson := insertion.preview.map (SwapPreview.format texts.moments).toText
  lastError := none
  createdAt := insertion.now
  updatedAt := insertion.now

/-- What is read back: the intent with the time of its insertion. -/
def stored (insertion : JupiterInsertion) : StoredJupiterIntent where
  intent := { insertion.intent with createdAt := insertion.clockTime }
  requestId := insertion.requestId
  state := insertion.state
  policyVerdict := insertion.policyVerdict
  preview := insertion.preview
  lastError := none
  createdAt := insertion.clockTime
  updatedAt := insertion.clockTime

theorem statements_call (insertion : JupiterInsertion) :
    (insertion.call texts).statements = [.single (.insert (insertion.row texts))] :=
  rfl

theorem ofTimestamp_now (insertion : JupiterInsertion) :
    DateTime.ofTimestamp insertion.now = some insertion.clockTime :=
  insertion.clockTime.ofCounts_self

theorem rowToStored_row (insertion : JupiterInsertion) :
    (insertion.row texts).rowToStored texts = .ok insertion.stored := by
  have hintent := parseUuidText_of_isUuid insertion.intentUuid
  have hsession := parseUuidText_of_isUuid insertion.sessionUuid
  have hrequest : transpose (insertion.requestId.map fun text => orCorrupt (parseUuidText text)
      ("invalid request_id: " ++ texts.uuidError text)) = .ok insertion.requestId := by
    apply transpose_map
    intro text hmem
    rw [parseUuidText_of_isUuid (insertion.requestUuid text hmem), orCorrupt_some]
  have hverdict := transpose_fromJson insertion.policyVerdict PolicyVerdict.keeps
  have hpreview := transpose_fromJson insertion.preview (SwapPreview.keeps texts.moments)
  simp only [JupiterRow.rowToStored, row, hintent, hsession, hrequest, parseNetwork_networkStr,
    ofTimestamp_now, hverdict, hpreview, orCorrupt_some, ok_bind, UInt64.toUInt64_toInt64,
    UInt16.toUInt16_toUInt64, Option.getD_some]
  rfl

end JupiterInsertion

/-! ## Runs of insertions -/

section Runs

variable (texts : JupiterTexts)

/-- The table after insertions, one after another. -/
def jupiterInserted (insertions : List JupiterInsertion) : JupiterTable :=
  jupiterStore.after (insertions.map fun insertion => (insertion.call texts, 0))

variable {texts} {insertions before later : List JupiterInsertion} {insertion : JupiterInsertion}
  {row : JupiterRow}

theorem jupiterInserted_concat (insertions : List JupiterInsertion) (insertion : JupiterInsertion) :
    jupiterInserted texts (insertions ++ [insertion]) =
      ((jupiterInserted texts insertions).insert (insertion.row texts)).getD
        (jupiterInserted texts insertions) := by
  rw [jupiterInserted, List.map_append, List.map_singleton, Machine.after_concat]
  show performPart Table.perform JupiterCall.statements (jupiterInserted texts insertions)
    (insertion.call texts, 0) = _
  rw [performPart_singleton (insertion.statements_call texts), if_pos rfl]
  rfl

/-- An insertion adds its row or, when its id is taken, nothing. -/
theorem rows_jupiterInserted_concat (insertions : List JupiterInsertion)
    (insertion : JupiterInsertion) :
    (jupiterInserted texts (insertions ++ [insertion])).rows =
        (jupiterInserted texts insertions).rows ++ [insertion.row texts] ∨
      (jupiterInserted texts (insertions ++ [insertion])).rows =
          (jupiterInserted texts insertions).rows ∧
        ∃ row ∈ (jupiterInserted texts insertions).rows, row.intentId = insertion.intent.id := by
  rw [jupiterInserted_concat]
  cases hinsert : (jupiterInserted texts insertions).insert (insertion.row texts) with
  | some next => exact .inl (Table.rows_insert hinsert)
  | none =>
      obtain ⟨taken, htaken⟩ := Table.insert_eq_none.mp hinsert
      exact .inr ⟨rfl, taken, Table.mem_of_get htaken, Table.key_of_get htaken⟩

/-- Every row is that of one of the insertions. -/
theorem exists_insertion_of_mem (hmem : row ∈ (jupiterInserted texts insertions).rows) :
    ∃ insertion ∈ insertions, row = insertion.row texts := by
  induction insertions using List.reverseRecOn with
  | nil => cases hmem
  | append_singleton earlier last ih =>
      have hearlier : row ∈ (jupiterInserted texts earlier).rows →
          ∃ insertion ∈ earlier ++ [last], row = insertion.row texts := by
        intro hold
        obtain ⟨insertion, hinsertion, hrow⟩ := ih hold
        exact ⟨insertion, List.mem_append_left _ hinsertion, hrow⟩
      rcases rows_jupiterInserted_concat earlier last with hrows | ⟨hrows, _⟩
      · rw [hrows] at hmem
        rcases List.mem_append.mp hmem with hold | hnew
        · exact hearlier hold
        · exact ⟨last, List.mem_append_right _ List.mem_cons_self, List.mem_singleton.mp hnew⟩
      · rw [hrows] at hmem
        exact hearlier hmem

/-- A row stays through further insertions. -/
theorem mem_rows_append (hmem : row ∈ (jupiterInserted texts before).rows) :
    row ∈ (jupiterInserted texts (before ++ later)).rows := by
  induction later using List.reverseRecOn with
  | nil => simpa using hmem
  | append_singleton earlier last ih =>
      rw [← List.append_assoc]
      rcases rows_jupiterInserted_concat (before ++ earlier) last with hrows | ⟨hrows, _⟩
      · rw [hrows]
        exact List.mem_append_left _ ih
      · rw [hrows]
        exact ih

/-- The other insertions are of other intents, under other request ids. -/
def JupiterInsertion.Apart (insertion other : JupiterInsertion) : Prop :=
  other.intent.id ≠ insertion.intent.id ∧
    ∀ requestId ∈ insertion.requestId, other.requestId ≠ some requestId

/-- With its id free, an insertion is accepted and its row stays. -/
theorem row_mem_rows (hbefore : ∀ other ∈ before, other.intent.id ≠ insertion.intent.id) :
    insertion.row texts ∈ (jupiterInserted texts (before ++ insertion :: later)).rows := by
  rw [← List.singleton_append, ← List.append_assoc]
  apply mem_rows_append
  rcases rows_jupiterInserted_concat before insertion with hrows | ⟨_, row, hmem, hid⟩
  · rw [hrows]
    exact List.mem_append_right _ List.mem_cons_self
  · obtain ⟨other, hother, rfl⟩ := exists_insertion_of_mem hmem
    exact absurd hid (hbefore other hother)

theorem getIntent_jupiterInserted (texts : JupiterTexts) (insertion : JupiterInsertion)
    (before later : List JupiterInsertion)
    (hbefore : ∀ other ∈ before, other.intent.id ≠ insertion.intent.id) :
    (jupiterInserted texts (before ++ insertion :: later)).getIntent texts insertion.intent.id =
      .ok (some insertion.stored) := by
  have hget : (jupiterInserted texts (before ++ insertion :: later)).get insertion.intent.id =
      some (insertion.row texts) :=
    Table.get_eq_some_iff.mpr ⟨row_mem_rows hbefore, rfl⟩
  rw [JupiterTable.getIntent, hget, Option.map_some, insertion.rowToStored_row texts]
  rfl

/-- Only the insertion's own row holds its request id. -/
theorem row_eq_of_requestId (hothers : ∀ other ∈ before ++ later, insertion.Apart other)
    {requestId : String} (hrequest : requestId ∈ insertion.requestId)
    (hmem : row ∈ (jupiterInserted texts (before ++ insertion :: later)).rows)
    (hid : row.requestId = some requestId) : row = insertion.row texts := by
  obtain ⟨other, hother, rfl⟩ := exists_insertion_of_mem hmem
  rcases List.mem_append.mp hother with hearlier | hrest
  · have hapart := hothers other (List.mem_append_left _ hearlier)
    exact absurd hid (hapart.2 requestId hrequest)
  · rcases List.mem_cons.mp hrest with rfl | hlater
    · rfl
    · have hapart := hothers other (List.mem_append_right _ hlater)
      exact absurd hid (hapart.2 requestId hrequest)

theorem getByRequestId_jupiterInserted
    (hothers : ∀ other ∈ before ++ later, insertion.Apart other) {requestId : String}
    (hrequest : requestId ∈ insertion.requestId) :
    (jupiterInserted texts (before ++ insertion :: later)).getByRequestId texts requestId =
      .ok (some insertion.stored) := by
  have hmem : insertion.row texts ∈
      (jupiterInserted texts (before ++ insertion :: later)).rows :=
    row_mem_rows fun other hother => (hothers other (List.mem_append_left _ hother)).1
  have hfind : (jupiterInserted texts (before ++ insertion :: later)).rows.find?
      (fun row => row.requestId = some requestId) = some (insertion.row texts) := by
    cases hfound : (jupiterInserted texts (before ++ insertion :: later)).rows.find?
        (fun row => row.requestId = some requestId) with
    | none =>
        -- Its own row is there to be found.
        have hnot := List.find?_eq_none.mp hfound _ hmem
        exact absurd (decide_eq_true hrequest) hnot
    | some found =>
        have hid : found.requestId = some requestId := by simpa using List.find?_some hfound
        rw [row_eq_of_requestId hothers hrequest (List.mem_of_find?_eq_some hfound) hid]
  rw [JupiterTable.getByRequestId, hfind, Option.map_some, insertion.rowToStored_row texts]
  rfl

end Runs

/-! ## What comes back -/

/-- A row holds what the insertion was given. -/
structure JupiterInsertion.KeptBy (insertion : JupiterInsertion) (stored : StoredJupiterIntent) :
    Prop where
  intent : stored.intent = insertion.intent
  requestId : stored.requestId = insertion.requestId
  policyVerdict : stored.policyVerdict = insertion.policyVerdict
  preview : stored.preview = insertion.preview

/-- Both lookups give back what the insertion was given. -/
structure JupiterInsertion.ReadBack (texts : JupiterTexts) (insertion : JupiterInsertion)
    (table : JupiterTable) : Prop where
  byId : ∃ stored, table.getIntent texts insertion.intent.id = .ok (some stored) ∧
    insertion.KeptBy stored
  byRequest : ∀ requestId ∈ insertion.requestId, ∃ stored,
    table.getByRequestId texts requestId = .ok (some stored) ∧ insertion.KeptBy stored

/-- Whatever other intents are inserted before and after, an intent is read back
as it was exactly when it was created in the whole second of its insertion. -/
theorem intent_round_trips_iff (texts : JupiterTexts) (insertion : JupiterInsertion)
    (before later : List JupiterInsertion)
    (hothers : ∀ other ∈ before ++ later, insertion.Apart other) :
    insertion.ReadBack texts (jupiterInserted texts (before ++ insertion :: later)) ↔
      insertion.intent.createdAt = insertion.clockTime := by
  have hget := getIntent_jupiterInserted texts insertion before later fun other hother =>
    (hothers other (List.mem_append_left later hother)).1
  constructor
  · -- What is read back has the clock's time, so equality is possible for that time only.
    intro hback
    obtain ⟨stored, hstored, hkept⟩ := hback.byId
    obtain rfl : insertion.stored = stored := by
      rw [hget] at hstored
      exact Option.some.inj (Except.ok.inj hstored)
    exact (congrArg SwapIntent.createdAt hkept.intent).symm
  · intro hcreated
    have hkept : insertion.KeptBy insertion.stored := by
      refine ⟨?_, rfl, rfl, rfl⟩
      rw [JupiterInsertion.stored, ← hcreated]
    exact ⟨⟨_, hget, hkept⟩, fun requestId hrequest =>
      ⟨_, getByRequestId_jupiterInserted hothers hrequest, hkept⟩⟩

/-! ## Inserted at once, and a second late -/

def repeatedUuid (byte : UInt8) : Bytes 16 := ⟨List.replicate 16 byte, List.length_replicate⟩

/-- Noon on the first of April 2026. -/
def quoteTime : DateTime where
  seconds := 1775044800
  nanos := 0
  inCalendar := by decide
  inSecond := by decide

def quoteTexts : JupiterTexts where
  moments := DateTimeText.counted.pinned quoteTime "2026-04-01T12:00:00Z" fun other heq => by
    have hhead := DateTimeText.counted_head other
    rw [heq] at hhead
    cases hhead
  uuidError _ := "invalid length"

/-- An intent of the quote's time, inserted at the clock's reading. -/
def quotedInsertion (id : UInt8) (now : Int64) (hnow : InCalendar now) : JupiterInsertion where
  intent :=
    { id := Uuid.hyphenated (repeatedUuid id)
      sessionId := Uuid.hyphenated (repeatedUuid 0)
      walletPubkey := "wallet-1"
      network := .devnet
      inputMint := "usdc"
      outputMint := "sol"
      inputAmount := 100000000
      slippageBps := 50
      description := "buy SOL with USDC"
      createdAt := quoteTime }
  requestId := some (Uuid.hyphenated (repeatedUuid (id + 128)))
  state := JupiterState.pendingApproval
  policyVerdict := some (.requiresHumanApproval "input amount exceeds cap"
    "swap-input-amount-exceeds-cap" (some "treasury") none)
  preview := some
    { expectedOutputAmount := 670000000
      priceImpactPct := some "0.0012"
      routeLabels := ["Orca"]
      fetchedAt := quoteTime }
  now
  intentUuid := ⟨_, rfl⟩
  sessionUuid := ⟨_, rfl⟩
  requestUuid _ hmem := ⟨_, Option.some.inj hmem⟩
  clock := hnow

/-- Inserted in the second it was created in, an intent comes back as it was. -/
theorem prompt_intent_round_trips :
    (quotedInsertion 1 1775044800 (by decide)).ReadBack quoteTexts
      (jupiterInserted quoteTexts ([quotedInsertion 2 1775044799 (by decide)] ++
        quotedInsertion 1 1775044800 (by decide) :: [])) := by
  refine (intent_round_trips_iff quoteTexts (quotedInsertion 1 1775044800 (by decide)) _ [] ?_).mpr
    rfl
  intro other hmem
  obtain rfl : other = quotedInsertion 2 1775044799 (by decide) := by simpa using hmem
  refine ⟨fun heq => ?_, fun requestId hrequest heq => ?_⟩
  · exact absurd (Uuid.hyphenated_inj heq) (by decide)
  · have hsame := Option.some.inj (heq.trans hrequest.symm)
    exact absurd (Uuid.hyphenated_inj hsame) (by decide)

/-- Inserted a second after it was created, an intent comes back a second younger. -/
theorem held_intent_redated :
    ¬ (quotedInsertion 1 1775044801 (by decide)).ReadBack quoteTexts
      (jupiterInserted quoteTexts [quotedInsertion 1 1775044801 (by decide)]) := by
  intro hback
  obtain ⟨stored, hstored, hkept⟩ := hback.byId
  have hget := getIntent_jupiterInserted quoteTexts (quotedInsertion 1 1775044801 (by decide))
    [] [] (by simp)
  obtain rfl := Option.some.inj (Except.ok.inj (hget.symm.trans hstored))
  have hcreated := congrArg (fun intent => intent.createdAt.seconds) hkept.intent
  exact absurd hcreated (by decide)

end SolFrontier.StateStore
