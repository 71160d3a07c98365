import SolFrontier.Foundation.Service
import SolFrontier.Mcp.Finalize

/-! # The sidecar

Finalize receipts and the index of canonical rule hashes, in a SQLite file of
their own. The database keeps the constraints of its schema and runs each
transaction as a whole; any storage operation may fail, and a failed commit may
have reached the disk. A handle opens the file lazily under its mutex and stays
unavailable once a call gave up on it.
-/

namespace SolFrontier.Mcp.Sidecar

open Foundation Program

/-! ## The database -/

/-- A permanent consume-once tombstone. -/
structure ConsumedDraft where
  draftId : String
  draftHash : String
  consumedAtMs : Int64
  deriving DecidableEq, Repr

/-- One immutable, derived canonical-hash mapping. -/
structure HashIndexEntry where
  canonicalRuleHash : String
  intentId : String
  draftId : String
  draftHash : String
  indexedAtMs : Int64
  deriving DecidableEq, Repr

/-- `length(v) = n AND v = lower(v) AND v NOT GLOB '*[^0-9a-f]*'`. -/
def checkHex (length : Nat) (value : String) : Bool :=
  value.toList.length = length ∧ value = asciiLower value ∧
    value.toList.all fun char => ('0' ≤ char ∧ char ≤ '9') ∨ ('a' ≤ char ∧ char ≤ 'f')

def ConsumedDraft.checks (draft : ConsumedDraft) : Bool :=
  checkHex 32 draft.draftId ∧ checkHex 64 draft.draftHash

def HashIndexEntry.checks (entry : HashIndexEntry) : Bool :=
  checkHex 64 entry.canonicalRuleHash ∧ checkHex 32 entry.intentId

/-- The two tables; a hash has one intent, an intent one hash, and every
mapping refers to a consumed draft. -/
structure Database where
  consumedDrafts : Table ConsumedDraft String ConsumedDraft.draftId
  canonicalHashIndex : Table HashIndexEntry String HashIndexEntry.canonicalRuleHash
  intentId_unique : (canonicalHashIndex.rows.map HashIndexEntry.intentId).Nodup
  foreignKey : ∀ entry ∈ canonicalHashIndex.rows, ∃ draft,
    consumedDrafts.get entry.draftId = some draft ∧ draft.draftHash = entry.draftHash

inductive SidecarError where
  | invalidHex (field : String) (expectedLen : Nat)
  | invalidTimestamp (field : String)
  | unavailable
  | notInitialized
  | integrity
  | unsupportedSchema (found : Int64)
  | mappingConflict
  | storage
  | filesystem
  deriving DecidableEq, Repr

namespace Database

def empty : Database where
  consumedDrafts := .empty
  canonicalHashIndex := .empty
  intentId_unique := List.nodup_nil
  foreignKey := fun _ hmem => absurd hmem (List.not_mem_nil)

/-- `INSERT OR IGNORE INTO consumed_drafts`: nothing when the row is ignored. -/
def insertDraft (db : Database) (draft : ConsumedDraft) : Option Database :=
  if draft.checks then
    match hinsert : db.consumedDrafts.insert draft with
    | none => none
    | some drafts =>
        some
          { db with
            consumedDrafts := drafts
            foreignKey := by
              intro entry hmem
              obtain ⟨stored, hstored, hhash⟩ := db.foreignKey entry hmem
              have hfresh := Table.fresh_of_insert hinsert
              refine ⟨stored, ?_, hhash⟩
              rw [Table.get_insert hinsert, if_neg, hstored]
              intro heq
              rw [← heq, hstored] at hfresh
              cases hfresh }
  else none

/-- `INSERT OR IGNORE INTO canonical_hash_index`: a duplicate hash or intent is
ignored, a draft that was not consumed fails the statement. -/
def insertEntry (db : Database) (entry : HashIndexEntry) :
    Except SidecarError (Option Database) :=
  if entry.checks then
    match hinsert : db.canonicalHashIndex.insert entry with
    | none => .ok none
    | some index =>
        if hunique : entry.intentId ∉ db.canonicalHashIndex.rows.map HashIndexEntry.intentId then
          if hdraft : (db.consumedDrafts.get entry.draftId).map ConsumedDraft.draftHash =
              some entry.draftHash then
            .ok (some
              { db with
                canonicalHashIndex := index
                intentId_unique := by
                  rw [Table.rows_insert hinsert, List.map_append, List.nodup_append]
                  refine ⟨db.intentId_unique, List.nodup_singleton _, ?_⟩
                  intro intent hmem other hother heq
                  rw [List.mem_singleton.mp hother] at heq
                  exact hunique (heq ▸ hmem)
                foreignKey := by
                  intro stored hmem
                  rw [Table.rows_insert hinsert] at hmem
                  rcases List.mem_append.mp hmem with hold | hnew
                  · exact db.foreignKey stored hold
                  · rw [List.mem_singleton.mp hnew]
                    exact Option.map_eq_some_iff.mp hdraft })
          else .error .storage
        else .ok none
  else .ok none

end Database

/-! ## Transactions -/

/-- The storage operations of one transaction that fail, and whether a failed
commit landed. -/
structure Faults where
  onBegin : Bool
  onInsert : Bool
  onSelect : Bool
  onSelectIntent : Bool
  onCommit : Bool
  commitLands : Bool
  onRollback : Bool
  deriving DecidableEq, Repr

def Faults.none : Faults := ⟨false, false, false, false, false, false, false⟩

/-- Commit what the transaction wrote. -/
def commit {α : Type} (faults : Faults) (before after : Database) (outcome : α) :
    Database × Except SidecarError α :=
  if faults.onCommit then (if faults.commitLands then after else before, .error .storage)
  else (after, .ok outcome)

def rollbackWith {α : Type} (faults : Faults) (before : Database) (error : SidecarError) :
    Database × Except SidecarError α :=
  (before, .error (if faults.onRollback then .storage else error))

def claimDraftInPool (db : Database) (faults : Faults) (draftId draftHash : String)
    (consumedAtMs : Int64) : Database × Except SidecarError ClaimOutcome :=
  if faults.onBegin ∨ faults.onInsert then (db, .error .storage)
  else
    match db.insertDraft ⟨draftId, draftHash, consumedAtMs⟩ with
    | some after => commit faults db after .claimed
    | none =>
        -- Reading back tells a duplicate from a constraint the insert ignored.
        if faults.onSelect then (db, .error .storage)
        else
          match db.consumedDrafts.get draftId with
          | some existing =>
              if existing.draftHash = draftHash then commit faults db db .alreadyConsumed
              else commit faults db db .conflict
          | none => rollbackWith faults db .integrity

/-- `SELECT .. FROM canonical_hash_index WHERE intent_id = ?`. -/
def Database.selectIntentEntry (db : Database) (intentId : String) : Option HashIndexEntry :=
  db.canonicalHashIndex.rows.find? fun entry => entry.intentId = intentId

def indexHashInPool (db : Database) (faults : Faults)
    (canonicalRuleHash intentId draftId draftHash : String) (indexedAtMs : Int64) :
    Database × Except SidecarError IndexOutcome :=
  if faults.onBegin ∨ faults.onInsert then (db, .error .storage)
  else
    match db.insertEntry ⟨canonicalRuleHash, intentId, draftId, draftHash, indexedAtMs⟩ with
    | .error error => (db, .error error)
    | .ok (some after) => commit faults db after .indexed
    | .ok none =>
        if faults.onSelect ∨ faults.onSelectIntent then (db, .error .storage)
        else
          let byHash := db.canonicalHashIndex.get canonicalRuleHash
          let byIntent := db.selectIntentEntry intentId
          let identicalPair := byHash.any (fun entry => entry.intentId = intentId) &&
            byIntent.any fun entry => entry.canonicalRuleHash = canonicalRuleHash
          if identicalPair then commit faults db db .alreadyPresent
          else rollbackWith faults db .mappingConflict

/-! ## Handles -/

/-- The pool of a ready handle; it holds nothing but the connection. -/
abbrev SqlitePool := Unit

inductive SidecarState where
  | unopened
  | ready (pool : SqlitePool)
  | unavailable
  deriving DecidableEq, Repr

/-- Under the mutex, with the answers of the file system and of opening the
file. A lookup never creates it. -/
def poolForLookup (state : SidecarState) (exists? : Except Unit Bool)
    (openExisting : Except SidecarError SqlitePool) : SidecarState × Option SqlitePool :=
  match state with
  | .ready pool => (state, some pool)
  | .unavailable => (state, none)
  | .unopened =>
      match exists? with
      | .error _ => (.unavailable, none)
      | .ok false => (.unopened, none)
      | .ok true =>
          match openExisting with
          | .ok pool => (.ready pool, some pool)
          | .error _ => (.unavailable, none)

def poolForClaim (state : SidecarState) (exists? : Except Unit Bool)
    (openExisting createNew : Except SidecarError SqlitePool) :
    SidecarState × Except SidecarError SqlitePool :=
  match state with
  | .ready pool => (state, .ok pool)
  | .unavailable => (state, .error .unavailable)
  | .unopened =>
      match exists? with
      | .error _ => (.unopened, .error .filesystem)
      | .ok exists? =>
          match if exists? then openExisting else createNew with
          | .ok pool => (.ready pool, .ok pool)
          | .error error => (.unavailable, .error error)

def readyPool : SidecarState → Except SidecarError SqlitePool
  | .ready pool => .ok pool
  | .unavailable => .error .unavailable
  | .unopened => .error .notInitialized

/-! ## Arguments -/

def validateLowerHex (field value : String) (expectedLen : Nat) : Except SidecarError Unit :=
  let bytes := utf8Bytes value
  if bytes.length = expectedLen ∧
      bytes.all fun byte => (48 ≤ byte ∧ byte ≤ 57) ∨ (97 ≤ byte ∧ byte ≤ 102) then .ok ()
  else .error (.invalidHex field expectedLen)

def validateTimestamp (field : String) (value : Int64) : Except SidecarError Unit :=
  if 0 ≤ value then .ok () else .error (.invalidTimestamp field)

/-- The characters of a hyphenated id from an index on, without its hyphens. -/
def compactHyphenated (index : Nat) : List UInt8 → Except Unit (List Char)
  | [] => .ok []
  | byte :: rest =>
      if index = 8 ∨ index = 13 ∨ index = 18 ∨ index = 23 then
        if byte = 45 then compactHyphenated (index + 1) rest else .error ()
      else do
        let chars ← compactHyphenated (index + 1) rest
        .ok (Char.ofNat byte.toNat :: chars)

/-- The text of an id without its hyphens. -/
def compactDraftId (value : String) : Except SidecarError String :=
  let bytes := utf8Bytes value
  if bytes.length = 32 then .ok value
  else if bytes.length = 36 then
    match compactHyphenated 0 bytes with
    | .ok chars => .ok (String.ofList chars)
    | .error _ => .error (.invalidHex "draft_id" 32)
  else .error (.invalidHex "draft_id" 32)

def normalizeDraftId (value : String) : Except SidecarError String := do
  let compact ← compactDraftId value
  validateLowerHex "draft_id" compact 32
  .ok compact

/-! ## The calls -/

/-- Every await of a call: the handle's state under its mutex, or one storage
operation. -/
inductive SidecarOp (Handle : Type) where
  | poolForLookup (handle : Handle)
  | poolForClaim (handle : Handle)
  | readyPool (handle : Handle)
  | markUnavailable (handle : Handle)
  | claimDraftInPool (draftId draftHash : String) (consumedAtMs : Int64)
  | indexHashInPool (canonicalRuleHash intentId draftId draftHash : String) (indexedAtMs : Int64)
  | selectHashEntry (canonicalRuleHash : String)
  deriving DecidableEq, Repr

abbrev SidecarOp.Answer {Handle : Type} : SidecarOp Handle → Type
  | poolForLookup _ => Option SqlitePool
  | poolForClaim _ | readyPool _ => Except SidecarError SqlitePool
  | markUnavailable _ => Unit
  | claimDraftInPool .. => Except SidecarError ClaimOutcome
  | indexHashInPool .. => Except SidecarError IndexOutcome
  | selectHashEntry _ => Except Unit (Option HashIndexEntry)

abbrev sidecarFace (Handle : Type) : Interface := ⟨SidecarOp Handle, SidecarOp.Answer⟩

variable {Handle : Type}

def await (op : SidecarOp Handle) : Program (sidecarFace Handle) op.Answer :=
  @perform (sidecarFace Handle) op

@[simp] theorem await_bind {α : Type} (op : SidecarOp Handle)
    (rest : op.Answer → Program (sidecarFace Handle) α) :
    (await op >>= rest) = .call op rest := rfl

/-- Hash lookup deliberately distinguishes a valid index miss from an index
that cannot safely be consulted. -/
inductive HashLookup where
  | found (intentId : String)
  | missing
  | unavailable
  deriving DecidableEq, Repr

/-- A call with its arguments. -/
inductive Call where
  | claimDraft (draftId draftHash : String) (consumedAtMs : Int64)
  | indexHash (canonicalRuleHash intentId draftId draftHash : String) (indexedAtMs : Int64)
  | lookupHash (canonicalRuleHash : String)
  deriving DecidableEq, Repr

inductive Reply where
  | claim (outcome : ClaimOutcome)
  | index (outcome : IndexOutcome)
  | lookup (answer : HashLookup)
  deriving DecidableEq, Repr

def claimDraft (handle : Handle) (draftId draftHash : String) (consumedAtMs : Int64) :
    Program (sidecarFace Handle) ClaimOutcome :=
  match normalizeDraftId draftId with
  | .error _ => pure .unavailable
  | .ok draftId =>
      match do
        validateLowerHex "draft_hash" draftHash 64
        validateTimestamp "consumed_at_ms" consumedAtMs with
      | .error _ => pure .unavailable
      | .ok _ => do
          match ← await (.poolForClaim handle) with
          | .error _ => pure .unavailable
          | .ok _ =>
              match ← await (.claimDraftInPool draftId draftHash consumedAtMs) with
              | .ok outcome => pure outcome
              | .error _ => do
                  let _ ← await (.markUnavailable handle)
                  pure .unavailable

def indexHash (handle : Handle) (canonicalRuleHash intentId draftId draftHash : String)
    (indexedAtMs : Int64) : Program (sidecarFace Handle) IndexOutcome :=
  match normalizeDraftId draftId with
  | .error _ => pure .unavailable
  | .ok draftId =>
      match do
        validateLowerHex "canonical_rule_hash" canonicalRuleHash 64
        validateLowerHex "intent_id" intentId 32
        validateLowerHex "draft_hash" draftHash 64
        validateTimestamp "indexed_at_ms" indexedAtMs with
      | .error _ => pure .unavailable
      | .ok _ => do
          match ← await (.readyPool handle) with
          | .error _ => pure .unavailable
          | .ok _ =>
              match ← await
                (.indexHashInPool canonicalRuleHash intentId draftId draftHash indexedAtMs) with
              | .ok outcome => pure outcome
              | .error .mappingConflict => do
                  let _ ← await (.markUnavailable handle)
                  pure .conflict
              | .error _ => do
                  let _ ← await (.markUnavailable handle)
                  pure .unavailable

def lookupHash (handle : Handle) (canonicalRuleHash : String) :
    Program (sidecarFace Handle) HashLookup :=
  match validateLowerHex "canonical_rule_hash" canonicalRuleHash 64 with
  | .error _ => pure .missing
  | .ok _ => do
      match ← await (.poolForLookup handle) with
      | none => pure .unavailable
      | some _ =>
          match ← await (.selectHashEntry canonicalRuleHash) with
          | .ok (some entry) => pure (.found entry.intentId)
          | .ok none => pure .missing
          | .error _ => do
              let _ ← await (.markUnavailable handle)
              pure .unavailable

/-- Run one call on a handle. -/
def Call.run (handle : Handle) : Call → Program (sidecarFace Handle) Reply
  | claimDraft draftId draftHash consumedAtMs => do
      let outcome ← Sidecar.claimDraft handle draftId draftHash consumedAtMs
      pure (.claim outcome)
  | indexHash canonicalRuleHash intentId draftId draftHash indexedAtMs => do
      let outcome ←
        Sidecar.indexHash handle canonicalRuleHash intentId draftId draftHash indexedAtMs
      pure (.index outcome)
  | lookupHash canonicalRuleHash => do
      let answer ← Sidecar.lookupHash handle canonicalRuleHash
      pure (.lookup answer)

/-! ## The service -/

/-- One database, and the state of every handle on it. -/
structure SidecarWorld (Handle : Type) where
  db : Database
  states : Handle → SidecarState

variable [DecidableEq Handle]

def SidecarWorld.setState (world : SidecarWorld Handle) (handle : Handle) (state : SidecarState) :
    SidecarWorld Handle :=
  { world with states := Function.update world.states handle state }

/-- What one answered operation does. Opening or creating the file writes no
row, since a new schema refuses a file that has its tables already. -/
def sidecarStep : Semantics (sidecarFace Handle) (SidecarWorld Handle)
  | world, ⟨.poolForLookup handle, answer⟩, after => ∃ exists? openExisting state,
      Sidecar.poolForLookup (world.states handle) exists? openExisting = (state, answer) ∧
        after = world.setState handle state
  | world, ⟨.poolForClaim handle, answer⟩, after => ∃ exists? openExisting createNew state,
      Sidecar.poolForClaim (world.states handle) exists? openExisting createNew =
          (state, answer) ∧
        after = world.setState handle state
  | world, ⟨.readyPool handle, answer⟩, after =>
      answer = Sidecar.readyPool (world.states handle) ∧ after = world
  | world, ⟨.markUnavailable handle, _⟩, after => after = world.setState handle .unavailable
  | world, ⟨.claimDraftInPool draftId draftHash consumedAtMs, answer⟩, after => ∃ faults db,
      Sidecar.claimDraftInPool world.db faults draftId draftHash consumedAtMs = (db, answer) ∧
        after = { world with db }
  | world, ⟨.indexHashInPool canonicalRuleHash intentId draftId draftHash indexedAtMs, answer⟩,
      after => ∃ faults db,
      Sidecar.indexHashInPool world.db faults canonicalRuleHash intentId draftId draftHash
          indexedAtMs = (db, answer) ∧
        after = { world with db }
  | world, ⟨.selectHashEntry canonicalRuleHash, answer⟩, after =>
      (answer = .error () ∨ answer = .ok (world.db.canonicalHashIndex.get canonicalRuleHash)) ∧
        after = world

/-- Any number of calls by any handles over one sidecar database. -/
def sidecarService (Handle : Type) [DecidableEq Handle] :
    Service (sidecarFace Handle) (SidecarWorld Handle) (Handle × Call) Reply where
  sem := sidecarStep
  serve request := request.2.run request.1

/-- No file yet, and no handle opened. -/
def SidecarWorld.initial (Handle : Type) : SidecarWorld Handle := ⟨.empty, fun _ => .unopened⟩

end SolFrontier.Mcp.Sidecar
