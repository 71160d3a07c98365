import SolFrontier.SolanaCore.VersionedMessage

/-! # Assembling a Jupiter swap

The build response of a swap carries its instructions in parts, as texts. They
are put into their canonical order, parsed and compiled into an unsigned
version 0 transaction. The base64 decoder of the data is a parameter.
-/

namespace SolFrontier.Protocols

open Foundation Types SolanaCore

structure JupiterAccountMeta where
  pubkey : String
  isSigner : Bool
  isWritable : Bool
  deriving DecidableEq, Repr

structure JupiterInstruction where
  programId : String
  accounts : List JupiterAccountMeta
  data : String
  deriving DecidableEq, Repr

structure BlockhashWithMetadata where
  blockhash : String
  lastValidBlockHeight : UInt64
  deriving DecidableEq, Repr

/-- The tables are a map: a list of entries in any order, one for each address. -/
structure SwapBuildResponse where
  computeBudgetInstructions : List JupiterInstruction
  setupInstructions : List JupiterInstruction
  swapInstruction : JupiterInstruction
  cleanupInstruction : Option JupiterInstruction
  otherInstructions : List JupiterInstruction
  addressesByLookupTableAddress : List (String × List String)
  blockhashWithMetadata : BlockhashWithMetadata
  tokenLedgerInstruction : Option JupiterInstruction
  tables_nodup : (addressesByLookupTableAddress.map Prod.fst).Nodup

namespace SwapBuildResponse

def totalInstructionCount (response : SwapBuildResponse) : Nat :=
  response.computeBudgetInstructions.length + response.setupInstructions.length + 1 +
    response.cleanupInstruction.toList.length + response.otherInstructions.length

/-- Push a text that is not there yet. -/
def pushNew (ids : List String) (id : String) : List String :=
  if ids.contains id then ids else ids ++ [id]

def allProgramIds (response : SwapBuildResponse) : List String :=
  let instructions := response.computeBudgetInstructions ++ response.setupInstructions ++
    [response.swapInstruction] ++ response.cleanupInstruction.toList ++ response.otherInstructions
  (instructions.map JupiterInstruction.programId).foldl pushNew []

end SwapBuildResponse

inductive AssembleError where
  | invalidProgramId (text : String) (cause : PubkeyParseError)
  | invalidAccountPubkey (text : String) (cause : PubkeyParseError)
  | invalidLookupTableAddress (text : String) (cause : PubkeyParseError)
  | invalidInstructionData (programId : String) (cause : String)
  | invalidBlockhash (text : String) (cause : PubkeyParseError)
  | messageCompile (cause : CompileError)
  deriving DecidableEq, Repr

structure VersionedTransaction where
  signatures : List (Bytes 64)
  message : MessageV0
  deriving DecidableEq, Repr

def orderedInstructions (build : SwapBuildResponse) : List JupiterInstruction :=
  build.computeBudgetInstructions ++ build.setupInstructions ++ [build.swapInstruction] ++
    build.cleanupInstruction.toList ++ build.otherInstructions

/-- The SDK reads the texts that the shared key type reads. -/
def convertAccountMeta (account : JupiterAccountMeta) : Except AssembleError AccountMeta := do
  let pubkey ←
    (PubkeyBytes.fromBase58 account.pubkey).mapError (.invalidAccountPubkey account.pubkey)
  .ok { pubkey, isSigner := account.isSigner, isWritable := account.isWritable }

def convertAddress (address : String) : Except AssembleError PubkeyBytes :=
  (PubkeyBytes.fromBase58 address).mapError (.invalidAccountPubkey address)

def convertLookupTable (entry : String × List String) :
    Except AssembleError AddressLookupTableAccount := do
  let key ← (PubkeyBytes.fromBase58 entry.1).mapError (.invalidLookupTableAddress entry.1)
  let addresses ← entry.2.mapM convertAddress
  .ok { key, addresses }

def convertLookupTables (tableMap : List (String × List String)) :
    Except AssembleError (List AddressLookupTableAccount) :=
  (tableMap.insertionSort fun left right => left.1 ≤ right.1).mapM convertLookupTable

section

variable (base64Decode : String → Except String (List UInt8))

def convertInstruction (instruction : JupiterInstruction) : Except AssembleError Instruction := do
  let programId ← (PubkeyBytes.fromBase58 instruction.programId).mapError
    (.invalidProgramId instruction.programId)
  let accounts ← instruction.accounts.mapM convertAccountMeta
  let data ← (base64Decode instruction.data).mapError
    (.invalidInstructionData instruction.programId)
  .ok { programId, accounts, data }

def assembleV0TransactionWithResolvedAlts (build : SwapBuildResponse) (payer : PubkeyBytes)
    (lookupTables : List AddressLookupTableAccount) :
    Except AssembleError VersionedTransaction := do
  let instructions ← (orderedInstructions build).mapM (convertInstruction base64Decode)
  let blockhash ← (PubkeyBytes.fromBase58 build.blockhashWithMetadata.blockhash).mapError
    (.invalidBlockhash build.blockhashWithMetadata.blockhash)
  let message ← (MessageV0.tryCompile payer instructions lookupTables blockhash.bytes).mapError
    .messageCompile
  .ok
    { signatures := List.replicate message.header.numRequiredSignatures.toNat
        ⟨List.replicate 64 0, List.length_replicate ..⟩
      message }

def assembleV0Transaction (build : SwapBuildResponse) (payer : PubkeyBytes) :
    Except AssembleError VersionedTransaction := do
  let lookupTables ← convertLookupTables build.addressesByLookupTableAddress
  assembleV0TransactionWithResolvedAlts base64Decode build payer lookupTables

end

/-! ## What the parts agree on -/

theorem length_orderedInstructions (build : SwapBuildResponse) :
    (orderedInstructions build).length = build.totalInstructionCount := by
  simp only [orderedInstructions, SwapBuildResponse.totalInstructionCount, List.length_append,
    List.length_singleton]

theorem mem_foldl_pushNew {texts ids : List String} {text : String} :
    text ∈ texts.foldl SwapBuildResponse.pushNew ids ↔ text ∈ ids ∨ text ∈ texts := by
  induction texts generalizing ids with
  | nil => simp
  | cons first rest ih =>
      have hpush : text ∈ SwapBuildResponse.pushNew ids first ↔ text ∈ ids ∨ text = first := by
        unfold SwapBuildResponse.pushNew
        split
        next hcontains =>
          rw [List.contains_iff_mem] at hcontains
          constructor
          · exact .inl
          · rintro (hmem | rfl)
            · exact hmem
            · exact hcontains
        next => rw [List.mem_append, List.mem_singleton]
      rw [List.foldl_cons, ih, hpush, List.mem_cons, or_assoc]

theorem mem_allProgramIds {build : SwapBuildResponse} {text : String} :
    text ∈ build.allProgramIds ↔
      ∃ instruction ∈ orderedInstructions build, instruction.programId = text := by
  rw [SwapBuildResponse.allProgramIds, mem_foldl_pushNew, ← List.mem_map]
  simp [orderedInstructions]

/-- Tables of different addresses have different keys. -/
theorem nodup_convertLookupTables {tableMap : List (String × List String)}
    {tables : List AddressLookupTableAccount} (hnodup : (tableMap.map Prod.fst).Nodup)
    (hconvert : convertLookupTables tableMap = .ok tables) :
    (tables.map AddressLookupTableAccount.key).Nodup := by
  -- A key has one text, so tables of the same key would have stood under the same address.
  have htexts : tables.map (fun table => table.key.toBase58) =
      (tableMap.insertionSort fun left right => left.1 ≤ right.1).map Prod.fst := by
    have hforall := mapM_eq_ok.mp hconvert
    clear hconvert
    generalize tableMap.insertionSort (fun left right => left.1 ≤ right.1) = entries at hforall ⊢
    induction hforall with
    | nil => rfl
    | cons hfirst _ ih =>
        obtain ⟨key, hkey, hfirst⟩ := bind_eq_ok.mp hfirst
        obtain ⟨addresses, _, hfirst⟩ := bind_eq_ok.mp hfirst
        obtain rfl := Except.ok.inj hfirst
        rw [List.map_cons, List.map_cons, ih,
          PubkeyBytes.toBase58_of_fromBase58 (mapError_eq_ok.mp hkey)]
  have hsorted : ((tableMap.insertionSort fun left right => left.1 ≤ right.1).map Prod.fst).Nodup :=
    ((List.perm_insertionSort _ tableMap).map Prod.fst).nodup_iff.mpr hnodup
  apply List.Nodup.of_map PubkeyBytes.toBase58
  rw [List.map_map]
  exact htexts ▸ hsorted

section

variable {base64Decode : String → Except String (List UInt8)}

/-- A text instruction and what it denotes. -/
structure Denotes (base64Decode : String → Except String (List UInt8))
    (wire : JupiterInstruction) (resolved : MessageV0.ResolvedInstruction) : Prop where
  programId : PubkeyBytes.fromBase58 wire.programId = .ok resolved.programId
  accounts : List.Forall₂ (fun account key => PubkeyBytes.fromBase58 account.pubkey = .ok key)
    wire.accounts resolved.accounts
  data : base64Decode wire.data = .ok resolved.data

theorem denotes_skeleton {wire : JupiterInstruction} {instruction : Instruction}
    (hconvert : convertInstruction base64Decode wire = .ok instruction) :
    Denotes base64Decode wire (MessageV0.skeleton instruction) := by
  unfold convertInstruction at hconvert
  obtain ⟨programId, hprogram, hconvert⟩ := bind_eq_ok.mp hconvert
  obtain ⟨accounts, haccounts, hconvert⟩ := bind_eq_ok.mp hconvert
  obtain ⟨data, hdata, hconvert⟩ := bind_eq_ok.mp hconvert
  obtain rfl := Except.ok.inj hconvert
  refine ⟨mapError_eq_ok.mp hprogram, ?_, mapError_eq_ok.mp hdata⟩
  rw [MessageV0.skeleton, List.forall₂_map_right_iff]
  refine (mapM_eq_ok.mp haccounts).imp ?_
  intro account converted haccount
  obtain ⟨pubkey, hpubkey, haccount⟩ := bind_eq_ok.mp haccount
  obtain rfl := Except.ok.inj haccount
  exact mapError_eq_ok.mp hpubkey

/-- The instructions in the order that is canonical, a token ledger anywhere among them. -/
def CanonicalListing (build : SwapBuildResponse) (listing : List JupiterInstruction) : Prop :=
  ∃ before after,
    build.computeBudgetInstructions ++ build.setupInstructions ++ [build.swapInstruction] ++
      build.cleanupInstruction.toList ++ build.otherInstructions = before ++ after ∧
    listing = before ++ build.tokenLedgerInstruction.toList ++ after

/-- The message has every instruction of the response once, and the program ids listed for it. -/
def DropsNothing (base64Decode : String → Except String (List UInt8)) (build : SwapBuildResponse)
    (message : MessageV0) : Prop :=
  ∃ tables, convertLookupTables build.addressesByLookupTableAddress = .ok tables ∧
    ∃ resolved, message.resolve tables = some resolved ∧
      (∃ listing, CanonicalListing build listing ∧
        List.Forall₂ (Denotes base64Decode) listing resolved) ∧
      ∀ text, text ∈ build.allProgramIds ↔
        ∃ instruction ∈ resolved, instruction.programId.toBase58 = text

/-- What was assembled resolves to the ordered instructions. -/
theorem resolved_of_assemble {build : SwapBuildResponse} {payer : PubkeyBytes}
    {tx : VersionedTransaction}
    (hassemble : assembleV0Transaction base64Decode build payer = .ok tx) :
    ∃ tables, convertLookupTables build.addressesByLookupTableAddress = .ok tables ∧
      ∃ resolved, tx.message.resolve tables = some resolved ∧
        List.Forall₂ (Denotes base64Decode) (orderedInstructions build) resolved := by
  obtain ⟨tables, htables, hassemble⟩ := bind_eq_ok.mp hassemble
  obtain ⟨instructions, hinstructions, hassemble⟩ := bind_eq_ok.mp hassemble
  obtain ⟨blockhash, _, hassemble⟩ := bind_eq_ok.mp hassemble
  obtain ⟨message, hmessage, hassemble⟩ := bind_eq_ok.mp hassemble
  obtain rfl := Except.ok.inj hassemble
  refine ⟨tables, htables, _, MessageV0.resolve_of_tryCompile
    (nodup_convertLookupTables build.tables_nodup htables) (mapError_eq_ok.mp hmessage), ?_⟩
  rw [List.forall₂_map_right_iff]
  exact (mapM_eq_ok.mp hinstructions).imp fun _ _ hconvert => denotes_skeleton hconvert

theorem programIds_of_denotes {listing : List JupiterInstruction}
    {resolved : List MessageV0.ResolvedInstruction}
    (hdenotes : List.Forall₂ (Denotes base64Decode) listing resolved) :
    listing.map JupiterInstruction.programId =
      resolved.map fun instruction => instruction.programId.toBase58 := by
  induction hdenotes with
  | nil => rfl
  | cons hfirst _ ih =>
      rw [List.map_cons, List.map_cons, ih, PubkeyBytes.toBase58_of_fromBase58 hfirst.programId]

/-- The ordered instructions leave the token ledger out, so the message is one short of it. -/
theorem dropped_of_ledger {build : SwapBuildResponse} {payer : PubkeyBytes}
    {tx : VersionedTransaction} {ledger : JupiterInstruction}
    (hassemble : assembleV0Transaction base64Decode build payer = .ok tx)
    (hledger : build.tokenLedgerInstruction = some ledger) :
    ¬ DropsNothing base64Decode build tx.message := by
  obtain ⟨tables, htables, resolved, hresolved, hdenotes⟩ := resolved_of_assemble hassemble
  rintro ⟨others, hothers, found, hfound, ⟨listing, ⟨before, after, hcanonical, rfl⟩, hall⟩, _⟩
  obtain rfl := Except.ok.inj (htables.symm.trans hothers)
  obtain rfl := Option.some.inj (hresolved.symm.trans hfound)
  -- Wherever the ledger is listed, the listing is one longer than what was assembled.
  have hlength := hall.length_eq.trans hdenotes.length_eq.symm
  have hordered : orderedInstructions build = before ++ after := hcanonical
  rw [hordered, hledger, Option.toList_some, List.length_append, List.length_append,
    List.length_append, List.length_singleton] at hlength
  omega

/-- An assembled message has every instruction of its response exactly when the response carries
no token ledger instruction. -/
theorem assembly_drops_nothing_iff {build : SwapBuildResponse} {payer : PubkeyBytes}
    {tx : VersionedTransaction}
    (hassemble : assembleV0Transaction base64Decode build payer = .ok tx) :
    DropsNothing base64Decode build tx.message ↔ build.tokenLedgerInstruction = none := by
  cases hledger : build.tokenLedgerInstruction with
  | some ledger => simp [dropped_of_ledger hassemble hledger]
  | none =>
      obtain ⟨tables, htables, resolved, hresolved, hdenotes⟩ := resolved_of_assemble hassemble
      have hlisting : CanonicalListing build (orderedInstructions build) := by
        refine ⟨[], orderedInstructions build, rfl, ?_⟩
        rw [hledger]
        rfl
      have hids : ∀ text, text ∈ build.allProgramIds ↔
          ∃ instruction ∈ resolved, instruction.programId.toBase58 = text := by
        intro text
        rw [mem_allProgramIds, ← List.mem_map, programIds_of_denotes hdenotes, List.mem_map]
      have hkept : DropsNothing base64Decode build tx.message :=
        ⟨tables, htables, resolved, hresolved, ⟨_, hlisting, hdenotes⟩, hids⟩
      simp [hkept]

end

/-! ## A response with a token ledger -/

/-- The system program with no accounts and no data, as a text instruction. -/
def bareInstruction : JupiterInstruction where
  programId := "11111111111111111111111111111111"
  accounts := []
  data := ""

def ledgerResponse : SwapBuildResponse where
  computeBudgetInstructions := []
  setupInstructions := []
  swapInstruction := bareInstruction
  cleanupInstruction := none
  otherInstructions := []
  addressesByLookupTableAddress := []
  blockhashWithMetadata := ⟨"11111111111111111111111111111111", 1⟩
  tokenLedgerInstruction := some bareInstruction
  tables_nodup := List.nodup_nil

/-- A decoder of the texts that need no digits. -/
def decodeEmpty (text : String) : Except String (List UInt8) :=
  if text = "" then .ok [] else .error "Invalid padding"

theorem exists_assembled_ledger : ∃ tx,
    assembleV0Transaction decodeEmpty ledgerResponse ⟨⟨List.replicate 32 1, rfl⟩⟩ = .ok tx := by
  have hassembled : (assembleV0Transaction decodeEmpty ledgerResponse
      ⟨⟨List.replicate 32 1, rfl⟩⟩).toOption.isSome = true := by
    decide +kernel
  cases hresult : assembleV0Transaction decodeEmpty ledgerResponse ⟨⟨List.replicate 32 1, rfl⟩⟩ with
  | error error =>
      rw [hresult] at hassembled
      cases hassembled
  | ok tx => exact ⟨tx, rfl⟩

/-- It is assembled into a message with the swap alone. -/
theorem ledger_dropped : ∃ tx,
    assembleV0Transaction decodeEmpty ledgerResponse ⟨⟨List.replicate 32 1, rfl⟩⟩ = .ok tx ∧
      ¬ DropsNothing decodeEmpty ledgerResponse tx.message := by
  obtain ⟨tx, hassemble⟩ := exists_assembled_ledger
  exact ⟨tx, hassemble, dropped_of_ledger hassemble rfl⟩

theorem assembly_drops_nothing_ledger : ∃ tx,
    assembleV0Transaction decodeEmpty ledgerResponse ⟨⟨List.replicate 32 1, rfl⟩⟩ = .ok tx ∧
      (DropsNothing decodeEmpty ledgerResponse tx.message ↔
        ledgerResponse.tokenLedgerInstruction = none) := by
  obtain ⟨tx, hassemble⟩ := exists_assembled_ledger
  exact ⟨tx, hassemble, assembly_drops_nothing_iff hassemble⟩

end SolFrontier.Protocols
