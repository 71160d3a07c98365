import SolFrontier.Foundation.Repository
import SolFrontier.SolanaCore.Compile

/-! # Messages with lookup tables

A version 0 message leaves out the keys that lookup tables hold and names them
by their positions in those tables. Compiling follows the published rules; what
was compiled resolves through the same tables to the programs, accounts and
data of its instructions.
-/

namespace SolFrontier.SolanaCore

open Foundation Types

structure AddressLookupTableAccount where
  key : PubkeyBytes
  addresses : List PubkeyBytes
  deriving DecidableEq, Repr

/-- The positions of the keys that a table loads. -/
structure MessageAddressTableLookup where
  accountKey : PubkeyBytes
  writableIndexes : List UInt8
  readonlyIndexes : List UInt8
  deriving DecidableEq, Repr

structure LoadedAddresses where
  writable : List PubkeyBytes
  readonly : List PubkeyBytes
  deriving DecidableEq, Repr

structure MessageV0 where
  header : MessageHeader
  accountKeys : List PubkeyBytes
  recentBlockhash : Hash
  instructions : List CompiledInstruction
  addressTableLookups : List MessageAddressTableLookup
  deriving DecidableEq, Repr

inductive CompileError where
  | accountIndexOverflow
  | addressTableLookupIndexOverflow
  | unknownInstructionKey (key : PubkeyBytes)
  deriving DecidableEq, Repr

/-! ## Compiling -/

structure CompiledKeyMeta where
  isSigner : Bool
  isWritable : Bool
  isInvoked : Bool
  deriving DecidableEq, Repr

/-- The keys that are left to place, in ascending order. -/
structure CompiledKeys where
  payer : PubkeyBytes
  keyMetaMap : List (PubkeyBytes × CompiledKeyMeta)
  deriving DecidableEq, Repr

namespace CompiledKeys

def compile (instructions : List Instruction) (payer : PubkeyBytes) : CompiledKeys where
  payer
  keyMetaMap :=
    ((payer :: Message.keysOf instructions).dedup.insertionSort
      fun left right => left.bytes.1 ≤ right.bytes.1).map fun key =>
        (key,
          { isSigner := key = payer || Message.signs instructions key
            isWritable := key = payer || Message.writes instructions key
            isInvoked := instructions.any fun instruction => instruction.programId = key })

/-- Take out the keys of a kind that a table holds, with their first positions there. -/
def tryDrainKeysFoundInLookupTable (keys : CompiledKeys) (addresses : List PubkeyBytes)
    (keyMetaFilter : CompiledKeyMeta → Bool) :
    Except CompileError (List UInt8 × List PubkeyBytes × CompiledKeys) :=
  let found := keys.keyMetaMap.filterMap fun (key, kind) =>
    if keyMetaFilter kind then (addresses.findIdx? (· = key)).map fun index => (index, key)
    else none
  if found.any fun (index, _) => 256 ≤ index then .error .addressTableLookupIndexOverflow
  else
    let drained := found.map Prod.snd
    .ok (found.map fun (index, _) => .ofNat index, drained,
      { keys with keyMetaMap := keys.keyMetaMap.filter fun (key, _) => key ∉ drained })

/-- Neither signers nor programs are loaded from a table. -/
def tryExtractTableLookup (keys : CompiledKeys) (table : AddressLookupTableAccount) :
    Except CompileError (Option (MessageAddressTableLookup × LoadedAddresses) × CompiledKeys) := do
  let (writableIndexes, writable, keys) ← keys.tryDrainKeysFoundInLookupTable table.addresses
    fun kind => !kind.isSigner && !kind.isInvoked && kind.isWritable
  let (readonlyIndexes, readonly, keys) ← keys.tryDrainKeysFoundInLookupTable table.addresses
    fun kind => !kind.isSigner && !kind.isInvoked && !kind.isWritable
  if writableIndexes.isEmpty && readonlyIndexes.isEmpty then .ok (none, keys)
  else
    .ok (some (⟨table.key, writableIndexes, readonlyIndexes⟩, ⟨writable, readonly⟩), keys)

/-- The lookups of the tables, one after another. -/
def extractTableLookups :
    CompiledKeys → List AddressLookupTableAccount →
      Except CompileError (List (MessageAddressTableLookup × LoadedAddresses) × CompiledKeys)
  | keys, [] => .ok ([], keys)
  | keys, table :: tables => do
      let (extracted, keys) ← keys.tryExtractTableLookup table
      let (rest, keys) ← extractTableLookups keys tables
      .ok (extracted.toList ++ rest, keys)

def tryIntoMessageComponents (keys : CompiledKeys) :
    Except CompileError (MessageHeader × List PubkeyBytes) :=
  let others := keys.keyMetaMap.filter fun (key, _) => key ≠ keys.payer
  let keysWith signer writable :=
    (others.filter fun (_, kind) => kind.isSigner = signer && kind.isWritable = writable).map
      Prod.fst
  let writableSigners := keys.payer :: keysWith true true
  let readonlySigners := keysWith true false
  let writableOthers := keysWith false true
  let readonlyOthers := keysWith false false
  if writableSigners.length + readonlySigners.length < 256 ∧ readonlyOthers.length < 256 then
    .ok
      ({ numRequiredSignatures := .ofNat (writableSigners.length + readonlySigners.length)
         numReadonlySignedAccounts := .ofNat readonlySigners.length
         numReadonlyUnsignedAccounts := .ofNat readonlyOthers.length },
        writableSigners ++ readonlySigners ++ writableOthers ++ readonlyOthers)
  else .error .accountIndexOverflow

end CompiledKeys

/-- The last position of a key. -/
def accountIndex (keys : List PubkeyBytes) (key : PubkeyBytes) : Except CompileError UInt8 :=
  match keys.zipIdx.reverse.find? fun (other, _) => other = key with
  | some (_, index) => .ok (.ofNat index)
  | none => .error (.unknownInstructionKey key)

def tryCompileInstruction (keys : List PubkeyBytes) (instruction : Instruction) :
    Except CompileError CompiledInstruction := do
  let accounts ← instruction.accounts.mapM fun account => accountIndex keys account.pubkey
  let programIdIndex ← accountIndex keys instruction.programId
  .ok { programIdIndex, accounts, data := instruction.data }

def tryCompileInstructions (keys : List PubkeyBytes) (instructions : List Instruction) :
    Except CompileError (List CompiledInstruction) :=
  if 256 < keys.length then .error .accountIndexOverflow
  else instructions.mapM (tryCompileInstruction keys)

namespace MessageV0

/-- All writable loaded keys come before the read-only ones. -/
def withLoaded (staticKeys : List PubkeyBytes) (loaded : List LoadedAddresses) :
    List PubkeyBytes :=
  staticKeys ++ loaded.flatMap LoadedAddresses.writable ++ loaded.flatMap LoadedAddresses.readonly

def tryCompile (payer : PubkeyBytes) (instructions : List Instruction)
    (tables : List AddressLookupTableAccount) (recentBlockhash : Hash) :
    Except CompileError MessageV0 := do
  let (extracted, keys) ← (CompiledKeys.compile instructions payer).extractTableLookups tables
  let (header, staticKeys) ← keys.tryIntoMessageComponents
  let compiled ← tryCompileInstructions (withLoaded staticKeys (extracted.map Prod.snd)) instructions
  .ok
    { header, accountKeys := staticKeys, recentBlockhash, instructions := compiled
      addressTableLookups := extracted.map Prod.fst }

/-! ## Resolving -/

/-- The keys that a lookup loads from the table it names. -/
def loadLookup (tables : List AddressLookupTableAccount) (lookup : MessageAddressTableLookup) :
    Option LoadedAddresses := do
  let table ← tables.find? fun table => table.key = lookup.accountKey
  let writable ← lookup.writableIndexes.mapM fun index => table.addresses[index.toNat]?
  let readonly ← lookup.readonlyIndexes.mapM fun index => table.addresses[index.toNat]?
  some { writable, readonly }

/-- What an instruction calls, passes and carries. -/
structure ResolvedInstruction where
  programId : PubkeyBytes
  accounts : List PubkeyBytes
  data : List UInt8
  deriving DecidableEq, Repr

def resolveCompiled (keys : List PubkeyBytes) (compiled : CompiledInstruction) :
    Option ResolvedInstruction := do
  let programId ← keys[compiled.programIdIndex.toNat]?
  let accounts ← compiled.accounts.mapM fun index => keys[index.toNat]?
  some { programId, accounts, data := compiled.data }

/-- The instructions of a message under the keys its lookups load. -/
def resolve (message : MessageV0) (tables : List AddressLookupTableAccount) :
    Option (List ResolvedInstruction) := do
  let loaded ← message.addressTableLookups.mapM (loadLookup tables)
  message.instructions.mapM (resolveCompiled (withLoaded message.accountKeys loaded))

/-! ## What compiling and resolving keep -/

/-- What an instruction is resolved to. -/
def skeleton (instruction : Instruction) : ResolvedInstruction where
  programId := instruction.programId
  accounts := instruction.accounts.map AccountMeta.pubkey
  data := instruction.data

/-- A lookup that loads these addresses from this table. -/
structure Loads (table : AddressLookupTableAccount) (lookup : MessageAddressTableLookup)
    (loaded : LoadedAddresses) : Prop where
  accountKey : lookup.accountKey = table.key
  writable : lookup.writableIndexes.mapM (fun index => table.addresses[index.toNat]?) =
    some loaded.writable
  readonly : lookup.readonlyIndexes.mapM (fun index => table.addresses[index.toNat]?) =
    some loaded.readonly

section

variable {keys rest : CompiledKeys} {table : AddressLookupTableAccount}
  {tables : List AddressLookupTableAccount}

/-- The drained keys stand at their positions. -/
theorem mapM_drained {addresses drained : List PubkeyBytes}
    {keyMetaFilter : CompiledKeyMeta → Bool} {indexes : List UInt8}
    (hdrain : keys.tryDrainKeysFoundInLookupTable addresses keyMetaFilter =
      .ok (indexes, drained, rest)) :
    (indexes.mapM fun index => addresses[index.toNat]?) = some drained := by
  unfold CompiledKeys.tryDrainKeysFoundInLookupTable at hdrain
  dsimp only at hdrain
  split at hdrain
  next => cases hdrain
  next hfits =>
    simp only [Except.ok.injEq, Prod.mk.injEq] at hdrain
    obtain ⟨rfl, rfl, -⟩ := hdrain
    rw [mapM_eq_some, List.forall₂_map_left_iff, List.forall₂_map_right_iff, List.forall₂_same]
    rintro ⟨index, key⟩ hfound
    obtain ⟨⟨other, kind⟩, _, hindex⟩ := List.mem_filterMap.mp hfound
    -- An index beyond a byte would have been the error above.
    have hlt : index < 256 := by
      by_contra hlarge
      exact hfits (List.any_eq_true.mpr ⟨_, hfound, decide_eq_true (Nat.le_of_not_lt hlarge)⟩)
    dsimp only at hindex
    split at hindex
    next =>
      obtain ⟨first, hfirst, hpair⟩ := Option.map_eq_some_iff.mp hindex
      obtain ⟨rfl, rfl⟩ := Prod.mk.inj hpair
      obtain ⟨hrange, heq, _⟩ := List.findIdx?_eq_some_iff_getElem.mp hfirst
      dsimp only
      rw [UInt8.toNat_ofNat_of_lt' hlt, List.getElem?_eq_getElem hrange, of_decide_eq_true heq]
    next => cases hindex

theorem loads_of_extract {lookup : MessageAddressTableLookup} {loaded : LoadedAddresses}
    (hextract : keys.tryExtractTableLookup table = .ok (some (lookup, loaded), rest)) :
    Loads table lookup loaded := by
  unfold CompiledKeys.tryExtractTableLookup at hextract
  obtain ⟨⟨writableIndexes, writable, middle⟩, hwritable, hextract⟩ := bind_eq_ok.mp hextract
  obtain ⟨⟨readonlyIndexes, readonly, last⟩, hreadonly, hextract⟩ := bind_eq_ok.mp hextract
  dsimp only at hextract hreadonly
  split at hextract
  next => cases hextract
  next =>
    simp only [Except.ok.injEq, Prod.mk.injEq, Option.some.injEq] at hextract
    obtain ⟨⟨rfl, rfl⟩, -⟩ := hextract
    exact ⟨rfl, mapM_drained hwritable, mapM_drained hreadonly⟩

theorem loads_of_extractTableLookups
    {extracted : List (MessageAddressTableLookup × LoadedAddresses)}
    (hextract : keys.extractTableLookups tables = .ok (extracted, rest)) :
    ∀ pair ∈ extracted, ∃ table ∈ tables, Loads table pair.1 pair.2 := by
  induction tables generalizing keys extracted rest with
  | nil =>
      simp only [CompiledKeys.extractTableLookups, Except.ok.injEq, Prod.mk.injEq] at hextract
      obtain ⟨rfl, -⟩ := hextract
      intro pair hpair
      cases hpair
  | cons table tables ih =>
      unfold CompiledKeys.extractTableLookups at hextract
      obtain ⟨⟨first, middle⟩, hfirst, hextract⟩ := bind_eq_ok.mp hextract
      obtain ⟨⟨others, last⟩, hothers, hextract⟩ := bind_eq_ok.mp hextract
      simp only [Except.ok.injEq, Prod.mk.injEq] at hextract
      obtain ⟨rfl, -⟩ := hextract
      intro pair hpair
      rcases List.mem_append.mp hpair with hhere | hlater
      · obtain rfl := Option.mem_toList.mp hhere
        exact ⟨table, List.mem_cons_self .., loads_of_extract hfirst⟩
      · obtain ⟨other, hother, hloads⟩ := ih hothers pair hlater
        exact ⟨other, List.mem_cons_of_mem _ hother, hloads⟩

/-- A table is found by its key, if no other has that key. -/
theorem find?_table (hnodup : (tables.map AddressLookupTableAccount.key).Nodup)
    (hmem : table ∈ tables) : tables.find? (fun other => other.key = table.key) = some table := by
  induction tables with
  | nil => cases hmem
  | cons first tables ih =>
      rw [List.map_cons, List.nodup_cons] at hnodup
      rcases List.mem_cons.mp hmem with rfl | hother
      · exact List.find?_cons_of_pos (decide_eq_true rfl)
      · have hne : first.key ≠ table.key := by
          intro heq
          exact hnodup.1 (heq ▸ List.mem_map_of_mem hother)
        rw [List.find?_cons_of_neg (by simpa using hne)]
        exact ih hnodup.2 hother

theorem loadLookup_of_loads (hnodup : (tables.map AddressLookupTableAccount.key).Nodup)
    (hmem : table ∈ tables) {lookup : MessageAddressTableLookup} {loaded : LoadedAddresses}
    (hloads : Loads table lookup loaded) : loadLookup tables lookup = some loaded := by
  rw [loadLookup, hloads.accountKey, find?_table hnodup hmem, Option.bind_eq_bind,
    Option.bind_some, hloads.writable, Option.bind_eq_bind, Option.bind_some, hloads.readonly]
  rfl

end

section

variable {keys : List PubkeyBytes} (hfits : keys.length ≤ 256)
include hfits

theorem getElem?_accountIndex {key : PubkeyBytes} {index : UInt8}
    (hindex : accountIndex keys key = .ok index) : keys[index.toNat]? = some key := by
  unfold accountIndex at hindex
  split at hindex
  next other position hfind =>
    obtain rfl := Except.ok.inj hindex
    have hfound := List.find?_some hfind
    have hkey : other = key := of_decide_eq_true hfound
    have hmem := List.mem_reverse.mp (List.mem_of_find?_eq_some hfind)
    obtain ⟨hlt, hother⟩ := List.mem_zipIdx' hmem
    rw [UInt8.toNat_ofNat_of_lt' (lt_of_lt_of_le hlt hfits), List.getElem?_eq_getElem hlt, ← hother,
      hkey]
  next => cases hindex

theorem resolveCompiled_of_compile {instruction : Instruction} {compiled : CompiledInstruction}
    (hcompile : tryCompileInstruction keys instruction = .ok compiled) :
    resolveCompiled keys compiled = some (skeleton instruction) := by
  unfold tryCompileInstruction at hcompile
  obtain ⟨accounts, haccounts, hcompile⟩ := bind_eq_ok.mp hcompile
  obtain ⟨programIdIndex, hprogram, hcompile⟩ := bind_eq_ok.mp hcompile
  obtain rfl := Except.ok.inj hcompile
  have hread : (accounts.mapM fun index => keys[index.toNat]?) =
      some (instruction.accounts.map AccountMeta.pubkey) := by
    rw [mapM_eq_some, List.forall₂_map_right_iff]
    refine (mapM_eq_ok.mp haccounts).flip.imp ?_
    intro index account hindex
    exact getElem?_accountIndex hfits hindex
  rw [resolveCompiled, getElem?_accountIndex hfits hprogram, Option.bind_eq_bind, Option.bind_some,
    hread]
  rfl

end

/-- A compiled message resolves to its instructions through the tables it was compiled with. -/
theorem resolve_of_tryCompile {payer : PubkeyBytes} {instructions : List Instruction}
    {tables : List AddressLookupTableAccount} {recentBlockhash : Hash} {message : MessageV0}
    (hnodup : (tables.map AddressLookupTableAccount.key).Nodup)
    (hcompile : tryCompile payer instructions tables recentBlockhash = .ok message) :
    message.resolve tables = some (instructions.map skeleton) := by
  unfold tryCompile at hcompile
  obtain ⟨⟨extracted, keys⟩, hextract, hcompile⟩ := bind_eq_ok.mp hcompile
  obtain ⟨⟨header, staticKeys⟩, _, hcompile⟩ := bind_eq_ok.mp hcompile
  obtain ⟨compiled, hinstructions, hcompile⟩ := bind_eq_ok.mp hcompile
  obtain rfl := Except.ok.inj hcompile
  -- The lookups load what was drained for them, so the message has the keys it was compiled with.
  have hloaded : (extracted.map Prod.fst).mapM (loadLookup tables) =
      some (extracted.map Prod.snd) := by
    rw [mapM_eq_some, List.forall₂_map_left_iff, List.forall₂_map_right_iff, List.forall₂_same]
    intro pair hpair
    obtain ⟨table, htable, hloads⟩ := loads_of_extractTableLookups hextract pair hpair
    exact loadLookup_of_loads hnodup htable hloads
  unfold tryCompileInstructions at hinstructions
  split at hinstructions
  next => cases hinstructions
  next hfew =>
    rw [resolve, hloaded, Option.bind_eq_bind, Option.bind_some, mapM_eq_some,
      List.forall₂_map_right_iff]
    refine (mapM_eq_ok.mp hinstructions).flip.imp ?_
    intro instruction other hother
    exact resolveCompiled_of_compile (Nat.le_of_not_lt hfew) hother

end MessageV0

end SolFrontier.SolanaCore
