import SolFrontier.Foundation.Repository
import SolFrontier.SolanaCore.Compile
import SolFrontier.SolanaCore.Compute

/-! # What a compiled message resolves to

Resolving gives every instruction back with the flags its accounts have in the
whole message: an account signs if some instruction asks it to, the payer
always does, and a program that is called is not written to unless the message
names the upgradeable loader.
-/

namespace SolFrontier.SolanaCore

open Foundation Types

namespace Message

def calls (instructions : List Instruction) (key : PubkeyBytes) : Bool :=
  instructions.any fun instruction => instruction.programId = key

def namesLoader (instructions : List Instruction) (payer : PubkeyBytes) : Bool :=
  (orderedKeys instructions (some payer)).contains bpfLoaderUpgradeable

def effectiveSigner (instructions : List Instruction) (payer key : PubkeyBytes) : Bool :=
  key = payer || signs instructions key

def effectiveWritable (instructions : List Instruction) (payer key : PubkeyBytes) : Bool :=
  (key = payer || writes instructions key) &&
    !(calls instructions key && !namesLoader instructions payer)

def effectiveMeta (instructions : List Instruction) (payer key : PubkeyBytes) : AccountMeta where
  pubkey := key
  isSigner := effectiveSigner instructions payer key
  isWritable := effectiveWritable instructions payer key

/-- An instruction with the flags its accounts have beside the others. -/
def effective (instructions : List Instruction) (payer : PubkeyBytes)
    (instruction : Instruction) : Instruction where
  programId := instruction.programId
  accounts := instruction.accounts.map fun account =>
    effectiveMeta instructions payer account.pubkey
  data := instruction.data

/-! ## The boundaries between the classes -/

def writableSignerKeys (instructions : List Instruction) (payer : PubkeyBytes) :
    List PubkeyBytes :=
  payer :: keysWith instructions (some payer) true true

def signerKeys (instructions : List Instruction) (payer : PubkeyBytes) : List PubkeyBytes :=
  writableSignerKeys instructions payer ++ keysWith instructions (some payer) true false

/-- The keys before the last class. -/
def frontKeys (instructions : List Instruction) (payer : PubkeyBytes) : List PubkeyBytes :=
  signerKeys instructions payer ++ keysWith instructions (some payer) false true

theorem orderedKeys_eq (instructions : List Instruction) (payer : PubkeyBytes) :
    orderedKeys instructions (some payer) =
      frontKeys instructions payer ++ keysWith instructions (some payer) false false := by
  rfl

theorem frontKeys_initial (instructions : List Instruction) (payer : PubkeyBytes) :
    frontKeys instructions payer <+: orderedKeys instructions (some payer) :=
  List.prefix_append _ _

theorem signerKeys_initial (instructions : List Instruction) (payer : PubkeyBytes) :
    signerKeys instructions payer <+: orderedKeys instructions (some payer) :=
  (List.prefix_append _ _).trans (frontKeys_initial instructions payer)

theorem writableSignerKeys_initial (instructions : List Instruction) (payer : PubkeyBytes) :
    writableSignerKeys instructions payer <+: orderedKeys instructions (some payer) :=
  (List.prefix_append _ _).trans (signerKeys_initial instructions payer)

/-- A message by what compiling decides of it, whatever its blockhash. -/
structure CompiledFrom (instructions : List Instruction) (payer : PubkeyBytes)
    (message : Message) : Prop where
  accountKeys : message.accountKeys = orderedKeys instructions (some payer)
  required : message.header.numRequiredSignatures.toNat = (signerKeys instructions payer).length
  readonlySigned : message.header.numReadonlySignedAccounts.toNat =
    (keysWith instructions (some payer) true false).length
  readonlyUnsigned : message.header.numReadonlyUnsignedAccounts.toNat =
    (keysWith instructions (some payer) false false).length
  instructions : message.instructions =
    instructions.map (lower (orderedKeys instructions (some payer)))

section

variable {instructions : List Instruction} {payer key : PubkeyBytes} {message : Message}

theorem compiledFrom_of_compile (hash : Hash)
    (hcompile : compile instructions (some payer) = some message) :
    CompiledFrom instructions payer { message with recentBlockhash := hash } := by
  rw [compile_eq] at hcompile
  split at hcompile
  next hcounts =>
    obtain ⟨hsigners, hothers⟩ := hcounts
    obtain rfl := Option.some.inj hcompile
    rw [Option.toList_some] at hsigners
    exact
      { accountKeys := rfl
        required := (UInt8.toNat_ofNat_of_lt' hsigners).trans (List.length_append ..).symm
        readonlySigned := UInt8.toNat_ofNat_of_lt' (show _ < 256 by omega)
        readonlyUnsigned := UInt8.toNat_ofNat_of_lt' hothers
        instructions := rfl }
  next => cases hcompile

theorem mem_sortedKeys :
    key ∈ sortedKeys instructions (some payer) ↔ key ∈ keysOf instructions ∧ key ≠ payer := by
  rw [sortedKeys, List.mem_insertionSort, List.mem_filter, List.mem_dedup, decide_eq_true_eq,
    ne_eq, Option.some.injEq, eq_comm, keysOf]

theorem mem_keysWith {signer writable : Bool} :
    key ∈ keysWith instructions (some payer) signer writable ↔
      (key ∈ keysOf instructions ∧ key ≠ payer) ∧ signs instructions key = signer ∧
        writes instructions key = writable := by
  rw [keysWith, List.mem_filter, mem_sortedKeys]
  simp

theorem idxOf_append_lt {α : Type} [DecidableEq α] {value : α} {front back : List α} :
    (front ++ back).idxOf value < front.length ↔ value ∈ front := by
  rw [List.idxOf_append]
  split
  next hmem => simp [hmem, List.idxOf_lt_length_of_mem hmem]
  next hmem => simp [hmem]

/-- The position of a key lies before a boundary between classes when an earlier class has it. -/
theorem position_lt {keys front : List PubkeyBytes} (hfront : front <+: keys)
    (hkey : key ∈ keys) (hfits : keys.length ≤ 256) :
    (position keys key).toNat < front.length ↔ key ∈ front := by
  have hlt := List.idxOf_lt_length_of_mem hkey
  obtain ⟨back, rfl⟩ := hfront
  rw [position, UInt8.toNat_ofNat_of_lt' (lt_of_lt_of_le hlt hfits), idxOf_append_lt]

theorem position_inj {keys : List PubkeyBytes} {left right : PubkeyBytes} (hleft : left ∈ keys)
    (hright : right ∈ keys) (hfits : keys.length ≤ 256)
    (heq : position keys left = position keys right) : left = right := by
  have hread := getElem?_position hleft hfits
  rw [heq, getElem?_position hright hfits] at hread
  exact (Option.some.inj hread).symm

section Resolved

variable (hcompiled : CompiledFrom instructions payer message)
  (hfits : message.accountKeys.length ≤ 256)
include hcompiled hfits

theorem isSigner_position (hkey : key ∈ keysOf instructions) :
    message.isSigner (position message.accountKeys key).toNat =
      effectiveSigner instructions payer key := by
  have hmem : key ∈ message.accountKeys := hcompiled.accountKeys ▸ mem_orderedKeys hkey
  rw [hcompiled.accountKeys] at hmem hfits ⊢
  rw [isSigner, hcompiled.required, effectiveSigner, Bool.eq_iff_iff, decide_eq_true_eq,
    position_lt (signerKeys_initial instructions payer) hmem hfits]
  simp only [signerKeys, writableSignerKeys, List.mem_append, List.mem_cons, mem_keysWith,
    Bool.or_eq_true, decide_eq_true_eq]
  by_cases hpayer : key = payer
  · simp [hpayer]
  · cases signs instructions key <;> cases writes instructions key <;> simp [hpayer, hkey]

/-- The writable classes are the first and the third. -/
theorem isWritableIndex_position (hkey : key ∈ keysOf instructions) :
    message.isWritableIndex (position message.accountKeys key).toNat =
      (key = payer || writes instructions key) := by
  have hmem : key ∈ message.accountKeys := hcompiled.accountKeys ▸ mem_orderedKeys hkey
  rw [hcompiled.accountKeys] at hmem hfits
  have hfirst : message.header.numRequiredSignatures.toNat -
      message.header.numReadonlySignedAccounts.toNat =
      (writableSignerKeys instructions payer).length := by
    rw [hcompiled.required, hcompiled.readonlySigned, signerKeys, List.length_append,
      Nat.add_sub_cancel]
  have hlast : message.accountKeys.length - message.header.numReadonlyUnsignedAccounts.toNat =
      (frontKeys instructions payer).length := by
    rw [hcompiled.accountKeys, hcompiled.readonlyUnsigned, orderedKeys_eq, List.length_append,
      Nat.add_sub_cancel]
  -- Each comparison with a header count asks for the classes before a boundary.
  rw [Bool.eq_iff_iff, isWritableIndex, hfirst, hlast, hcompiled.required, hcompiled.accountKeys]
  simp only [Bool.or_eq_true, Bool.and_eq_true, decide_eq_true_eq, ← Nat.not_lt,
    position_lt (writableSignerKeys_initial instructions payer) hmem hfits,
    position_lt (signerKeys_initial instructions payer) hmem hfits,
    position_lt (frontKeys_initial instructions payer) hmem hfits]
  simp only [frontKeys, signerKeys, writableSignerKeys, List.mem_append, List.mem_cons,
    mem_keysWith]
  by_cases hpayer : key = payer
  · simp [hpayer]
  · cases signs instructions key <;> cases writes instructions key <;> simp [hpayer, hkey]

theorem any_called_position (hkey : key ∈ keysOf instructions) :
    (message.instructions.any fun compiled =>
      compiled.programIdIndex.toNat = (position message.accountKeys key).toNat) =
      calls instructions key := by
  have hmem : key ∈ message.accountKeys := hcompiled.accountKeys ▸ mem_orderedKeys hkey
  rw [hcompiled.accountKeys] at hmem hfits ⊢
  rw [hcompiled.instructions, List.any_map, calls, Bool.eq_iff_iff, List.any_eq_true,
    List.any_eq_true]
  refine exists_congr fun instruction => and_congr_right fun hinstruction => ?_
  have hprogram : instruction.programId ∈ orderedKeys instructions (some payer) :=
    mem_orderedKeys (List.mem_flatMap.mpr ⟨instruction, hinstruction, List.mem_cons_self ..⟩)
  rw [Function.comp_apply, decide_eq_true_eq, decide_eq_true_eq]
  constructor
  · intro hposition
    exact position_inj hprogram hmem hfits (UInt8.toNat_inj.mp hposition)
  · rintro rfl
    rfl

theorem isMaybeWritable_position (hkey : key ∈ keysOf instructions) :
    message.isMaybeWritable (position message.accountKeys key).toNat =
      effectiveWritable instructions payer key := by
  rw [isMaybeWritable, isWritableIndex_position hcompiled hfits hkey,
    any_called_position hcompiled hfits hkey, hcompiled.accountKeys]
  rfl

/-- An instruction of the list resolves to itself with its effective flags. -/
theorem resolveInstruction_lower {instruction : Instruction} (hmem : instruction ∈ instructions) :
    resolveInstruction standardSdk message (lower message.accountKeys instruction) =
      some (effective instructions payer instruction) := by
  have hlowers : Lowers message.accountKeys instruction
      (lower message.accountKeys instruction) := by
    rw [hcompiled.accountKeys] at hfits ⊢
    exact lowers_lower hmem hfits
  have haccounts : (instruction.accounts.map fun account =>
      position message.accountKeys account.pubkey).mapM (fun index => do
        let pubkey ← message.accountKeys[index.toNat]?
        some
          { pubkey
            isSigner := message.isSigner index.toNat
            isWritable := message.isMaybeWritable index.toNat : AccountMeta }) =
      some (instruction.accounts.map fun account =>
        effectiveMeta instructions payer account.pubkey) := by
    rw [mapM_eq_some, List.forall₂_map_left_iff, List.forall₂_map_right_iff, List.forall₂_same]
    intro account haccount
    have hkey : account.pubkey ∈ keysOf instructions :=
      List.mem_flatMap.mpr
        ⟨instruction, hmem, List.mem_cons_of_mem _ (List.mem_map_of_mem haccount)⟩
    have hread := getElem?_position (hcompiled.accountKeys ▸ mem_orderedKeys hkey) hfits
    rw [hread, Option.bind_eq_bind, Option.bind_some, isSigner_position hcompiled hfits hkey,
      isMaybeWritable_position hcompiled hfits hkey, effectiveMeta]
  rw [resolveInstruction, hlowers.program, Option.bind_eq_bind, Option.bind_some]
  exact congrArg (Option.bind · fun accounts =>
    some (Instruction.mk instruction.programId accounts instruction.data)) haccounts

/-- The instructions of a compiled message resolve, in their order, with their effective flags. -/
theorem resolve_compiled :
    message.instructions.mapM (resolveInstruction standardSdk message) =
      some (instructions.map (effective instructions payer)) := by
  rw [mapM_eq_some, hcompiled.instructions, List.forall₂_map_left_iff, List.forall₂_map_right_iff,
    List.forall₂_same]
  intro instruction hmem
  have hresolve := resolveInstruction_lower hcompiled hfits hmem
  rwa [hcompiled.accountKeys] at hresolve

end Resolved

/-! ## Compiling what was resolved -/

/-- Instructions with few keys compile. -/
theorem exists_compile (hfew : (orderedKeys instructions (some payer)).length < 256) :
    ∃ message, compile instructions (some payer) = some message := by
  have hfront := congrArg List.length (orderedKeys_eq instructions payer)
  have hsigners : (signerKeys instructions payer).length ≤
      (orderedKeys instructions (some payer)).length :=
    (signerKeys_initial instructions payer).length_le
  rw [List.length_append] at hfront
  rw [compile_eq, if_pos]
  · exact ⟨_, rfl⟩
  · refine ⟨?_, by omega⟩
    rw [← List.length_append]
    exact lt_of_le_of_lt hsigners hfew

/-- Keys that other instructions need as well, but for one, are at most one more. -/
theorem length_orderedKeys_le {others : List Instruction} {extra : PubkeyBytes}
    (hkeys : keysOf others ⊆ extra :: keysOf instructions) :
    (orderedKeys others (some payer)).length ≤
      (orderedKeys instructions (some payer)).length + 1 := by
  rw [length_orderedKeys, length_orderedKeys, sortedKeys, sortedKeys, List.length_insertionSort,
    List.length_insertionSort]
  have hsubset : (keysOf others).dedup.filter (fun key => (some payer : Option _) ≠ some key) ⊆
      extra :: (keysOf instructions).dedup.filter fun key => (some payer : Option _) ≠ some key := by
    intro key hmem
    obtain ⟨hkey, hpayer⟩ := List.mem_filter.mp hmem
    rcases List.mem_cons.mp (hkeys (List.mem_dedup.mp hkey)) with rfl | hother
    · exact List.mem_cons_self ..
    · exact List.mem_cons_of_mem _ (List.mem_filter.mpr ⟨List.mem_dedup.mpr hother, hpayer⟩)
  have hle := (((List.nodup_dedup _).filter _).subperm hsubset).length_le
  rw [List.length_cons] at hle
  exact Nat.add_le_add_left hle _ |>.trans (Nat.le_of_eq (Nat.add_assoc _ _ _).symm)

theorem accounts_effective :
    (instructions.map (effective instructions payer)).flatMap Instruction.accounts =
      (instructions.flatMap Instruction.accounts).map fun account =>
        effectiveMeta instructions payer account.pubkey := by
  rw [List.flatMap_map, List.map_flatMap]
  rfl

/-- A flag that depends on the key alone is the key's, if an account has the key. -/
theorem any_effective {accounts : List AccountMeta} {flag : AccountMeta → Bool}
    (hkey : key ∈ accounts.map AccountMeta.pubkey) :
    ((accounts.map fun account => effectiveMeta instructions payer account.pubkey).any
      fun account => account.pubkey = key && flag account) =
      flag (effectiveMeta instructions payer key) := by
  rw [Bool.eq_iff_iff, List.any_map, List.any_eq_true]
  constructor
  · rintro ⟨account, _, hflag⟩
    rw [Function.comp_apply, Bool.and_eq_true, decide_eq_true_eq] at hflag
    obtain ⟨rfl, hflag⟩ := hflag
    exact hflag
  · intro hflag
    obtain ⟨account, haccount, rfl⟩ := List.mem_map.mp hkey
    refine ⟨account, haccount, ?_⟩
    rw [Function.comp_apply, Bool.and_eq_true, decide_eq_true_eq]
    exact ⟨rfl, hflag⟩

/-- Beside instructions that have the resolved accounts, call the same of them and name the loader
if it was named, flags do not change again. -/
theorem effective_effective {others : List Instruction} {instruction : Instruction}
    (haccounts : others.flatMap Instruction.accounts =
      (instructions.map (effective instructions payer)).flatMap Instruction.accounts)
    (hcalls : ∀ account ∈ instruction.accounts,
      calls others account.pubkey = calls instructions account.pubkey)
    (hloader : namesLoader others payer = namesLoader instructions payer)
    (hmem : instruction ∈ instructions) :
    effective others payer (effective instructions payer instruction) =
      effective instructions payer instruction := by
  have hmeta : ∀ account ∈ instruction.accounts,
      effectiveMeta others payer account.pubkey = effectiveMeta instructions payer account.pubkey := by
    intro account haccount
    have hkey : account.pubkey ∈ (instructions.flatMap Instruction.accounts).map
        AccountMeta.pubkey :=
      List.mem_map_of_mem (List.mem_flatMap.mpr ⟨instruction, hmem, haccount⟩)
    have hsigns : signs others account.pubkey =
        effectiveSigner instructions payer account.pubkey := by
      rw [signs, haccounts, accounts_effective, any_effective hkey, effectiveMeta]
    have hwrites : writes others account.pubkey =
        effectiveWritable instructions payer account.pubkey := by
      rw [writes, haccounts, accounts_effective, any_effective hkey, effectiveMeta]
    rw [effectiveMeta, effectiveMeta, effectiveSigner, effectiveWritable, hsigns, hwrites,
      hcalls account haccount, hloader, effectiveSigner, effectiveWritable]
    -- The payer has both flags anyway, and what was demoted is demoted again.
    congr 1
    · rw [← Bool.or_assoc, Bool.or_self]
    · cases decide (account.pubkey = payer) <;> cases writes instructions account.pubkey <;> simp
  rw [effective, effective, List.map_map]
  congr 1
  exact List.map_congr_left hmeta

end

end Message

end SolFrontier.SolanaCore
