import SolFrontier.SolanaCore.Transaction

/-! # What compiling keeps

A compiled message names, by position, exactly the programs and accounts of
the instructions it was compiled from, however their keys coincide and however
the message orders them.
-/

namespace SolFrontier.SolanaCore

open Foundation Types

/-- A compiled instruction stands for an instruction under these keys. -/
structure Lowers (keys : List PubkeyBytes) (instruction : Instruction)
    (compiled : CompiledInstruction) : Prop where
  program : keys[compiled.programIdIndex.toNat]? = some instruction.programId
  accounts : List.Forall₂ (fun account index => keys[index.toNat]? = some account.pubkey)
    instruction.accounts compiled.accounts
  data : compiled.data = instruction.data

namespace Message

def signs (instructions : List Instruction) (key : PubkeyBytes) : Bool :=
  (instructions.flatMap Instruction.accounts).any fun account =>
    account.pubkey = key && account.isSigner

def writes (instructions : List Instruction) (key : PubkeyBytes) : Bool :=
  (instructions.flatMap Instruction.accounts).any fun account =>
    account.pubkey = key && account.isWritable

/-- The keys besides the payer that have exactly these flags. -/
def keysWith (instructions : List Instruction) (payer : Option PubkeyBytes)
    (signer writable : Bool) : List PubkeyBytes :=
  (sortedKeys instructions payer).filter fun key =>
    signs instructions key = signer && writes instructions key = writable

/-- The keys in the order of a compiled message. -/
def orderedKeys (instructions : List Instruction) (payer : Option PubkeyBytes) :
    List PubkeyBytes :=
  payer.toList ++ keysWith instructions payer true true ++ keysWith instructions payer true false ++
    keysWith instructions payer false true ++ keysWith instructions payer false false

/-- The position by which an instruction names a key. -/
def position (keys : List PubkeyBytes) (key : PubkeyBytes) : UInt8 := .ofNat (keys.idxOf key)

def lower (keys : List PubkeyBytes) (instruction : Instruction) : CompiledInstruction where
  programIdIndex := position keys instruction.programId
  accounts := instruction.accounts.map fun account => position keys account.pubkey
  data := instruction.data

variable {instructions : List Instruction} {payer : Option PubkeyBytes} {message : Message}

theorem compile_eq : compile instructions payer =
    if (payer.toList ++ keysWith instructions payer true true).length +
        (keysWith instructions payer true false).length < 256 ∧
      (keysWith instructions payer false false).length < 256 then
      some
        { header :=
            { numRequiredSignatures :=
                .ofNat ((payer.toList ++ keysWith instructions payer true true).length +
                  (keysWith instructions payer true false).length)
              numReadonlySignedAccounts := .ofNat (keysWith instructions payer true false).length
              numReadonlyUnsignedAccounts :=
                .ofNat (keysWith instructions payer false false).length }
          accountKeys := orderedKeys instructions payer
          recentBlockhash := ⟨List.replicate 32 0, rfl⟩
          instructions := instructions.map (lower (orderedKeys instructions payer)) }
    else none := by
  have hclass : ∀ signer writable, keysWith instructions payer signer writable =
      (sortedKeys instructions payer).filter fun key =>
        (if signer then signs instructions key else !signs instructions key) &&
          (if writable then writes instructions key else !writes instructions key) := by
    intro signer writable
    unfold keysWith
    congr 1
    funext key
    cases signer <;> cases writable <;> cases signs instructions key <;>
      cases writes instructions key <;> rfl
  simp only [orderedKeys, hclass]
  rfl

/-! ## Every key is found in its position -/

/-- The four classes partition the keys. -/
theorem length_classes (keys : List PubkeyBytes) (signs writes : PubkeyBytes → Bool) :
    (keys.filter fun key => signs key = true && writes key = true).length +
        (keys.filter fun key => signs key = true && writes key = false).length +
        (keys.filter fun key => signs key = false && writes key = true).length +
        (keys.filter fun key => signs key = false && writes key = false).length =
      keys.length := by
  induction keys with
  | nil => rfl
  | cons key keys ih =>
      cases hsigns : signs key <;> cases hwrites : writes key <;>
        simp [hsigns, hwrites] at ih ⊢ <;> omega

theorem length_orderedKeys (instructions : List Instruction) (payer : Option PubkeyBytes) :
    (orderedKeys instructions payer).length =
      payer.toList.length + (sortedKeys instructions payer).length := by
  have hclasses := length_classes (sortedKeys instructions payer) (signs instructions)
    (writes instructions)
  simp only [orderedKeys, keysWith, List.length_append]
  omega

theorem length_sortedKeys_le (instructions : List Instruction) (payer : Option PubkeyBytes) :
    (sortedKeys instructions payer).length ≤
      (instructions.map fun instruction => instruction.accounts.length + 1).sum := by
  rw [sortedKeys, List.length_insertionSort]
  refine (List.length_filter_le _ _).trans ((List.dedup_sublist _).length_le.trans ?_)
  rw [List.length_flatMap]
  simp

/-- The keys that a message needs. -/
def keysOf (instructions : List Instruction) : List PubkeyBytes :=
  instructions.flatMap fun instruction =>
    instruction.programId :: instruction.accounts.map AccountMeta.pubkey

theorem mem_orderedKeys {key : PubkeyBytes} (hkey : key ∈ keysOf instructions) :
    key ∈ orderedKeys instructions payer := by
  by_cases hpayer : payer = some key
  · simp [orderedKeys, hpayer]
  · have hsorted : key ∈ sortedKeys instructions payer := by
      rw [sortedKeys, List.mem_insertionSort, List.mem_filter, List.mem_dedup]
      exact ⟨hkey, by simpa using hpayer⟩
    -- One of the four classes has it.
    cases hsigns : signs instructions key <;> cases hwrites : writes instructions key <;>
      simp [orderedKeys, keysWith, hsorted, hsigns, hwrites]

theorem getElem?_position {keys : List PubkeyBytes} {key : PubkeyBytes} (hmem : key ∈ keys)
    (hfits : keys.length ≤ 256) : keys[(position keys key).toNat]? = some key := by
  have hlt := List.idxOf_lt_length_of_mem hmem
  rw [position, UInt8.toNat_ofNat_of_lt' (lt_of_lt_of_le hlt hfits), List.getElem?_idxOf hmem]

/-- An instruction of the list is lowered to one that stands for it. -/
theorem lowers_lower {instruction : Instruction} (hmem : instruction ∈ instructions)
    (hfits : (orderedKeys instructions payer).length ≤ 256) :
    Lowers (orderedKeys instructions payer) instruction
      (lower (orderedKeys instructions payer) instruction) where
  program := by
    refine getElem?_position (mem_orderedKeys ?_) hfits
    exact List.mem_flatMap.mpr ⟨instruction, hmem, List.mem_cons_self ..⟩
  accounts := by
    rw [lower, List.forall₂_map_right_iff, List.forall₂_same]
    intro account haccount
    refine getElem?_position (mem_orderedKeys ?_) hfits
    exact List.mem_flatMap.mpr
      ⟨instruction, hmem, List.mem_cons_of_mem _ (List.mem_map_of_mem haccount)⟩
  data := rfl

/-! ## Compiling for a single signer -/

/-- Instructions that ask for no other signature than the payer's. -/
def OnlySigner (instructions : List Instruction) (payer : PubkeyBytes) : Prop :=
  ∀ instruction ∈ instructions, ∀ account ∈ instruction.accounts,
    account.isSigner = true → account.pubkey = payer

theorem keysWith_signer {payer : PubkeyBytes} (honly : OnlySigner instructions payer)
    (writable : Bool) : keysWith instructions (some payer) true writable = [] := by
  rw [keysWith, List.filter_eq_nil_iff]
  intro key hkey hflags
  have hother : payer ≠ key := by
    rw [sortedKeys, List.mem_insertionSort, List.mem_filter] at hkey
    simpa using hkey.2
  have hsigns : signs instructions key = true := by
    rw [Bool.and_eq_true, decide_eq_true_eq] at hflags
    exact hflags.1
  simp only [signs, List.any_eq_true, List.mem_flatMap, Bool.and_eq_true,
    decide_eq_true_eq] at hsigns
  obtain ⟨account, ⟨instruction, hinstruction, haccount⟩, hsame, hsigner⟩ := hsigns
  exact hother ((honly instruction hinstruction account haccount hsigner).symm.trans hsame)

/-- Instructions of one signer with few keys compile to a message with that one
signature, whose payer comes first and whose instructions stand for them. -/
theorem compile_onlySigner {payer : PubkeyBytes} (honly : OnlySigner instructions payer)
    (hfew : (instructions.map fun instruction => instruction.accounts.length + 1).sum < 256) :
    ∃ message, compile instructions (some payer) = some message ∧
      message.header.numRequiredSignatures = 1 ∧ message.accountKeys.head? = some payer ∧
      message.recentBlockhash = ⟨List.replicate 32 0, rfl⟩ ∧
      List.Forall₂ (Lowers message.accountKeys) instructions message.instructions := by
  have hsorted := length_sortedKeys_le instructions (some payer)
  have hfits : (orderedKeys instructions (some payer)).length ≤ 256 := by
    rw [length_orderedKeys, Option.toList_some, List.length_singleton]
    omega
  have hreadonly : (keysWith instructions (some payer) false false).length < 256 :=
    (List.length_filter_le _ _).trans_lt (lt_of_le_of_lt hsorted hfew)
  rw [compile_eq, keysWith_signer honly true, keysWith_signer honly false, if_pos]
  · refine ⟨_, rfl, rfl, rfl, rfl, ?_⟩
    rw [List.forall₂_map_right_iff, List.forall₂_same]
    intro instruction hmem
    exact lowers_lower hmem hfits
  · exact ⟨by simp, hreadonly⟩

end Message

end SolFrontier.SolanaCore
