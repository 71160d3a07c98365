import SolFrontier.SolanaCore.Resolve

/-! # Rewriting the compute budget

The compute budget is rewritten by resolving a message's instructions and
compiling them again beside other budget instructions. What the instructions
mean in the message, their accounts in order with their effective flags and
their data, is the same afterwards.
-/

namespace SolFrontier.SolanaCore

open Foundation Types Message

/-- The instructions of a transaction with their effective flags. -/
def Transaction.resolved (tx : Transaction) : Option (List Instruction) :=
  tx.message.instructions.mapM (resolveInstruction standardSdk tx.message)

/-- Whether the instruction sets the limit. -/
def limitsUnits (instruction : Instruction) : Bool :=
  instruction.programId = computeBudgetId && isSetComputeUnitLimitData instruction.data

/-- A transaction whose message was compiled, under any blockhash, from instructions that treat
the compute budget as a program without accounts. -/
structure Built (tx : Transaction) (instructions : List Instruction) (payer : PubkeyBytes) :
    Prop where
  compiled : ∃ message, standardSdk.newMessage instructions (some payer) = some message ∧
    tx.message = { message with recentBlockhash := tx.message.recentBlockhash }
  few : tx.message.accountKeys.length ≤ 254
  notPassed : ∀ instruction ∈ instructions, ∀ account ∈ instruction.accounts,
    account.pubkey ≠ computeBudgetId
  takesNone : ∀ instruction ∈ instructions,
    instruction.programId = computeBudgetId → instruction.accounts = []

/-- Instructions that stand for the resolved ones in a rewritten message. -/
structure Rewrites (instructions others : List Instruction) (payer : PubkeyBytes) : Prop where
  accounts : others.flatMap Instruction.accounts =
    (instructions.map (effective instructions payer)).flatMap Instruction.accounts
  calls : ∀ key ≠ computeBudgetId, calls others key = calls instructions key
  members : ∀ other ∈ others, other.accounts = [] ∨
    ∃ instruction ∈ instructions, other = effective instructions payer instruction

section

variable {instructions others : List Instruction} {payer key : PubkeyBytes} {tx : Transaction}
  {message : Message}

theorem Built.compiledFrom (hbuilt : Built tx instructions payer) :
    CompiledFrom instructions payer tx.message := by
  obtain ⟨message, hcompile, hmessage⟩ := hbuilt.compiled
  rw [hmessage]
  exact compiledFrom_of_compile _ hcompile

/-! ## Reading the budget off a message -/

theorem program_lower (hcompiled : CompiledFrom instructions payer message)
    (hfits : message.accountKeys.length ≤ 256) {instruction : Instruction}
    (hmem : instruction ∈ instructions) :
    message.accountKeys[(lower (orderedKeys instructions (some payer))
      instruction).programIdIndex.toNat]? = some instruction.programId := by
  rw [hcompiled.accountKeys] at hfits ⊢
  exact (lowers_lower hmem hfits).program

theorem hasComputeBudgetInstructions_iff (hcompiled : CompiledFrom instructions payer tx.message)
    (hfits : tx.message.accountKeys.length ≤ 256) :
    hasComputeBudgetInstructions tx = true ↔
      ∃ instruction ∈ instructions, instruction.programId = computeBudgetId := by
  rw [hasComputeBudgetInstructions, hcompiled.instructions, List.any_map, List.any_eq_true]
  refine exists_congr fun instruction => and_congr_right fun hmem => ?_
  rw [Function.comp_apply, decide_eq_true_eq, program_lower hcompiled hfits hmem,
    Option.some.injEq]

theorem setsComputeUnitLimit_lower (hcompiled : CompiledFrom instructions payer message)
    (hfits : message.accountKeys.length ≤ 256) {instruction : Instruction}
    (hmem : instruction ∈ instructions) :
    setsComputeUnitLimit message (lower (orderedKeys instructions (some payer)) instruction) =
      limitsUnits instruction := by
  rw [setsComputeUnitLimit, program_lower hcompiled hfits hmem, limitsUnits]
  simp only [Option.some.injEq]
  rfl

/-! ## Compiling the rewritten instructions -/

theorem mem_keysOf : key ∈ keysOf instructions ↔ calls instructions key = true ∨
    key ∈ (instructions.flatMap Instruction.accounts).map AccountMeta.pubkey := by
  simp only [keysOf, calls, List.mem_flatMap, List.mem_cons, List.mem_map, List.any_eq_true,
    decide_eq_true_eq]
  constructor
  · rintro ⟨instruction, hmem, rfl | ⟨account, haccount, rfl⟩⟩
    · exact .inl ⟨instruction, hmem, rfl⟩
    · exact .inr ⟨account, ⟨instruction, hmem, haccount⟩, rfl⟩
  · rintro (⟨instruction, hmem, rfl⟩ | ⟨account, ⟨instruction, hmem, haccount⟩, rfl⟩)
    · exact ⟨instruction, hmem, .inl rfl⟩
    · exact ⟨instruction, hmem, .inr ⟨account, haccount, rfl⟩⟩

theorem mem_orderedKeys_iff :
    key ∈ orderedKeys instructions (some payer) ↔ key = payer ∨ key ∈ keysOf instructions := by
  constructor
  · intro hmem
    simp only [orderedKeys, Option.toList_some, List.mem_append, List.mem_singleton,
      mem_keysWith] at hmem
    tauto
  · rintro (rfl | hkey)
    · exact List.mem_cons_self ..
    · exact mem_orderedKeys hkey

theorem bpfLoaderUpgradeable_ne : bpfLoaderUpgradeable ≠ computeBudgetId := by
  decide +kernel

namespace Rewrites

variable (hrewrites : Rewrites instructions others payer)
include hrewrites

theorem mem_keysOf_iff (hkey : key ≠ computeBudgetId) :
    key ∈ keysOf others ↔ key ∈ keysOf instructions := by
  rw [mem_keysOf, mem_keysOf, hrewrites.calls key hkey, hrewrites.accounts, accounts_effective,
    List.map_map]
  rfl

theorem keysOf_subset : keysOf others ⊆ computeBudgetId :: keysOf instructions := by
  intro key hmem
  by_cases hkey : key = computeBudgetId
  · rw [hkey]
    exact List.mem_cons_self ..
  · exact List.mem_cons_of_mem _ ((hrewrites.mem_keysOf_iff hkey).mp hmem)

theorem namesLoader_eq : namesLoader others payer = namesLoader instructions payer := by
  rw [namesLoader, namesLoader, Bool.eq_iff_iff, List.contains_iff_mem, List.contains_iff_mem,
    mem_orderedKeys_iff, mem_orderedKeys_iff, hrewrites.mem_keysOf_iff bpfLoaderUpgradeable_ne]

/-- The rewritten instructions have their effective flags already. -/
theorem map_effective (hnotPassed : ∀ instruction ∈ instructions,
    ∀ account ∈ instruction.accounts, account.pubkey ≠ computeBudgetId) :
    others.map (effective others payer) = others := by
  have hfixed : ∀ other ∈ others, effective others payer other = other := by
    intro other hother
    rcases hrewrites.members other hother with hnone | ⟨instruction, hmem, rfl⟩
    · rw [effective, hnone, List.map_nil, ← hnone]
    · -- The flags are unions over all accounts, and these are the accounts with their unions.
      refine effective_effective hrewrites.accounts ?_ hrewrites.namesLoader_eq hmem
      intro account haccount
      exact hrewrites.calls _ (hnotPassed instruction hmem account haccount)
  rw [List.map_congr_left hfixed, List.map_id']

/-- The rewritten instructions compile for the same payer and resolve to themselves. -/
theorem resolved (hbuilt : Built tx instructions payer) :
    ∃ message, standardSdk.newMessage others (some payer) = some message ∧
      ∀ hash, CompiledFrom others payer { message with recentBlockhash := hash } ∧
        message.accountKeys.length ≤ 255 ∧
        (Transaction.mk tx.signatures { message with recentBlockhash := hash }).resolved =
          some others := by
  -- The compute budget is the only key that a rewriting can add.
  have hfew : (orderedKeys others (some payer)).length ≤ 255 := by
    have hlength := hbuilt.few
    rw [hbuilt.compiledFrom.accountKeys] at hlength
    exact (length_orderedKeys_le hrewrites.keysOf_subset).trans (Nat.succ_le_succ hlength)
  obtain ⟨message, hcompile⟩ := exists_compile (Nat.lt_succ_of_le hfew)
  refine ⟨message, hcompile, fun hash => ?_⟩
  have hcompiled := compiledFrom_of_compile hash hcompile
  have hkeys : message.accountKeys.length ≤ 255 := by
    rw [show message.accountKeys = _ from hcompiled.accountKeys]
    exact hfew
  refine ⟨hcompiled, hkeys, ?_⟩
  have hresolve := resolve_compiled hcompiled (hkeys.trans (Nat.le_succ 255))
  rwa [hrewrites.map_effective hbuilt.notPassed] at hresolve

end Rewrites

theorem head_accountKeys (hcompiled : CompiledFrom instructions payer message) :
    message.accountKeys.head? = some payer := by
  rw [hcompiled.accountKeys]
  rfl

theorem Built.fits (hbuilt : Built tx instructions payer) : tx.message.accountKeys.length ≤ 256 :=
  hbuilt.few.trans (by decide)

theorem Built.resolved_eq (hbuilt : Built tx instructions payer) :
    tx.resolved = some (instructions.map (effective instructions payer)) :=
  resolve_compiled hbuilt.compiledFrom hbuilt.fits

/-! ## Prepending -/

/-- The limit, and the price of a fee. -/
def budgetInstructions (computeUnitLimit : UInt32) (fee : UInt64) : List Instruction :=
  setComputeUnitLimit computeUnitLimit ::
    if 0 < fee then [setComputeUnitPrice fee] else []

theorem budgetInstructions_bare {computeUnitLimit : UInt32} {fee : UInt64}
    {instruction : Instruction} (hmem : instruction ∈ budgetInstructions computeUnitLimit fee) :
    instruction.programId = computeBudgetId ∧ instruction.accounts = [] := by
  rw [budgetInstructions] at hmem
  split at hmem
  · simp only [List.mem_cons, List.not_mem_nil, or_false] at hmem
    rcases hmem with rfl | rfl <;> exact ⟨rfl, rfl⟩
  · rw [List.mem_singleton.mp hmem]
    exact ⟨rfl, rfl⟩

theorem rewrites_prepended (computeUnitLimit : UInt32) (fee : UInt64) :
    Rewrites instructions
      (budgetInstructions computeUnitLimit fee ++
        instructions.map (effective instructions payer)) payer where
  accounts := by
    have hnone : (budgetInstructions computeUnitLimit fee).flatMap Instruction.accounts = [] := by
      rw [List.flatMap_eq_nil_iff]
      exact fun instruction hmem => (budgetInstructions_bare hmem).2
    rw [List.flatMap_append, hnone, List.nil_append]
  calls := by
    intro key hkey
    have hnone : (budgetInstructions computeUnitLimit fee).any
        (fun instruction => instruction.programId = key) = false := by
      rw [List.any_eq_false]
      intro instruction hmem hcalled
      rw [decide_eq_true_eq, (budgetInstructions_bare hmem).1] at hcalled
      exact hkey hcalled.symm
    rw [calls, List.any_append, hnone, Bool.false_or, List.any_map]
    rfl
  members := by
    intro other hmem
    rcases List.mem_append.mp hmem with hbudget | horiginal
    · exact .inl (budgetInstructions_bare hbudget).2
    · obtain ⟨instruction, hinstruction, rfl⟩ := List.mem_map.mp horiginal
      exact .inr ⟨instruction, hinstruction, rfl⟩

theorem hasComputeBudgetInstructions_resolved (hbuilt : Built tx instructions payer) :
    hasComputeBudgetInstructions tx = true ↔
      ∃ instruction ∈ instructions.map (effective instructions payer),
        instruction.programId = computeBudgetId := by
  rw [hasComputeBudgetInstructions_iff hbuilt.compiledFrom hbuilt.fits]
  simp only [List.mem_map, exists_exists_and_eq_and]
  rfl

theorem prependComputeBudget_of_missing (hbuilt : Built tx instructions payer)
    (hmissing : hasComputeBudgetInstructions tx = false) (computeUnitLimit : UInt32)
    (fee : UInt64) :
    ∃ rewritten, prependComputeBudget standardSdk tx computeUnitLimit fee =
        some (true, rewritten) ∧
      rewritten.resolved = some (budgetInstructions computeUnitLimit fee ++
        instructions.map (effective instructions payer)) ∧
      rewritten.message.accountKeys.head? = some payer ∧
      rewritten.signatures = tx.signatures ∧
      hasComputeBudgetInstructions rewritten = true := by
  obtain ⟨message, hcompile, hmessage⟩ :=
    (rewrites_prepended computeUnitLimit fee).resolved hbuilt
  obtain ⟨hcompiled, hkeys, hresolved⟩ := hmessage message.recentBlockhash
  refine ⟨{ tx with message }, ?_, hresolved, head_accountKeys hcompiled, rfl, ?_⟩
  · have horiginals : tx.message.instructions.mapM (resolveInstruction standardSdk tx.message) =
        some (instructions.map (effective instructions payer)) := hbuilt.resolved_eq
    rw [prependComputeBudget, if_neg (by rw [hmissing]; exact Bool.false_ne_true)]
    simp only [horiginals, head_accountKeys hbuilt.compiledFrom, Option.bind_eq_bind,
      Option.bind_some]
    exact Option.bind_eq_some_iff.mpr ⟨message, hcompile, rfl⟩
  · have hfits : message.accountKeys.length ≤ 256 := hkeys.trans (Nat.le_succ 255)
    rw [hasComputeBudgetInstructions_iff hcompiled hfits]
    exact ⟨setComputeUnitLimit computeUnitLimit, List.mem_append_left _ (List.mem_cons_self ..), rfl⟩

/-! ## Replacing -/

/-- The limit's data is replaced, whatever else it is. -/
def withLimit (newLimit : UInt32) (instruction : Instruction) : Instruction :=
  if limitsUnits instruction then
    { instruction with data := (setComputeUnitLimit newLimit).data }
  else instruction

theorem withLimit_accounts (newLimit : UInt32) (instruction : Instruction) :
    (withLimit newLimit instruction).accounts = instruction.accounts := by
  unfold withLimit
  split <;> rfl

theorem withLimit_programId (newLimit : UInt32) (instruction : Instruction) :
    (withLimit newLimit instruction).programId = instruction.programId := by
  unfold withLimit
  split <;> rfl

theorem rewrites_replaced (hbuilt : Built tx instructions payer) (newLimit : UInt32) :
    Rewrites instructions
      ((instructions.map (effective instructions payer)).map (withLimit newLimit)) payer where
  accounts := by
    rw [List.flatMap_map]
    simp only [withLimit_accounts]
  calls := by
    intro key _
    simp only [calls, List.any_map]
    refine congrArg (List.any instructions) (funext fun instruction => ?_)
    simp only [Function.comp_apply, withLimit_programId]
    rfl
  members := by
    intro other hmem
    obtain ⟨original, horiginal, rfl⟩ := List.mem_map.mp hmem
    obtain ⟨instruction, hinstruction, rfl⟩ := List.mem_map.mp horiginal
    cases hlimits : limitsUnits (effective instructions payer instruction) with
    | false =>
        right
        refine ⟨instruction, hinstruction, ?_⟩
        rw [withLimit, hlimits]
        rfl
    | true =>
        -- A limit is compiled anew, without accounts.
        left
        have hprogram : instruction.programId = computeBudgetId := by
          rw [limitsUnits, Bool.and_eq_true, decide_eq_true_eq] at hlimits
          exact hlimits.1
        rw [withLimit_accounts, effective, hbuilt.takesNone instruction hinstruction hprogram,
          List.map_nil]

/-- The limit that replaces another is that other with new data. -/
theorem setComputeUnitLimit_eq_withLimit (hbuilt : Built tx instructions payer)
    {instruction : Instruction} (hmem : instruction ∈ instructions)
    (hlimits : limitsUnits instruction = true) (newLimit : UInt32) :
    setComputeUnitLimit newLimit = withLimit newLimit (effective instructions payer instruction) := by
  have hprogram : instruction.programId = computeBudgetId := by
    rw [limitsUnits, Bool.and_eq_true, decide_eq_true_eq] at hlimits
    exact hlimits.1
  have heffective : limitsUnits (effective instructions payer instruction) = true := hlimits
  rw [withLimit, if_pos heffective, effective, hprogram, hbuilt.takesNone instruction hmem hprogram]
  rfl

theorem newInstructions_eq (hbuilt : Built tx instructions payer) (newLimit : UInt32) :
    (tx.message.instructions.mapM fun compiled =>
      if setsComputeUnitLimit tx.message compiled then some (setComputeUnitLimit newLimit)
      else resolveInstruction standardSdk tx.message compiled) =
      some ((instructions.map (effective instructions payer)).map (withLimit newLimit)) := by
  have hcompiled := hbuilt.compiledFrom
  rw [mapM_eq_some, hcompiled.instructions, List.map_map, List.forall₂_map_left_iff,
    List.forall₂_map_right_iff, List.forall₂_same]
  -- Either branch gives the resolved instruction with the new limit, if it is one.
  intro instruction hmem
  have hresolve := resolveInstruction_lower hcompiled hbuilt.fits hmem
  rw [hcompiled.accountKeys] at hresolve
  rw [setsComputeUnitLimit_lower hcompiled hbuilt.fits hmem, hresolve]
  cases hlimits : limitsUnits instruction with
  | true =>
      rw [if_pos rfl, setComputeUnitLimit_eq_withLimit hbuilt hmem hlimits newLimit]
      rfl
  | false =>
      have heffective : limitsUnits (effective instructions payer instruction) = false := hlimits
      rw [if_neg Bool.false_ne_true, Function.comp_apply, withLimit, heffective]
      rfl

theorem any_setsComputeUnitLimit (hbuilt : Built tx instructions payer) :
    tx.message.instructions.any (setsComputeUnitLimit tx.message) = true ↔
      ∃ instruction ∈ instructions.map (effective instructions payer),
        limitsUnits instruction = true := by
  have hcompiled := hbuilt.compiledFrom
  rw [List.any_eq_true, hcompiled.instructions]
  simp only [List.mem_map, exists_exists_and_eq_and]
  refine exists_congr fun instruction => and_congr_right fun hmem => ?_
  rw [setsComputeUnitLimit_lower hcompiled hbuilt.fits hmem]
  rfl

theorem replaceComputeUnitLimit_of_limit (hbuilt : Built tx instructions payer)
    (newLimit : UInt32)
    (hlimit : tx.message.instructions.any (setsComputeUnitLimit tx.message) = true) :
    ∃ rewritten, replaceComputeUnitLimit standardSdk tx newLimit = some (true, rewritten) ∧
      rewritten.resolved =
        some ((instructions.map (effective instructions payer)).map (withLimit newLimit)) ∧
      rewritten.message.accountKeys.head? = some payer ∧
      rewritten.signatures = tx.signatures ∧
      rewritten.message.recentBlockhash = tx.message.recentBlockhash := by
  obtain ⟨message, hcompile, hmessage⟩ := (rewrites_replaced hbuilt newLimit).resolved hbuilt
  obtain ⟨hcompiled, _, hresolved⟩ := hmessage tx.message.recentBlockhash
  refine ⟨_, ?_, hresolved, head_accountKeys hcompiled, rfl, rfl⟩
  rw [replaceComputeUnitLimit, newInstructions_eq hbuilt newLimit, Option.bind_eq_bind,
    Option.bind_some, if_pos hlimit, head_accountKeys hbuilt.compiledFrom]
  exact Option.bind_eq_some_iff.mpr ⟨message, hcompile, rfl⟩

theorem replaceComputeUnitLimit_of_none (hbuilt : Built tx instructions payer)
    (newLimit : UInt32)
    (hnone : tx.message.instructions.any (setsComputeUnitLimit tx.message) = false) :
    replaceComputeUnitLimit standardSdk tx newLimit = some (false, tx) := by
  rw [replaceComputeUnitLimit, newInstructions_eq hbuilt newLimit, Option.bind_eq_bind,
    Option.bind_some, hnone, if_neg Bool.false_ne_true]

/-- Without a limit there is nothing to replace. -/
theorem map_withLimit_of_none {originals : List Instruction} (newLimit : UInt32)
    (hnone : ¬ ∃ instruction ∈ originals, limitsUnits instruction = true) :
    originals.map (withLimit newLimit) = originals := by
  have hfixed : ∀ instruction ∈ originals, withLimit newLimit instruction = instruction := by
    intro instruction hmem
    rw [withLimit, if_neg fun hlimits => hnone ⟨instruction, hmem, hlimits⟩]
  rw [List.map_congr_left hfixed, List.map_id']

/-- Prepending puts the limit and the price of a fee before what the transaction resolved to,
once; replacing changes the data of limits only. -/
theorem budget_rewriting_preserves (tx : Transaction) (instructions : List Instruction)
    (payer : PubkeyBytes) (hbuilt : Built tx instructions payer) :
    ∃ originals, tx.resolved = some originals ∧
      (∀ computeUnitLimit fee,
        ((∃ instruction ∈ originals, instruction.programId = computeBudgetId) →
          prependComputeBudget standardSdk tx computeUnitLimit fee = some (false, tx)) ∧
        ((¬ ∃ instruction ∈ originals, instruction.programId = computeBudgetId) →
          ∃ rewritten, prependComputeBudget standardSdk tx computeUnitLimit fee =
              some (true, rewritten) ∧
            rewritten.resolved = some (setComputeUnitLimit computeUnitLimit ::
              (if 0 < fee then [setComputeUnitPrice fee] else []) ++ originals) ∧
            rewritten.message.accountKeys.head? = tx.message.accountKeys.head? ∧
            rewritten.signatures = tx.signatures ∧
            ∀ secondLimit secondFee,
              prependComputeBudget standardSdk rewritten secondLimit secondFee =
                some (false, rewritten))) ∧
      ∀ newLimit, ∃ found rewritten,
        replaceComputeUnitLimit standardSdk tx newLimit = some (found, rewritten) ∧
        (found = true ↔ ∃ instruction ∈ originals, limitsUnits instruction = true) ∧
        (found = false → rewritten = tx) ∧
        rewritten.resolved = some (originals.map fun instruction =>
          if limitsUnits instruction then
            { instruction with data := (setComputeUnitLimit newLimit).data }
          else instruction) ∧
        rewritten.message.accountKeys.head? = tx.message.accountKeys.head? ∧
        rewritten.signatures = tx.signatures ∧
        rewritten.message.recentBlockhash = tx.message.recentBlockhash := by
  have hhead := head_accountKeys hbuilt.compiledFrom
  refine ⟨_, hbuilt.resolved_eq, fun computeUnitLimit fee => ⟨?_, ?_⟩, fun newLimit => ?_⟩
  · intro hbudget
    rw [prependComputeBudget, if_pos ((hasComputeBudgetInstructions_resolved hbuilt).mpr hbudget)]
  · intro hmissing
    rw [← hasComputeBudgetInstructions_resolved hbuilt, Bool.not_eq_true] at hmissing
    obtain ⟨rewritten, hprepend, hresolved, hpayer, hsignatures, hbudget⟩ :=
      prependComputeBudget_of_missing hbuilt hmissing computeUnitLimit fee
    refine ⟨rewritten, hprepend, hresolved, hpayer.trans hhead.symm, hsignatures, ?_⟩
    intro secondLimit secondFee
    rw [prependComputeBudget, if_pos hbudget]
  · have hany := any_setsComputeUnitLimit hbuilt
    cases hlimit : tx.message.instructions.any (setsComputeUnitLimit tx.message) with
    | true =>
        obtain ⟨rewritten, hreplace, hresolved, hpayer, hsignatures, hhash⟩ :=
          replaceComputeUnitLimit_of_limit hbuilt newLimit hlimit
        refine ⟨true, rewritten, hreplace, ?_, ?_, hresolved, hpayer.trans hhead.symm, hsignatures,
          hhash⟩
        · rw [← hany, hlimit]
        · intro hfalse
          cases hfalse
    | false =>
        rw [hlimit] at hany
        refine ⟨false, tx, replaceComputeUnitLimit_of_none hbuilt newLimit hlimit, hany,
          fun _ => rfl, ?_, rfl, rfl, rfl⟩
        rw [hbuilt.resolved_eq]
        exact congrArg some
          (map_withLimit_of_none newLimit fun hsome => Bool.false_ne_true (hany.mpr hsome)).symm

end

/-- A transaction with one call that writes to the payer and to another account. -/
def callTransaction : Transaction where
  signatures := []
  message :=
    { header := ⟨1, 0, 1⟩
      accountKeys := [⟨⟨List.replicate 32 9, rfl⟩⟩, ⟨⟨List.replicate 32 1, rfl⟩⟩,
        ⟨⟨List.replicate 32 2, rfl⟩⟩]
      recentBlockhash := ⟨List.replicate 32 7, rfl⟩
      instructions := [⟨2, [0, 1], [5]⟩] }

def calledInstruction : Instruction where
  programId := ⟨⟨List.replicate 32 2, rfl⟩⟩
  accounts := [⟨⟨⟨List.replicate 32 9, rfl⟩⟩, true, true⟩,
    ⟨⟨⟨List.replicate 32 1, rfl⟩⟩, false, true⟩]
  data := [5]

/-- Its call comes after the limit once that is prepended. -/
theorem budget_rewriting_preserves_call :
    callTransaction.resolved = some [calledInstruction] ∧
      ∃ rewritten, prependComputeBudget standardSdk callTransaction 200000 0 =
          some (true, rewritten) ∧
        rewritten.resolved = some [setComputeUnitLimit 200000, calledInstruction] := by
  have hbuilt : Built callTransaction [calledInstruction] ⟨⟨List.replicate 32 9, rfl⟩⟩ :=
    { compiled := ⟨{ callTransaction.message with recentBlockhash := ⟨List.replicate 32 0, rfl⟩ },
        by decide +kernel, rfl⟩
      few := by decide
      notPassed := by decide +kernel
      takesNone := by decide +kernel }
  have hresolved : callTransaction.resolved = some [calledInstruction] := by decide +kernel
  obtain ⟨originals, horiginals, hprepend, -⟩ :=
    budget_rewriting_preserves callTransaction [calledInstruction] _ hbuilt
  obtain rfl := Option.some.inj (hresolved.symm.trans horiginals)
  obtain ⟨rewritten, hrewritten, hafter, -⟩ := (hprepend 200000 0).2 (by decide +kernel)
  exact ⟨hresolved, rewritten, hrewritten, hafter⟩

end SolFrontier.SolanaCore
