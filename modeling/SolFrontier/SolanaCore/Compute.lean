import SolFrontier.SolanaCore.Transaction

/-! # Compute budgets and priority fees

Every transaction carries a compute unit limit and, when a priority fee is
paid, a price, as its first instructions. Rewriting them rebuilds the message
from its resolved instructions.
-/

namespace SolFrontier.SolanaCore

open Foundation Types

def defaultComputeUnits : UInt32 := 200000

def computeBudgetId : PubkeyBytes :=
  pinnedPubkey "ComputeBudget111111111111111111111111111111" (by decide +kernel)

def setComputeUnitLimit (units : UInt32) : Instruction :=
  ⟨computeBudgetId, [], 2 :: Codec.u32.encode units⟩

def setComputeUnitPrice (microlamports : UInt64) : Instruction :=
  ⟨computeBudgetId, [], 3 :: Codec.u64.encode microlamports⟩

/-! ## Floating point

A double keeps 53 significant bits and rounds to even. The two computations
below stay far inside the exponent range, so rounding a natural number is all
they need. -/

/-- Round to a multiple of `2 ^ shift`, to even on a tie. -/
def roundShifted (value shift : Nat) : Nat :=
  let quotient := value / 2 ^ shift
  let twice := 2 * (value % 2 ^ shift)
  if twice < 2 ^ shift then quotient * 2 ^ shift
  else if 2 ^ shift < twice then (quotient + 1) * 2 ^ shift
  else (quotient + quotient % 2) * 2 ^ shift

/-- The nearest natural number with at most 53 significant bits. -/
def roundDouble (value : Nat) : Nat := roundShifted value (value.log2 - 52)

/-- The double nearest to 1.1, over `2 ^ 52`. -/
def cuHeadroomFactor : Nat := 4953959590107546

/-- A limit with ten percent headroom over the simulated units. -/
def computeLimitFromSimulation (simulatedUnits : UInt64) : UInt32 :=
  let withHeadroom :=
    roundDouble (roundDouble simulatedUnits.toNat * cuHeadroomFactor) / 2 ^ 52
  UInt32.ofNat (max 1000 (min withHeadroom 1400000))

/-- Whether the savings exceed a tenth of the current limit. Both the quotient
of two `u32` values and the threshold round the same way, so the comparison of
doubles is this one of integers. -/
def shouldTighten (currentLimit derivedLimit : UInt32) : Bool :=
  currentLimit.toNat < 10 * (currentLimit.toNat - derivedLimit.toNat)

/-! ## Rewriting -/

/-- Resolve one instruction; an index outside the account keys panics. -/
def resolveInstruction (sdk : Sdk) (message : Message) (compiled : CompiledInstruction) :
    Option Instruction := do
  let programId ← message.accountKeys[compiled.programIdIndex.toNat]?
  let accounts ← compiled.accounts.mapM fun index => do
    let pubkey ← message.accountKeys[index.toNat]?
    some
      { pubkey
        isSigner := sdk.isSigner message index.toNat
        isWritable := sdk.isMaybeWritable message index.toNat : AccountMeta }
  some { programId, accounts, data := compiled.data }

def hasComputeBudgetInstructions (tx : Transaction) : Bool :=
  tx.message.instructions.any fun compiled =>
    tx.message.accountKeys[compiled.programIdIndex.toNat]? = some computeBudgetId

/-- Prepend the compute budget, unless the transaction has one. The first
component says whether it did; no result is a panic. -/
def prependComputeBudget (sdk : Sdk) (tx : Transaction) (computeUnitLimit : UInt32)
    (priorityFeeMicrolamports : UInt64) : Option (Bool × Transaction) :=
  if hasComputeBudgetInstructions tx then some (false, tx)
  else do
    let payer := tx.message.accountKeys.head?
    let price :=
      if 0 < priorityFeeMicrolamports then [setComputeUnitPrice priorityFeeMicrolamports] else []
    let originals ← tx.message.instructions.mapM (resolveInstruction sdk tx.message)
    let message ← sdk.newMessage
      (setComputeUnitLimit computeUnitLimit :: price ++ originals) payer
    some (true, { tx with message })

/-- The discriminator of a limit and its four bytes. -/
def isSetComputeUnitLimitData (data : List UInt8) : Bool :=
  data.length = 5 && data.head? = some 2

/-- Whether the instruction sets the limit. -/
def setsComputeUnitLimit (message : Message) (compiled : CompiledInstruction) : Bool :=
  message.accountKeys[compiled.programIdIndex.toNat]? = some computeBudgetId &&
    isSetComputeUnitLimitData compiled.data

/-- Replace the limit, if there is one, and rebuild the message around it. -/
def replaceComputeUnitLimit (sdk : Sdk) (tx : Transaction) (newLimit : UInt32) :
    Option (Bool × Transaction) := do
  let newInstructions ← tx.message.instructions.mapM fun compiled =>
    if setsComputeUnitLimit tx.message compiled then some (setComputeUnitLimit newLimit)
    else resolveInstruction sdk tx.message compiled
  if tx.message.instructions.any (setsComputeUnitLimit tx.message) then do
    let message ← sdk.newMessage newInstructions tx.message.accountKeys.head?
    some (true, { tx with message }.withBlockhash tx.message.recentBlockhash)
  else some (false, tx)

/-- Replacing the limit keeps the blockhash. -/
theorem recentBlockhash_of_replace {sdk : Sdk} {tx rewritten : Transaction} {newLimit : UInt32}
    {found : Bool} (hreplace : replaceComputeUnitLimit sdk tx newLimit = some (found, rewritten)) :
    rewritten.message.recentBlockhash = tx.message.recentBlockhash := by
  simp only [replaceComputeUnitLimit, Option.bind_eq_bind, Option.bind_eq_some_iff] at hreplace
  obtain ⟨newInstructions, _, hreplace⟩ := hreplace
  split at hreplace
  · obtain ⟨message, _, hmessage⟩ := Option.bind_eq_some_iff.mp hreplace
    simp only [Option.some.injEq, Prod.mk.injEq] at hmessage
    rw [← hmessage.2, Transaction.withBlockhash_recentBlockhash]
  · simp only [Option.some.injEq, Prod.mk.injEq] at hreplace
    rw [hreplace.2]

/-- Without a limit the transaction is left alone. -/
theorem eq_of_replace_false {sdk : Sdk} {tx rewritten : Transaction} {newLimit : UInt32}
    (hreplace : replaceComputeUnitLimit sdk tx newLimit = some (false, rewritten)) :
    rewritten = tx := by
  simp only [replaceComputeUnitLimit, Option.bind_eq_bind, Option.bind_eq_some_iff] at hreplace
  obtain ⟨newInstructions, _, hreplace⟩ := hreplace
  split at hreplace
  · obtain ⟨message, _, hmessage⟩ := Option.bind_eq_some_iff.mp hreplace
    simp at hmessage
  · simp only [Option.some.injEq, Prod.mk.injEq, true_and] at hreplace
    exact hreplace.symm

/-! ## Priority fees -/

/-- How the price per compute unit, in microlamports, is chosen. -/
inductive PriorityFeeStrategy where
  | none
  | fixed (fee : UInt64)
  | percentile (percentile : UInt8) (accounts : List String)
  | dynamic (maxMicrolamports : UInt64)
  deriving DecidableEq, Repr

/-- The position of a percentile among the sorted fees. The product is one of 64-bit
words and wraps. -/
def percentileIndex (percentile : UInt8) (length : Nat) : Nat :=
  min (percentile.toUInt64 * .ofNat length / 100).toNat (length - 1)

/-- The fee at a percentile of the recent ones, zero without any. -/
def estimatePercentile (fees : List UInt64) (percentile : UInt8) : UInt64 :=
  let values := fees.insertionSort (· ≤ ·)
  values.getD (percentileIndex percentile values.length) 0

end SolFrontier.SolanaCore
