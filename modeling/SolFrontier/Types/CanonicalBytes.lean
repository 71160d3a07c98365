import SolFrontier.Types.WatchRule

/-! # Canonical bytes bind every field

The layout of a rule is built from formats that read back what they wrote and
read nothing else, so the canonical bytes determine the rule, the bytes that
read as a rule are its canonical ones, and equal hashes of different rules are
a collision of SHA-256.
-/

namespace SolFrontier.Types

open Foundation

/-- Borsh can write the rule: its conditions are counted in four bytes. -/
def WatchRule.WellFormed (rule : WatchRule) : Prop := rule.conditions.length < 2 ^ 32

/-- `BorshDeserialize::try_from_slice`: read a rule and leave no byte. -/
def ruleFromSlice (bytes : List UInt8) : Option WatchRule :=
  match WatchRule.codec.decode bytes with
  | some (rule, []) => some rule
  | _ => none

theorem ruleFromSlice_eq_some {bytes : List UInt8} {rule : WatchRule} :
    ruleFromSlice bytes = some rule ↔ WatchRule.codec.decode bytes = some (rule, []) := by
  unfold ruleFromSlice
  constructor
  · intro hread
    split at hread
    next read hdecode =>
      obtain rfl := Option.some.inj hread
      exact hdecode
    · cases hread
  · intro hdecode
    rw [hdecode]

theorem ruleFromSlice_canonicalRuleBytes {rule : WatchRule} (hrule : rule.WellFormed) :
    ruleFromSlice (canonicalRuleBytes rule) = some rule := by
  apply ruleFromSlice_eq_some.mpr
  have hdecode := WatchRule.codec.decode_encode [] (WatchRule.codec_valid hrule)
  rwa [List.append_nil] at hdecode

theorem canonicalRuleBytes_ruleFromSlice {bytes : List UInt8} {rule : WatchRule}
    (hread : ruleFromSlice bytes = some rule) : canonicalRuleBytes rule = bytes := by
  obtain ⟨_, hbytes⟩ := WatchRule.codec.encode_decode (ruleFromSlice_eq_some.mp hread)
  rw [hbytes, List.append_nil]
  rfl

theorem canonicalRuleBytes_inj {left right : WatchRule} (hleft : left.WellFormed)
    (hright : right.WellFormed) (heq : canonicalRuleBytes left = canonicalRuleBytes right) :
    left = right := by
  have hread := ruleFromSlice_canonicalRuleBytes hleft
  rw [heq, ruleFromSlice_canonicalRuleBytes hright, Option.some.injEq] at hread
  exact hread.symm

/-- Two byte strings with one digest. -/
def Sha256Collision (left right : List UInt8) : Prop :=
  left ≠ right ∧ Sha256.digest left = Sha256.digest right

/-- The canonical encoding is a bijection onto its image: it reads back, what
reads back is canonical, it separates rules, and the hashes of two rules agree
only when their canonical bytes are a collision. -/
theorem canonical_bytes_bind :
    (∀ rule : WatchRule, rule.WellFormed → ruleFromSlice (canonicalRuleBytes rule) = some rule) ∧
    (∀ bytes rule, ruleFromSlice bytes = some rule → canonicalRuleBytes rule = bytes) ∧
    (∀ left right : WatchRule, left.WellFormed → right.WellFormed → left ≠ right →
      canonicalRuleBytes left ≠ canonicalRuleBytes right ∧
      (canonicalRuleHash left = canonicalRuleHash right →
        Sha256Collision (canonicalRuleBytes left) (canonicalRuleBytes right))) := by
  refine ⟨fun _ => ruleFromSlice_canonicalRuleBytes, fun _ _ => canonicalRuleBytes_ruleFromSlice, ?_⟩
  intro left right hleft hright hne
  have hbytes : canonicalRuleBytes left ≠ canonicalRuleBytes right :=
    fun heq => hne (canonicalRuleBytes_inj hleft hright heq)
  exact ⟨hbytes, fun hhash => ⟨hbytes, hhash⟩⟩

/-- A rule that deposits nothing, for any executor byte. -/
def emptyDepositRule (executor : UInt8) : WatchRule where
  schemaVersion := stage2WatchRuleSchemaV2
  ruleId := Bytes.filled 16 0
  user := ⟨Bytes.filled 32 0⟩
  executor := ⟨Bytes.filled 32 executor⟩
  delegatedWallet := ⟨Bytes.filled 32 0⟩
  createdAtSlot := 0
  expiresAtSlot := 480
  oneShot := true
  conditionLogic := .all
  conditions := []
  action := .solendDeposit
    { targetObligation := ⟨Bytes.filled 32 0⟩
      reservePubkey := ⟨Bytes.filled 32 0⟩
      lendingMarket := ⟨Bytes.filled 32 0⟩
      solendProgramId := ⟨Bytes.filled 32 0⟩
      inputMint := ⟨Bytes.filled 32 0⟩
      inputAmountRaw := 0 }
  maxInputAmountRaw := 0
  usedAmountRaw := 0
  destination := ⟨Bytes.filled 32 0⟩
  slippageBps := 0

/-- Two rules that differ in one field only. -/
theorem canonical_bytes_bind_executor :
    ruleFromSlice (canonicalRuleBytes (emptyDepositRule 0)) = some (emptyDepositRule 0) ∧
      canonicalRuleBytes (emptyDepositRule 0) ≠ canonicalRuleBytes (emptyDepositRule 1) := by
  have hwellFormed (executor : UInt8) : (emptyDepositRule executor).WellFormed := by
    show 0 < 2 ^ 32
    decide
  have hne : emptyDepositRule 0 ≠ emptyDepositRule 1 := by decide
  exact ⟨canonical_bytes_bind.1 _ (hwellFormed 0),
    (canonical_bytes_bind.2.2 _ _ (hwellFormed 0) (hwellFormed 1) hne).1⟩

end SolFrontier.Types
