import Mathlib.Logic.Function.Basic
import SolFrontier.Foundation.UrlText
import SolFrontier.SolanaCore.Compile

/-! # What a transaction does to token balances

A message runs its instructions one after another over the token accounts. Only
the two programs of a funding payment are described: a memo leaves every
balance, and a checked transfer moves an amount between two accounts of one
mint.
-/

namespace SolFrontier.SolanaCore

open Foundation Types

structure TokenAccount where
  mint : PubkeyBytes
  owner : PubkeyBytes
  amount : UInt64
  /-- The decimals of the mint. -/
  decimals : UInt8
  deriving DecidableEq, Repr

/-- The token accounts by their address. -/
abbrev TokenLedger := PubkeyBytes → Option TokenAccount

/-- The programs of a payment, by their addresses. -/
structure PaymentPrograms where
  memo : PubkeyBytes
  token : PubkeyBytes

/-- An instruction with the keys its message names. -/
structure NamedInstruction where
  programId : PubkeyBytes
  accounts : List PubkeyBytes
  data : List UInt8
  deriving DecidableEq, Repr

/-- The keys of a compiled instruction, if its message has them. -/
def CompiledInstruction.named (keys : List PubkeyBytes) (instruction : CompiledInstruction) :
    Option NamedInstruction := do
  let programId ← keys[instruction.programIdIndex.toNat]?
  let accounts ← instruction.accounts.mapM fun index => keys[index.toNat]?
  some { programId, accounts, data := instruction.data }

/-- An instruction with the keys alone. -/
def Instruction.named (instruction : Instruction) : NamedInstruction where
  programId := instruction.programId
  accounts := instruction.accounts.map AccountMeta.pubkey
  data := instruction.data

theorem named_of_lowers {keys : List PubkeyBytes} {instruction : Instruction}
    {compiled : CompiledInstruction} (hlowers : Lowers keys instruction compiled) :
    compiled.named keys = some instruction.named := by
  have haccounts : compiled.accounts.mapM (fun index => keys[index.toNat]?) =
      some (instruction.accounts.map AccountMeta.pubkey) := by
    have hall := hlowers.accounts
    generalize compiled.accounts = indexes at hall
    generalize instruction.accounts = accounts at hall
    induction hall with
    | nil => rfl
    | cons hkey _ ih => simp [List.mapM_cons, hkey, ih]
  simp [CompiledInstruction.named, hlowers.program, haccounts, hlowers.data, Instruction.named]

/-! ## The instructions of a payment -/

structure TransferChecked where
  source : PubkeyBytes
  mint : PubkeyBytes
  destination : PubkeyBytes
  authority : PubkeyBytes
  amount : UInt64
  decimals : UInt8
  deriving DecidableEq, Repr

inductive PaymentInstruction where
  | memo (text : String)
  | transfer (moved : TransferChecked)
  deriving DecidableEq, Repr

namespace PaymentInstruction

def text? : PaymentInstruction → Option String
  | memo text => some text
  | transfer _ => none

def transfer? : PaymentInstruction → Option TransferChecked
  | memo _ => none
  | transfer moved => some moved

end PaymentInstruction

namespace NamedInstruction

/-- A memo is UTF-8. -/
def memoText (instruction : NamedInstruction) : Option String :=
  let text := decodeUtf8 instruction.data
  if utf8Bytes text = instruction.data then some text else none

/-- Tag 12, a little-endian amount and the decimals; one authority. -/
def transferChecked (instruction : NamedInstruction) : Option TransferChecked :=
  match instruction.accounts, instruction.data with
  | [source, mint, destination, authority], tag :: rest =>
      if tag = 12 then
        match Codec.u64.decode rest with
        | some (amount, [decimals]) =>
            some { source, mint, destination, authority, amount, decimals }
        | _ => none
      else none
  | _, _ => none

/-- How the two programs read an instruction. -/
def payment (programs : PaymentPrograms) (instruction : NamedInstruction) :
    Option PaymentInstruction :=
  if instruction.programId = programs.memo then instruction.memoText.map .memo
  else if instruction.programId = programs.token then instruction.transferChecked.map .transfer
  else none

end NamedInstruction

/-! ## Running them -/

/-- Move an amount between two accounts of the mint, whose decimals must be the
named ones. -/
def TransferChecked.run (transfer : TransferChecked) (ledger : TokenLedger) :
    Option TokenLedger := do
  let source ← ledger transfer.source
  let destination ← ledger transfer.destination
  if source.mint ≠ transfer.mint ∨ destination.mint ≠ transfer.mint ∨
      source.decimals ≠ transfer.decimals ∨ destination.decimals ≠ transfer.decimals ∨
      source.amount < transfer.amount then none
  else if transfer.source = transfer.destination then some ledger
  else if 2 ^ 64 ≤ destination.amount.toNat + transfer.amount.toNat then none
  else
    some (Function.update
      (Function.update ledger transfer.source
        (some { source with amount := source.amount - transfer.amount }))
      transfer.destination
      (some { destination with amount := destination.amount + transfer.amount }))

def PaymentInstruction.run : PaymentInstruction → TokenLedger → Option TokenLedger
  | .memo _, ledger => some ledger
  | .transfer moved, ledger => moved.run ledger

/-- The instructions of a message, one after another. -/
def Message.run (programs : PaymentPrograms) (message : Message) (ledger : TokenLedger) :
    Option TokenLedger :=
  message.instructions.foldlM (fun ledger instruction => do
    let named ← instruction.named message.accountKeys
    let payment ← named.payment programs
    payment.run ledger) ledger

/-- The payments of a message, in the order of its instructions. -/
def Message.payments (programs : PaymentPrograms) (message : Message) : List PaymentInstruction :=
  message.instructions.filterMap fun instruction =>
    (instruction.named message.accountKeys).bind (NamedInstruction.payment programs)

/-- The keys whose signatures a message carries. -/
def Message.signers (message : Message) : List PubkeyBytes :=
  message.accountKeys.take message.header.numRequiredSignatures.toNat

/-- A successful transaction in a finalized block, with the token accounts
around it. -/
structure FinalizedTransaction (programs : PaymentPrograms) where
  slot : UInt64
  /-- Seconds since the epoch, when the block has them. -/
  blockTime : Option Int64
  blockTime_range : ∀ seconds, blockTime = some seconds →
    0 ≤ seconds.toInt ∧ seconds.toInt * 1000 < 2 ^ 63
  message : Message
  /-- Instructions name their accounts by one byte. -/
  keys_le : message.accountKeys.length ≤ 256
  before : TokenLedger
  after : TokenLedger
  ran : message.run programs before = some after

/-- A message holds these instructions, and the signatures that they and the
payer of its fee require. -/
structure Message.Carries (message : Message) (instructions : List Instruction)
    (feePayer : PubkeyBytes) : Prop where
  lowers : List.Forall₂ (Lowers message.accountKeys) instructions message.instructions
  payer : feePayer ∈ message.signers
  signers : ∀ instruction ∈ instructions, ∀ account ∈ instruction.accounts,
    account.isSigner = true → account.pubkey ∈ message.signers

section Carried

variable {programs : PaymentPrograms} {message : Message} {instructions : List Instruction}
  {payments : List PaymentInstruction}

/-- Each instruction is a payment. -/
def ArePayments (programs : PaymentPrograms) (instructions : List Instruction)
    (payments : List PaymentInstruction) : Prop :=
  List.Forall₂ (fun instruction payment => instruction.named.payment programs = some payment)
    instructions payments

/-- A message runs the payments it carries, and no others. -/
theorem Message.run_of_lowers
    (hlowers : List.Forall₂ (Lowers message.accountKeys) instructions message.instructions)
    (hpayments : ArePayments programs instructions payments) (ledger : TokenLedger) :
    message.run programs ledger = payments.foldlM (fun ledger payment => payment.run ledger) ledger := by
  unfold Message.run
  generalize message.instructions = compiled at hlowers
  induction hlowers generalizing payments ledger with
  | nil =>
      cases hpayments
      rfl
  | cons hlowers _ ih =>
      cases hpayments with
      | cons hpayment hrest =>
          rw [List.foldlM_cons, List.foldlM_cons, named_of_lowers hlowers]
          simp only [Option.bind_eq_bind, Option.bind_some, hpayment]
          congr 1
          funext next
          exact ih hrest next

theorem Message.payments_of_lowers
    (hlowers : List.Forall₂ (Lowers message.accountKeys) instructions message.instructions)
    (hpayments : ArePayments programs instructions payments) :
    message.payments programs = payments := by
  unfold Message.payments
  generalize message.instructions = compiled at hlowers
  induction hlowers generalizing payments with
  | nil =>
      cases hpayments
      rfl
  | cons hlowers _ ih =>
      cases hpayments with
      | cons hpayment hrest =>
          rw [List.filterMap_cons_some (by rw [named_of_lowers hlowers, Option.bind_some, hpayment]),
            ih hrest]

end Carried

/-- What a transfer between two accounts did to them. -/
theorem TransferChecked.of_run {transfer : TransferChecked} {before after : TokenLedger}
    (hrun : transfer.run before = some after) (hdistinct : transfer.source ≠ transfer.destination) :
    ∃ source destination, before transfer.source = some source ∧
      before transfer.destination = some destination ∧ source.mint = transfer.mint ∧
      destination.mint = transfer.mint ∧ source.decimals = transfer.decimals ∧
      destination.decimals = transfer.decimals ∧ transfer.amount ≤ source.amount ∧
      destination.amount.toNat + transfer.amount.toNat < 2 ^ 64 ∧
      after transfer.source = some { source with amount := source.amount - transfer.amount } ∧
      after transfer.destination =
        some { destination with amount := destination.amount + transfer.amount } := by
  unfold TransferChecked.run at hrun
  obtain ⟨source, hsource, hrun⟩ := Option.bind_eq_some_iff.mp hrun
  obtain ⟨destination, hdestination, hrun⟩ := Option.bind_eq_some_iff.mp hrun
  split_ifs at hrun with hchecks hfits
  obtain rfl := Option.some.inj hrun
  simp only [not_or, ne_eq, not_not, UInt64.not_lt] at hchecks
  obtain ⟨hsourceMint, hdestinationMint, hsourceDecimals, hdestinationDecimals, hamount⟩ := hchecks
  refine ⟨source, destination, hsource, hdestination, hsourceMint, hdestinationMint,
    hsourceDecimals, hdestinationDecimals, hamount, not_le.mp hfits, ?_, ?_⟩
  · rw [Function.update_of_ne hdistinct, Function.update_self]
  · rw [Function.update_self]

/-- A funded transfer between two accounts of its mint runs. -/
theorem TransferChecked.run_funded {transfer : TransferChecked} {ledger : TokenLedger}
    {source destination : TokenAccount} (hsource : ledger transfer.source = some source)
    (hdestination : ledger transfer.destination = some destination)
    (hmints : source.mint = transfer.mint ∧ destination.mint = transfer.mint)
    (hdecimals : source.decimals = transfer.decimals ∧ destination.decimals = transfer.decimals)
    (hdistinct : transfer.source ≠ transfer.destination) (hfunds : transfer.amount ≤ source.amount)
    (hroom : destination.amount.toNat + transfer.amount.toNat < 2 ^ 64) :
    ∃ after, transfer.run ledger = some after := by
  have hchecks : ¬ (source.mint ≠ transfer.mint ∨ destination.mint ≠ transfer.mint ∨
      source.decimals ≠ transfer.decimals ∨ destination.decimals ≠ transfer.decimals ∨
      source.amount < transfer.amount) := by
    simp only [ne_eq, hmints.1, hmints.2, hdecimals.1, hdecimals.2, not_true_eq_false, false_or,
      UInt64.not_lt]
    exact hfunds
  unfold TransferChecked.run
  rw [hsource, hdestination, Option.bind_eq_bind, Option.bind_some, Option.bind_some,
    if_neg hchecks, if_neg hdistinct, if_neg (not_le.mpr hroom)]
  exact ⟨_, rfl⟩

end SolFrontier.SolanaCore
