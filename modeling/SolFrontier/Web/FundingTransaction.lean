import SolFrontier.SolanaCore.TokenLedger
import SolFrontier.Web.FundingPayload

/-! # The transaction the page builds

A memo and a checked transfer, in the order the payload names them. Whoever
runs the two instructions reads the memo and the amount that the page was given.
-/

namespace SolFrontier.Web

open Foundation Types SolanaCore

/-! ## Instructions -/

/-- Eight rounds that each take the lowest byte and shift it out. -/
def u64LittleEndian (value : Nat) : List UInt8 :=
  ((List.range 8).foldl
    (fun (bytes, remaining) _ => (bytes ++ [UInt8.ofNat (remaining &&& 0xff)], remaining >>> 8))
    (([] : List UInt8), value)).1

def memoInstruction (parsed : ParsedFunding) : Instruction where
  programId := parsed.memoProgramId
  accounts := []
  data := utf8Bytes parsed.memo

def transferCheckedInstruction (parsed : ParsedFunding) : Instruction where
  programId := parsed.tokenProgramId
  accounts :=
    [{ pubkey := parsed.userAta, isSigner := false, isWritable := true },
     { pubkey := parsed.mint, isSigner := false, isWritable := false },
     { pubkey := parsed.controlledAta, isSigner := false, isWritable := true },
     { pubkey := parsed.userWallet, isSigner := true, isWritable := false }]
  data := 12 :: u64LittleEndian parsed.amount ++ [parsed.decimals]

structure LatestBlockhash where
  blockhash : String
  lastValidBlockHeight : Nat
  deriving DecidableEq, Repr

structure FundingTransaction where
  instructions : List Instruction
  feePayer : PubkeyBytes
  recentBlockhash : String
  lastValidBlockHeight : Nat
  deriving DecidableEq, Repr

def instructionBuilder (parsed : ParsedFunding) : String → Except String Instruction
  | "memo" => .ok (memoInstruction parsed)
  | "transfer_checked" => .ok (transferCheckedInstruction parsed)
  | _ => .error "unsupported_instruction"

def buildTransaction (parsed : ParsedFunding) (blockhash : LatestBlockhash) :
    Except String FundingTransaction := do
  let instructions ← parsed.instructionOrder.mapM (instructionBuilder parsed)
  .ok
    { instructions
      feePayer := parsed.userWallet
      recentBlockhash := blockhash.blockhash
      lastValidBlockHeight := blockhash.lastValidBlockHeight }

/-! ## What the programs read -/

theorem u64LittleEndian_eq (value : Nat) : u64LittleEndian value = Codec.leBytes 8 value := by
  have hbyte : ∀ remaining : Nat, UInt8.ofNat (remaining &&& 0xff) = UInt8.ofNat remaining := by
    intro remaining
    apply UInt8.toNat_inj.mp
    rw [UInt8.toNat_ofNat', UInt8.toNat_ofNat', Nat.and_two_pow_sub_one_eq_mod remaining 8]
    omega
  have hshift : ∀ remaining : Nat, remaining >>> 8 = remaining / 256 := by
    intro remaining
    rw [Nat.shiftRight_eq_div_pow]
  simp [u64LittleEndian, List.range_succ, Codec.leBytes, hbyte, hshift]

/-- The transfer the page asks for. -/
def ParsedFunding.transfer (parsed : ParsedFunding) : TransferChecked where
  source := parsed.userAta
  mint := parsed.mint
  destination := parsed.controlledAta
  authority := parsed.userWallet
  amount := UInt64.ofNat parsed.amount
  decimals := parsed.decimals

theorem memoText_memoInstruction (parsed : ParsedFunding) (accounts : List PubkeyBytes) :
    NamedInstruction.memoText
      { programId := parsed.memoProgramId, accounts, data := (memoInstruction parsed).data } =
      some parsed.memo := by
  simp [NamedInstruction.memoText, memoInstruction]

theorem transferChecked_transferCheckedInstruction {parsed : ParsedFunding}
    (hamount : parsed.amount < 2 ^ 64) :
    NamedInstruction.transferChecked
      { programId := parsed.tokenProgramId
        accounts := (transferCheckedInstruction parsed).accounts.map AccountMeta.pubkey
        data := (transferCheckedInstruction parsed).data } =
      some parsed.transfer := by
  have hread : Codec.u64.decode (Codec.leBytes 8 parsed.amount ++ [parsed.decimals]) =
      some (UInt64.ofNat parsed.amount, [parsed.decimals]) := by
    have hdecode := Codec.u64.decode_encode [parsed.decimals]
      (Codec.u64_valid (UInt64.ofNat parsed.amount))
    have hencode : Codec.u64.encode (UInt64.ofNat parsed.amount) =
        Codec.leBytes 8 parsed.amount :=
      congrArg (Codec.leBytes 8) (UInt64.toNat_ofNat_of_lt' hamount)
    rw [hencode] at hdecode
    exact hdecode
  simp [NamedInstruction.transferChecked, transferCheckedInstruction, u64LittleEndian_eq, hread,
    ParsedFunding.transfer]

end SolFrontier.Web
