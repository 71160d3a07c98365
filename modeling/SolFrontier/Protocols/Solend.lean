import SolFrontier.SolanaCore.Transaction

/-! # Solend instructions

Pure builders of unsigned instructions. Refreshes come first, one for each
reserve and one for the obligation; the combined deposit names fourteen
accounts in the order of the deployed program.
-/

namespace SolFrontier.Protocols

open Foundation Types SolanaCore

/-- An account that an instruction writes, or one that it only reads. -/
def writable (pubkey : PubkeyBytes) (isSigner : Bool) : AccountMeta := ⟨pubkey, isSigner, true⟩

def readonly (pubkey : PubkeyBytes) (isSigner : Bool) : AccountMeta := ⟨pubkey, isSigner, false⟩

/-! ## Refreshing -/

def solendIxTagRefreshReserve : UInt8 := 3

def solendIxTagRefreshObligation : UInt8 := 7

def clockSysvar : PubkeyBytes :=
  pinnedPubkey "SysvarC1ock11111111111111111111111111111111" (by decide +kernel)

structure ReserveRefreshInput where
  reservePubkey : PubkeyBytes
  pythOracle : PubkeyBytes
  switchboardOracle : PubkeyBytes
  deriving DecidableEq, Repr

structure ObligationRefreshInput where
  obligationPubkey : PubkeyBytes
  /-- Deposit reserves, then borrow reserves, in the order on the chain. -/
  referencedReservesInOrder : List PubkeyBytes
  deriving DecidableEq, Repr

structure RefreshPlanInputs where
  solendProgramId : PubkeyBytes
  reserves : List ReserveRefreshInput
  obligation : Option ObligationRefreshInput
  deriving DecidableEq, Repr

structure RefreshPlan where
  instructions : List Instruction
  reservesRefreshed : List PubkeyBytes
  obligationRefreshed : Option PubkeyBytes
  deriving DecidableEq, Repr

def refreshReserve (solendProgramId : PubkeyBytes) (reserve : ReserveRefreshInput) :
    Instruction where
  programId := solendProgramId
  accounts :=
    [writable reserve.reservePubkey false, readonly reserve.pythOracle false,
     readonly reserve.switchboardOracle false, readonly clockSysvar false]
  data := [solendIxTagRefreshReserve]

/-- The program reads the clock itself; it may write the referenced reserves. -/
def refreshObligation (solendProgramId : PubkeyBytes) (obligation : ObligationRefreshInput) :
    Instruction where
  programId := solendProgramId
  accounts := writable obligation.obligationPubkey false ::
    obligation.referencedReservesInOrder.map fun reserve => writable reserve false
  data := [solendIxTagRefreshObligation]

/-- The reserves' refreshes, followed by the obligation's if there is one. -/
def buildRefreshInstructions (inputs : RefreshPlanInputs) : RefreshPlan where
  instructions := inputs.reserves.map (refreshReserve inputs.solendProgramId) ++
    (inputs.obligation.map (refreshObligation inputs.solendProgramId)).toList
  reservesRefreshed := inputs.reserves.map ReserveRefreshInput.reservePubkey
  obligationRefreshed := inputs.obligation.map ObligationRefreshInput.obligationPubkey

/-! ## Depositing -/

def solendIxTagDepositReserveLiquidityAndObligationCollateral : UInt8 := 14

def splTokenProgramId : PubkeyBytes :=
  pinnedPubkey "TokenkegQfeZyiNwAJbNbGKPFXCWuBvf9Ss623VQ5DA" tokenProgram_valid

/-- `Pubkey::find_program_address` without its bump, by the seeds and the program. -/
abbrev FindProgramAddress := List (List UInt8) → PubkeyBytes → PubkeyBytes

def associatedTokenProgram : PubkeyBytes :=
  pinnedPubkey "ATokenGPvbdGVxr1b2hvZbsiqW5xWH25efTNsLJA8knL" (by decide +kernel)

/-- Derive the associated token account of a wallet, a mint and a token program. -/
def deriveAssociatedTokenAddress (findProgramAddress : FindProgramAddress)
    (wallet mint tokenProgram : PubkeyBytes) : PubkeyBytes :=
  findProgramAddress [wallet.bytes.1, tokenProgram.bytes.1, mint.bytes.1] associatedTokenProgram

structure DepositInstructionInputs where
  solendProgramId : PubkeyBytes
  /-- In units of the underlying token. -/
  amount : UInt64
  sourceLiquidity : PubkeyBytes
  userCollateral : PubkeyBytes
  reserve : PubkeyBytes
  reserveLiquiditySupply : PubkeyBytes
  reserveCollateralMint : PubkeyBytes
  lendingMarket : PubkeyBytes
  destinationDepositCollateral : PubkeyBytes
  obligation : PubkeyBytes
  obligationOwner : PubkeyBytes
  pythOracle : PubkeyBytes
  switchboardOracle : PubkeyBytes
  userTransferAuthority : PubkeyBytes
  deriving DecidableEq, Repr

inductive DepositBuildError where
  | zeroAmount
  deriving DecidableEq, Repr

/-- The deposit of liquidity and of the collateral it yields in one instruction. -/
def buildDepositReserveLiquidityAndObligationCollateralInstruction
    (findProgramAddress : FindProgramAddress) (inputs : DepositInstructionInputs) :
    Except DepositBuildError Instruction :=
  if inputs.amount = 0 then .error .zeroAmount
  else
    let lendingMarketAuthority :=
      findProgramAddress [inputs.lendingMarket.bytes.1] inputs.solendProgramId
    .ok
      { programId := inputs.solendProgramId
        accounts :=
          [writable inputs.sourceLiquidity false, writable inputs.userCollateral false,
           writable inputs.reserve false, writable inputs.reserveLiquiditySupply false,
           writable inputs.reserveCollateralMint false, readonly inputs.lendingMarket false,
           readonly lendingMarketAuthority false,
           writable inputs.destinationDepositCollateral false, writable inputs.obligation false,
           writable inputs.obligationOwner true, readonly inputs.pythOracle false,
           readonly inputs.switchboardOracle false, readonly inputs.userTransferAuthority true,
           readonly splTokenProgramId false]
        data := solendIxTagDepositReserveLiquidityAndObligationCollateral ::
          Codec.u64.encode inputs.amount }

end SolFrontier.Protocols
