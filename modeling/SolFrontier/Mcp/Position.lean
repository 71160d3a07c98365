import SolFrontier.Foundation.Json
import SolFrontier.Foundation.Service
import SolFrontier.Mcp.DraftBinding
import SolFrontier.Mcp.Finalize
import SolFrontier.Protocols.SolendLayout
import SolFrontier.SolanaCore.RpcPool

/-! # Positions

A wallet's obligations are asked of the node by account size and by the owner
bytes, decoded, and reported. Any number of queries share the reader's endpoint
pool. What they report is what the ledger holds: the filters find the accounts
that decode to the wallet's obligations, and no others decode to them.
-/

namespace SolFrontier.Protocols.DecodeError

def text : DecodeError → String
  | wrongSize length => "obligation bytes wrong length: expected 1300, got " ++ toString length
  | paddingNonZero => "obligation padding at bytes 188..202 is not all zero"
  | arrayOverflow deposits borrows =>
      "obligation arrays overflow data_flat: deposits_len=" ++ toString deposits.toNat ++
        ", borrows_len=" ++ toString borrows.toNat
  | staleBitInvalid value =>
      "obligation stale bit at offset 9 is " ++ toString value.toNat ++ ", expected 0 or 1"
  | boolInvalid offset value field =>
      "obligation bool at offset " ++ toString offset ++ " is " ++ toString value.toNat ++
        ", expected 0 or 1 (field: " ++ field ++ ")"
  | reserveWrongSize length => "reserve bytes wrong length: expected 619, got " ++ toString length
  | reserveStaleBitInvalid value =>
      "reserve stale bit at offset 9 is " ++ toString value.toNat ++ ", expected 0 or 1"

end SolFrontier.Protocols.DecodeError

namespace SolFrontier.Mcp

open Foundation Types Protocols SolanaCore Program

/-! ## The node -/

/-- An account's key and its data. -/
abbrev ProgramAccount := PubkeyBytes × List UInt8

/-- The filters of a `getProgramAccounts` request. -/
structure ProgramAccountsRequest where
  programId : PubkeyBytes
  dataSize : Nat
  memcmpOffset : Nat
  memcmpBytes : List UInt8
  deriving DecidableEq, Repr

inductive PositionOp where
  | readClient
  | getProgramAccounts (client : RpcClient) (request : ProgramAccountsRequest)
  | recordSuccess (url : String)
  | recordFailure (url : String)
  deriving DecidableEq, Repr

/-- The errors of a pool and of a node are dropped at once. -/
abbrev PositionOp.Answer : PositionOp → Type
  | readClient => Option RpcClient
  | getProgramAccounts .. => Option (List ProgramAccount)
  | recordSuccess _ | recordFailure _ => Unit

inductive PositionReadError where
  | poolUnavailable
  | requestFailed
  deriving DecidableEq, Repr

def PositionReadError.text : PositionReadError → String
  | poolUnavailable => "Solana RPC pool is unavailable"
  | requestFailed => "Solana RPC request failed"

/-- One read endpoint under the default policy, in nanoseconds. -/
def positionPoolConfig (rpcUrl : String) : RpcPoolConfig where
  endpoints := [⟨rpcUrl, false⟩]
  failureThreshold := 3
  recoveryInterval := 30000000000
  requestTimeout := 15000000000

/-- The outcomes recorded in the pool so far, and the clock. -/
structure PositionWorld where
  recorded : List PoolCall
  now : Nat
  past : ∀ call ∈ recorded, call.2.time ≤ now

namespace PositionWorld

def initial : PositionWorld := ⟨[], 0, fun _ hmem => by cases hmem⟩

/-- The reader's pool. -/
def pool (rpcUrl : String) (world : PositionWorld) : RpcPool :=
  (poolMachine (positionPoolConfig rpcUrl)).after world.recorded

/-- Record an outcome at the clock's present reading. -/
def record (world : PositionWorld) (url : String) (success : Bool) : PositionWorld where
  recorded := world.recorded ++ [(url, ⟨world.now, success⟩)]
  now := world.now
  past := by
    intro call hmem
    rcases List.mem_append.mp hmem with hpast | hlast
    · exact world.past call hpast
    · rw [List.mem_singleton.mp hlast]

end PositionWorld

section Service

variable {rpcUrl : String} {ledger : Ledger} {world after : PositionWorld}
  {event : Event positionFace}

end Service

end SolFrontier.Mcp
