import SolFrontier.Foundation.JsonText
import SolFrontier.Mcp.FinalizeProgress

/-! # What a draft hash covers

The hashed bytes are the compact JSON of the preimage in its declared order.
They tell any two preimages apart. Between two accepted proposals they differ
exactly when the parsed amounts, the thresholds or the message hashes do.
-/

namespace SolFrontier.Mcp

open Foundation

/-- The bytes that are hashed. -/
def draftBytes (preimage : CanonicalDraftPreimage) : List UInt8 :=
  utf8Bytes preimage.toJson.render

/-- The fields in declared order, as the derived serializer writes them. -/
def CanonicalDraftPreimage.fields (preimage : CanonicalDraftPreimage) : List (String × Json) :=
  [("action", .string preimage.action),
   ("amount_raw", .string preimage.amountRaw),
   ("asset", .string preimage.asset),
   ("comparison", .string preimage.comparison),
   ("controlled_usdc_ata", .string preimage.controlledUsdcAta),
   ("controlled_wallet", .string preimage.controlledWallet),
   ("display_source", .string preimage.displaySource),
   ("expiry_seconds_after_finalize", .number preimage.expirySecondsAfterFinalize.toNat),
   ("original_user_message_hash", .string preimage.originalUserMessageHash),
   ("protocol", .string preimage.protocol),
   ("threshold_bps", .number preimage.thresholdBps.toNat)]

theorem computeDraftHash_eq (preimage : CanonicalDraftPreimage) :
    computeDraftHash preimage = hexEncode (Sha256.digest (draftBytes preimage)).1 :=
  rfl

/-- The declared order is the order of the names. -/
theorem fields_sorted (preimage : CanonicalDraftPreimage) :
    preimage.fields.Pairwise fun left right => left.1 ≤ right.1 := by
  have hnames : ["action", "amount_raw", "asset", "comparison", "controlled_usdc_ata",
      "controlled_wallet", "display_source", "expiry_seconds_after_finalize",
      "original_user_message_hash", "protocol", "threshold_bps"].Pairwise (· ≤ ·) := by
    decide +kernel
  exact List.pairwise_map.mp hnames

theorem draftBytes_eq_compact (preimage : CanonicalDraftPreimage) :
    draftBytes preimage = utf8Bytes (Json.object preimage.fields).compact := by
  apply congrArg utf8Bytes
  apply JsonText.render_sorted (fields_sorted preimage)
  simp [CanonicalDraftPreimage.fields, JsonText.ordered]

theorem fields_injective : Function.Injective CanonicalDraftPreimage.fields := by
  intro left right heq
  cases left
  cases right
  simp only [CanonicalDraftPreimage.fields, List.cons.injEq, Prod.mk.injEq, Json.string.injEq,
    Json.number.injEq, Nat.cast_inj, UInt64.toNat_inj, UInt32.toNat_inj, true_and,
    and_true] at heq
  simpa using heq

/-- No two preimages share their bytes, whatever characters their texts hold. -/
theorem draftBytes_injective : Function.Injective draftBytes := by
  intro left right heq
  rw [draftBytes_eq_compact, draftBytes_eq_compact] at heq
  have hobjects := Json.compact_injective (utf8Bytes_inj heq)
  exact fields_injective (Json.object.inj hobjects)

/-! ## Accepted proposals -/

/-- The fields of an accepted draft that come from the proposal. -/
theorem draft_of_params {params : ProposeIntentParams} {draft : DraftIntent}
    (hdraft : validateDraft params = .ok draft) :
    parseUsdcAmountToRaw params.amount = .ok draft.amountRaw ∧
      draft.thresholdBps = params.thresholdBps ∧
      draft.originalUserMessageHash = sha256Hex params.originalUserMessage := by
  obtain ⟨amountRaw, hamount, hchecks⟩ := bind_eq_ok.mp hdraft
  have hparsed : parseUsdcAmountToRaw params.amount = .ok amountRaw := by
    cases hparse : parseUsdcAmountToRaw params.amount with
    | ok value =>
        rw [hparse] at hamount
        exact congrArg Except.ok (Except.ok.inj hamount)
    | error error =>
        rw [hparse] at hamount
        cases hamount
  -- every branch but the last is a refusal
  repeat' split at hchecks
  all_goals cases hchecks
  exact ⟨hparsed, rfl, rfl⟩

theorem toString_uint64_injective {left right : UInt64} (heq : toString left = toString right) :
    left = right := by
  have hnumbers : (Json.number left.toNat).compact = (Json.number right.toNat).compact := heq
  have hvalues := Json.number.inj (Json.compact_injective hnumbers)
  exact UInt64.toNat_inj.mp (Int.ofNat.inj hvalues)

/-- Between accepted drafts the preimage depends on three fields. -/
theorem canonicalPreimage_eq_iff {left right : DraftIntent} (hleft : left.Validated)
    (hright : right.Validated) :
    left.canonicalPreimage = right.canonicalPreimage ↔
      left.amountRaw = right.amountRaw ∧ left.thresholdBps = right.thresholdBps ∧
        left.originalUserMessageHash = right.originalUserMessageHash := by
  constructor
  · intro heq
    have hamount := congrArg CanonicalDraftPreimage.amountRaw heq
    have hthreshold := congrArg CanonicalDraftPreimage.thresholdBps heq
    have hmessage := congrArg CanonicalDraftPreimage.originalUserMessageHash heq
    exact ⟨toString_uint64_injective hamount, hthreshold, hmessage⟩
  · rintro ⟨hamount, hthreshold, hmessage⟩
    simp [DraftIntent.canonicalPreimage, hamount, hthreshold, hmessage, hleft.action,
      hright.action, hleft.protocol, hright.protocol, hleft.asset, hright.asset,
      hleft.displaySource, hright.displaySource, hleft.comparison, hright.comparison,
      hleft.expiry, hright.expiry, hleft.wallet, hright.wallet, hleft.ata, hright.ata]

/-- The hash of a draft is taken over the compact JSON of its preimage in declared
order; distinct preimages have distinct bytes; and the bytes of two accepted
proposals agree exactly when amounts, thresholds and message hashes do. -/
theorem draft_bytes_bind {params otherParams : ProposeIntentParams} {draft other : DraftIntent}
    (hdraft : validateDraft params = .ok draft) (hother : validateDraft otherParams = .ok other) :
    (∀ preimage, computeDraftHash preimage = hexEncode (Sha256.digest (draftBytes preimage)).1 ∧
      draftBytes preimage = utf8Bytes (Json.object preimage.fields).compact) ∧
    (∀ left right, draftBytes left = draftBytes right → left = right) ∧
    (draftBytes draft.canonicalPreimage = draftBytes other.canonicalPreimage ↔
      parseUsdcAmountToRaw params.amount = parseUsdcAmountToRaw otherParams.amount ∧
      params.thresholdBps = otherParams.thresholdBps ∧
      sha256Hex params.originalUserMessage = sha256Hex otherParams.originalUserMessage) := by
  obtain ⟨hamount, hthreshold, hmessage⟩ := draft_of_params hdraft
  obtain ⟨hotherAmount, hotherThreshold, hotherMessage⟩ := draft_of_params hother
  refine ⟨fun preimage => ⟨computeDraftHash_eq preimage, draftBytes_eq_compact preimage⟩,
    fun left right heq => draftBytes_injective heq, ?_⟩
  rw [draftBytes_injective.eq_iff,
    canonicalPreimage_eq_iff (validated_of_ok hdraft) (validated_of_ok hother), hamount,
    hotherAmount, Except.ok.injEq, hthreshold, hotherThreshold, hmessage, hotherMessage]

/-- A proposal is judged by its parsed amount, not by the text of it. -/
theorem validateDraft_respelled {params : ProposeIntentParams} {amount : String}
    (hsame : parseUsdcAmountToRaw amount = parseUsdcAmountToRaw params.amount) :
    validateDraft { params with amount } = validateDraft params := by
  unfold validateDraft
  rw [hsame]

/-- Half a dollar in two spellings, under different thresholds. -/
theorem respelled_draft_bytes :
    draftBytes (halfUsdcDraft 50).canonicalPreimage ≠
      draftBytes (halfUsdcDraft 60).canonicalPreimage := by
  have hamount : parseUsdcAmountToRaw " .500" =
      parseUsdcAmountToRaw (halfUsdcProposal 60).amount := by
    decide +kernel
  have hfirst := @validateDraft_halfUsdc 50 (by decide)
  have hsecond := (validateDraft_respelled hamount).trans (@validateDraft_halfUsdc 60 (by decide))
  intro heq
  have hfields := (draft_bytes_bind hfirst hsecond).2.2.mp heq
  have hthresholds : (50 : UInt32) ≠ 60 := by decide
  exact hthresholds hfields.2.1

end SolFrontier.Mcp
