import SolFrontier.Foundation.DateTime

/-! # Swap previews

What a quote said when an intent was made. It is shown to the operator and is
never the quote that is executed.
-/

namespace SolFrontier.Types

open Foundation

structure SwapPreview where
  /-- Raw units at preview time. -/
  expectedOutputAmount : UInt64
  /-- A decimal text. -/
  priceImpactPct : Option String
  routeLabels : List String
  fetchedAt : DateTime
  deriving DecidableEq, Repr

namespace SwapPreview

def jsonFields (texts : DateTimeText) : OpenFields SwapPreview :=
  (OpenFields.cons "expected_output_amount" Serde.u64.format.required <|
    .cons "price_impact_pct" Serde.string.format.skipped <|
    .cons "route_labels" (Serde.string.list.format.defaulted []) <|
    .last "fetched_at" texts.serde.format.required).imap
    (fun (amount, impact, labels, fetchedAt) => ⟨amount, impact, labels, fetchedAt⟩)
    (fun preview => (preview.expectedOutputAmount, preview.priceImpactPct, preview.routeLabels,
      preview.fetchedAt))

def format (texts : DateTimeText) : Format SwapPreview := .record (jsonFields texts)

theorem keeps (texts : DateTimeText) (preview : SwapPreview) : (format texts).Keeps preview := by
  have hnames : ["expected_output_amount", "price_impact_pct", "route_labels",
    "fetched_at"].Nodup := by decide
  apply Format.record_keeps hnames
  apply OpenFields.imap_keeps rfl
  apply OpenFields.cons_keeps (Serde.required_keeps _ _)
  apply OpenFields.cons_keeps (Serde.skipped_keeps _ rfl _)
  apply OpenFields.cons_keeps (Serde.defaulted_keeps _ _ _)
  exact OpenFields.last_keeps (Serde.required_keeps _ _)

end SwapPreview

end SolFrontier.Types
