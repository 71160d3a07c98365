import SolFrontier.Foundation.Words
import SolFrontier.WalletEngine.Pipeline

/-! # Compute units in simulation logs

The compute units of a simulation are read from its log lines, from the last
line that looks like a report of consumed units. The runtime writes one such
line at the end of an invocation; programs write what they like.
-/

namespace SolFrontier.WalletEngine

open Foundation SolanaCore Types

/-! ## Reading the logs -/

/-- What a simulation call answers; an error by its debug text. -/
structure RpcSimulateTransactionResult where
  err : Option String
  logs : Option (List String)
  returnData : Option String
  deriving DecidableEq, Repr

def containsText (log pattern : String) : Bool := pattern.toList <:+: log.toList

/-- The word after the first `consumed`, if it is a number. -/
def consumedUnits (log : String) : Option UInt64 :=
  if containsText log "consumed" && containsText log "compute units" then do
    let parts := words log.toList
    let index ← parts.findIdx? (· = "consumed".toList)
    let part ← parts[index + 1]?
    parseWord part
  else none

/-- Both simulation calls take the last line that gives a number. -/
def computeUnitsFromLogs (logs : List String) : Option UInt64 :=
  logs.reverse.findSome? consumedUnits

def simulateOutput (value : RpcSimulateTransactionResult) : SimulationOutput :=
  let logs := value.logs.getD []
  { success := value.err.isNone
    error := value.err
    computeUnitsUsed := computeUnitsFromLogs logs
    logs
    returnData := value.returnData
    feeLamports := none
    accountDiffs := [] }

def simulateV0Output (value : RpcSimulateTransactionResult) :
    Bool × Option String × Option UInt64 :=
  (value.err.isNone, value.err, computeUnitsFromLogs (value.logs.getD []))

/-! ## The runtime's logs -/

inductive LogLine where
  | invoke (program : PubkeyBytes) (depth : Nat)
  | text (message : String)
  | consumed (program : PubkeyBytes) (used budget : UInt64)
  | success (program : PubkeyBytes)
  deriving DecidableEq, Repr

def LogLine.render : LogLine → String
  | invoke program depth =>
      "Program " ++ program.toBase58 ++ " invoke [" ++ toString depth ++ "]"
  | text message => "Program log: " ++ message
  | consumed program used budget =>
      "Program " ++ program.toBase58 ++ " consumed " ++ toString used.toNat ++ " of " ++
        toString budget.toNat ++ " compute units"
  | success program => "Program " ++ program.toBase58 ++ " success"

/-- What stands between an invocation and its end: texts of the program and invocations by it. An
invocation reports the units it used, unless its program is native. -/
inductive LogEntry where
  | text (message : String)
  | invocation (program : PubkeyBytes) (body : List LogEntry) (report : Option (UInt64 × UInt64))

mutual

def LogEntry.lines (depth : Nat) : LogEntry → List LogLine
  | .text message => [.text message]
  | .invocation program body report =>
      .invoke program depth :: (bodyLines (depth + 1) body ++
        (report.toList.map (fun (used, budget) => .consumed program used budget) ++
          [.success program]))

def bodyLines (depth : Nat) : List LogEntry → List LogLine
  | [] => []
  | entry :: rest => entry.lines depth ++ bodyLines depth rest

end

/-- A top-level instruction of the transaction. -/
structure Invocation where
  program : PubkeyBytes
  body : List LogEntry
  report : Option (UInt64 × UInt64)

def logLines (invocations : List Invocation) : List LogLine :=
  invocations.flatMap fun invocation =>
    (LogEntry.invocation invocation.program invocation.body invocation.report).lines 1

/-- The units that the top-level invocations report. -/
def topLevelUnits (invocations : List Invocation) : Nat :=
  (invocations.filterMap fun invocation =>
    invocation.report.map fun (used, _) => used.toNat).sum

/-! ## What one line gives -/

theorem toBase58_ne_consumed (program : PubkeyBytes) :
    program.toBase58.toList ≠ "consumed".toList := by
  intro heq
  have hread := PubkeyBytes.fromBase58_toBase58 program
  rw [String.toList_inj.mp heq] at hread
  -- Eight digits are too few for 32 bytes.
  have hshort : (PubkeyBytes.fromBase58 "consumed").toOption = none := by decide +kernel
  rw [hread] at hshort
  cases hshort

theorem isWord_toBase58 (program : PubkeyBytes) : IsWord program.toBase58.toList := by
  apply isWord_base58Encode
  intro hnil
  have hlength := program.bytes.2
  rw [hnil] at hlength
  cases hlength

theorem words_consumed (program : PubkeyBytes) (used budget : UInt64) :
    words (LogLine.consumed program used budget).render.toList =
      ["Program".toList, program.toBase58.toList, "consumed".toList,
        Nat.toDigits 10 used.toNat, "of".toList, Nat.toDigits 10 budget.toNat,
        "compute".toList, "units".toList] := by
  have hparts : ∀ part ∈ ["Program".toList, program.toBase58.toList, "consumed".toList,
      Nat.toDigits 10 used.toNat, "of".toList, Nat.toDigits 10 budget.toNat,
      "compute".toList, "units".toList], IsWord part := by
    simp only [List.forall_mem_cons, isWord_toBase58, isWord_toDigits, true_and]
    refine ⟨isWord_of_all rfl, isWord_of_all rfl, isWord_of_all rfl, isWord_of_all rfl,
      isWord_of_all rfl, ?_⟩
    intro part hpart
    cases hpart
  rw [← words_intercalate hparts]
  simp [LogLine.render, List.intercalate_cons_cons, Nat.toString_eq_repr]

theorem words_invoke (program : PubkeyBytes) (depth : Nat) :
    words (LogLine.invoke program depth).render.toList =
      ["Program".toList, program.toBase58.toList, "invoke".toList,
        '[' :: (Nat.toDigits 10 depth ++ "]".toList)] := by
  have hdepth : IsWord ('[' :: (Nat.toDigits 10 depth ++ "]".toList)) := by
    refine ⟨List.cons_ne_nil _ _, ?_⟩
    intro c hmem
    rcases List.mem_cons.mp hmem with rfl | hmem
    · decide
    · rcases List.mem_append.mp hmem with hdigit | hclose
      · exact (isWord_toDigits depth).plain c hdigit
      · rw [List.mem_singleton.mp hclose]
        decide
  have hparts : ∀ part ∈ ["Program".toList, program.toBase58.toList, "invoke".toList,
      '[' :: (Nat.toDigits 10 depth ++ "]".toList)], IsWord part := by
    simp only [List.forall_mem_cons, isWord_toBase58, true_and]
    refine ⟨isWord_of_all rfl, isWord_of_all rfl, hdepth, ?_⟩
    intro part hpart
    cases hpart
  rw [← words_intercalate hparts]
  simp [LogLine.render, List.intercalate_cons_cons, Nat.toString_eq_repr]

theorem words_success (program : PubkeyBytes) :
    words (LogLine.success program).render.toList =
      ["Program".toList, program.toBase58.toList, "success".toList] := by
  have hparts : ∀ part ∈ ["Program".toList, program.toBase58.toList, "success".toList],
      IsWord part := by
    simp only [List.forall_mem_cons, isWord_toBase58, true_and]
    refine ⟨isWord_of_all rfl, isWord_of_all rfl, ?_⟩
    intro part hpart
    cases hpart
  rw [← words_intercalate hparts]
  simp [LogLine.render, List.intercalate_cons_cons]

/-- A line without the word is not a report. -/
theorem consumedUnits_of_no_word {log : String}
    (hword : ∀ word ∈ words log.toList, word ≠ "consumed".toList) : consumedUnits log = none := by
  have hindex : (words log.toList).findIdx? (· = "consumed".toList) = none := by
    rw [List.findIdx?_eq_none_iff]
    intro word hmem
    exact decide_eq_false (hword word hmem)
  unfold consumedUnits
  dsimp only
  split
  · rw [hindex]
    rfl
  · rfl

/-- A word that starts otherwise is not the word. -/
theorem ne_consumed_of_head {word : List Char} (hhead : word.head? ≠ some 'c') :
    word ≠ "consumed".toList := by
  rintro rfl
  exact hhead rfl

theorem consumedUnits_invoke (program : PubkeyBytes) (depth : Nat) :
    consumedUnits (LogLine.invoke program depth).render = none := by
  apply consumedUnits_of_no_word
  rw [words_invoke]
  intro word hmem
  simp only [List.mem_cons, List.not_mem_nil, or_false] at hmem
  rcases hmem with rfl | rfl | rfl | rfl
  · exact ne_consumed_of_head (by decide)
  · exact toBase58_ne_consumed program
  · exact ne_consumed_of_head (by decide)
  · exact ne_consumed_of_head (by rw [List.head?_cons]; decide)

theorem consumedUnits_success (program : PubkeyBytes) :
    consumedUnits (LogLine.success program).render = none := by
  apply consumedUnits_of_no_word
  rw [words_success]
  intro word hmem
  simp only [List.mem_cons, List.not_mem_nil, or_false] at hmem
  rcases hmem with rfl | rfl | rfl
  · exact ne_consumed_of_head (by decide)
  · exact toBase58_ne_consumed program
  · exact ne_consumed_of_head (by decide)

theorem findIdx?_consumed {first second : List Char} (hfirst : first ≠ "consumed".toList)
    (hsecond : second ≠ "consumed".toList) (rest : List (List Char)) :
    (first :: second :: "consumed".toList :: rest).findIdx? (· = "consumed".toList) = some 2 := by
  rw [List.findIdx?_cons, decide_eq_false hfirst, List.findIdx?_cons, decide_eq_false hsecond,
    List.findIdx?_cons, decide_eq_true rfl]
  rfl

theorem containsText_of_eq {log pattern : String} {before after : List Char}
    (hlog : log.toList = before ++ (pattern.toList ++ after)) :
    containsText log pattern = true := by
  rw [containsText, hlog]
  exact decide_eq_true ⟨before, after, by rw [List.append_assoc]⟩

/-- A line with a number after its first `consumed`. -/
theorem consumedUnits_of_words {log : String} {first second part : List Char}
    {rest : List (List Char)} (hconsumed : containsText log "consumed" = true)
    (hunits : containsText log "compute units" = true)
    (hwords : words log.toList = first :: second :: "consumed".toList :: part :: rest)
    (hfirst : first ≠ "consumed".toList) (hsecond : second ≠ "consumed".toList) :
    consumedUnits log = parseWord part := by
  unfold consumedUnits
  dsimp only
  rw [hconsumed, hunits, Bool.and_self, if_pos rfl, hwords,
    findIdx?_consumed hfirst hsecond]
  rfl

theorem consumedUnits_consumed (program : PubkeyBytes) (used budget : UInt64) :
    consumedUnits (LogLine.consumed program used budget).render = some used := by
  have htext : (LogLine.consumed program used budget).render.toList =
      ("Program ".toList ++ program.toBase58.toList ++ " ".toList) ++ ("consumed".toList ++
        (" ".toList ++ Nat.toDigits 10 used.toNat ++ " of ".toList ++
          Nat.toDigits 10 budget.toNat ++ " ".toList ++ "compute units".toList)) := by
    simp [LogLine.render, Nat.toString_eq_repr]
  rw [consumedUnits_of_words (containsText_of_eq htext) ?_ (words_consumed program used budget)
    (ne_consumed_of_head (by decide)) (toBase58_ne_consumed program)]
  · exact parseWord_toDigits used
  · rw [containsText, htext]
    exact decide_eq_true (((List.suffix_append _ _).trans (List.suffix_append _ _)).trans
      (List.suffix_append _ _)).isInfix

/-- A text that reads like a report. -/
def forgedReport (units : UInt64) : String :=
  "consumed " ++ toString units.toNat ++ " of " ++ toString units.toNat ++ " compute units"

theorem consumedUnits_forged (units : UInt64) :
    consumedUnits (LogLine.text (forgedReport units)).render = some units := by
  have htext : (LogLine.text (forgedReport units)).render.toList =
      "Program log: ".toList ++ ("consumed".toList ++ (" ".toList ++
        Nat.toDigits 10 units.toNat ++ " of ".toList ++ Nat.toDigits 10 units.toNat ++
          " ".toList ++ "compute units".toList)) := by
    simp [LogLine.render, forgedReport, Nat.toString_eq_repr]
  have hparts : ∀ part ∈ ["Program".toList, "log:".toList, "consumed".toList,
      Nat.toDigits 10 units.toNat, "of".toList, Nat.toDigits 10 units.toNat,
      "compute".toList, "units".toList], IsWord part := by
    simp only [List.forall_mem_cons, isWord_toDigits, true_and]
    refine ⟨isWord_of_all rfl, isWord_of_all rfl, isWord_of_all rfl, isWord_of_all rfl,
      isWord_of_all rfl, isWord_of_all rfl, ?_⟩
    intro part hpart
    cases hpart
  have hwords : words (LogLine.text (forgedReport units)).render.toList =
      ["Program".toList, "log:".toList, "consumed".toList, Nat.toDigits 10 units.toNat,
        "of".toList, Nat.toDigits 10 units.toNat, "compute".toList, "units".toList] := by
    rw [← words_intercalate hparts]
    simp [LogLine.render, forgedReport, List.intercalate_cons_cons, Nat.toString_eq_repr]
  rw [consumedUnits_of_words (containsText_of_eq htext) ?_ hwords
    (ne_consumed_of_head (by decide)) (ne_consumed_of_head (by decide))]
  · exact parseWord_toDigits units
  · rw [containsText, htext]
    exact decide_eq_true (((List.suffix_append _ _).trans (List.suffix_append _ _)).trans
      (List.suffix_append _ _)).isInfix

/-! ## Which line decides -/

/-- Lines that never give a number, whatever they name. -/
def LogLine.isSilent : LogLine → Bool
  | invoke _ _ | success _ => true
  | text _ | consumed _ _ _ => false

theorem consumedUnits_of_silent {line : LogLine} (hsilent : line.isSilent = true) :
    consumedUnits line.render = none := by
  cases line with
  | invoke program depth => exact consumedUnits_invoke program depth
  | success program => exact consumedUnits_success program
  | text message => cases hsilent
  | consumed program used budget => cases hsilent

def renderLines (lines : List LogLine) : List String := lines.map LogLine.render

/-- Silent lines after a line leave the decision to it. -/
theorem computeUnits_of_silent_after {before after : List LogLine} {line : LogLine} {units : UInt64}
    (hafter : ∀ line ∈ after, line.isSilent = true)
    (hline : consumedUnits line.render = some units) :
    computeUnitsFromLogs (renderLines (before ++ line :: after)) = some units := by
  have hnone : ((after.map LogLine.render).reverse).findSome? consumedUnits = none := by
    rw [List.findSome?_eq_none_iff]
    intro text hmem
    obtain ⟨silent, hsilent, rfl⟩ := List.mem_map.mp (List.mem_reverse.mp hmem)
    exact consumedUnits_of_silent (hafter silent hsilent)
  rw [computeUnitsFromLogs, renderLines, List.map_append, List.map_cons, List.reverse_append,
    List.reverse_cons, List.findSome?_append, List.findSome?_append, hnone]
  simp [hline]

/-- Lines either are all silent or end in silent ones after one that is not. -/
theorem silent_or_last (lines : List LogLine) :
    (∀ line ∈ lines, line.isSilent = true) ∨
      ∃ before line after, lines = before ++ line :: after ∧ line.isSilent = false ∧
        ∀ silent ∈ after, silent.isSilent = true := by
  induction lines with
  | nil => exact .inl fun line hmem => by cases hmem
  | cons first rest ih =>
      rcases ih with hall | ⟨before, line, after, rfl, hline, hafter⟩
      · cases hfirst : first.isSilent with
        | true => exact .inl (List.forall_mem_cons.mpr ⟨hfirst, hall⟩)
        | false => exact .inr ⟨[], first, rest, rfl, hfirst, hall⟩
      · exact .inr ⟨first :: before, line, after, rfl, hline, hafter⟩

theorem computeUnits_of_silent {lines : List LogLine}
    (hall : ∀ line ∈ lines, line.isSilent = true) :
    computeUnitsFromLogs (renderLines lines) = none := by
  rw [computeUnitsFromLogs, List.findSome?_eq_none_iff]
  intro text hmem
  obtain ⟨line, hline, rfl⟩ := List.mem_map.mp (List.mem_reverse.mp hmem)
  exact consumedUnits_of_silent (hall line hline)

/-! ## The derived limit -/

theorem div_mul_le_roundShifted (value shift : Nat) :
    value / 2 ^ shift * 2 ^ shift ≤ roundShifted value shift := by
  unfold roundShifted
  dsimp only
  split
  · exact Nat.le_refl _
  · split
    · exact Nat.mul_le_mul_right _ (Nat.le_succ _)
    · exact Nat.mul_le_mul_right _ (Nat.le_add_right _ _)

/-- Rounding to a double loses little. -/
theorem sub_le_roundDouble (value : Nat) : value - value / 2 ^ 52 ≤ roundDouble value := by
  have hrounded := div_mul_le_roundShifted value (value.log2 - 52)
  have hdivision := Nat.div_add_mod' value (2 ^ (value.log2 - 52))
  have hloss : value % 2 ^ (value.log2 - 52) ≤ value / 2 ^ 52 := by
    by_cases hsmall : value.log2 ≤ 52
    · rw [Nat.sub_eq_zero_of_le hsmall, pow_zero, Nat.mod_one]
      exact Nat.zero_le _
    · have hvalue : value ≠ 0 := by
        rintro rfl
        simp at hsmall
      have hpower : 2 ^ (value.log2 - 52) * 2 ^ 52 ≤ value := by
        rw [← pow_add, Nat.sub_add_cancel (by omega)]
        exact Nat.log2_self_le hvalue
      have hle := (Nat.le_div_iff_mul_le (by norm_num)).mpr hpower
      exact (Nat.mod_lt _ (by positivity)).le.trans hle
  rw [roundDouble]
  omega

/-- The limit covers the units it is derived from, up to the cap. -/
theorem le_computeLimitFromSimulation (units : UInt64) :
    min units.toNat 1400000 ≤ (computeLimitFromSimulation units).toNat := by
  have hunits := sub_le_roundDouble units.toNat
  have hscaled := sub_le_roundDouble (roundDouble units.toNat * cuHeadroomFactor)
  rw [computeLimitFromSimulation]
  generalize roundDouble units.toNat = rounded at hunits hscaled ⊢
  generalize roundDouble (rounded * cuHeadroomFactor) = scaled at hscaled ⊢
  rw [cuHeadroomFactor] at hscaled
  -- The headroom outweighs what the two roundings lose.
  have hheadroom : rounded ≤ scaled / 2 ^ 52 := by
    rw [Nat.le_div_iff_mul_le (by norm_num)]
    omega
  have hcovered : min units.toNat 1400000 ≤ rounded := by omega
  rw [UInt32.toNat_ofNat_of_lt' (show _ < 2 ^ 32 by omega)]
  omega

/-! ## When the units are covered -/

/-- A line, or a text in the place of a text. -/
def SameButText (line other : LogLine) : Prop :=
  line = other ∨ ∃ message changed, line = .text message ∧ other = .text changed

/-- The same lines, but for what programs wrote. -/
def SameButTexts (lines others : List LogLine) : Prop := List.Forall₂ SameButText lines others

theorem sameButTexts_refl (lines : List LogLine) : SameButTexts lines lines := by
  induction lines with
  | nil => exact .nil
  | cons line rest ih => exact .cons (.inl rfl) ih

theorem SameButTexts.split {before after others : List LogLine} {line : LogLine}
    (hsame : SameButTexts (before ++ line :: after) others) :
    ∃ beforeOthers other afterOthers, others = beforeOthers ++ other :: afterOthers ∧
      SameButText line other ∧ SameButTexts after afterOthers := by
  induction before generalizing others with
  | nil =>
      cases hsame with
      | cons hline hafter => exact ⟨[], _, _, rfl, hline, hafter⟩
  | cons first rest ih =>
      cases hsame with
      | cons hfirst hrest =>
          obtain ⟨beforeOthers, other, afterOthers, rfl, hline, hafter⟩ := ih hrest
          exact ⟨_ :: beforeOthers, other, afterOthers, rfl, hline, hafter⟩

/-- Silent lines are not texts. -/
theorem SameButTexts.eq_of_silent {lines others : List LogLine} (hsame : SameButTexts lines others)
    (hall : ∀ line ∈ lines, line.isSilent = true) : others = lines := by
  induction hsame with
  | nil => rfl
  | cons hline _ ih =>
      obtain ⟨hsilent, hrest⟩ := List.forall_mem_cons.mp hall
      rw [ih hrest]
      rcases hline with rfl | ⟨message, changed, rfl, rfl⟩
      · rfl
      · cases hsilent

/-- Both simulation calls extract the units of the top-level invocations, the limit derived from
them covers these up to the cap, and no text of a program changes what is extracted. -/
structure UnitsCovered (invocations : List Invocation) : Prop where
  total : ∃ used, used.toNat = topLevelUnits invocations ∧
    min (topLevelUnits invocations) 1400000 ≤ (computeLimitFromSimulation used).toNat ∧
    ∀ value, value.logs = some (renderLines (logLines invocations)) →
      (simulateOutput value).computeUnitsUsed = some used ∧
        (simulateV0Output value).2.2 = some used
  texts : ∀ others, SameButTexts (logLines invocations) others → ∀ value changed,
    value.logs = some (renderLines (logLines invocations)) →
    changed.logs = some (renderLines others) →
      (simulateOutput changed).computeUnitsUsed = (simulateOutput value).computeUnitsUsed ∧
        (simulateV0Output changed).2.2 = (simulateV0Output value).2.2

/-- The last report is followed by no text of a program, and reports what the top-level invocations
report together. -/
def LastReportIsTotal (invocations : List Invocation) : Prop :=
  ∃ before program used budget after,
    logLines invocations = before ++ .consumed program used budget :: after ∧
    (∀ line ∈ after, line.isSilent = true) ∧ used.toNat = topLevelUnits invocations

section

variable {invocations : List Invocation}

theorem computeUnitsUsed_of_logs {value : RpcSimulateTransactionResult} {lines : List LogLine}
    (hlogs : value.logs = some (renderLines lines)) :
    (simulateOutput value).computeUnitsUsed = computeUnitsFromLogs (renderLines lines) ∧
      (simulateV0Output value).2.2 = computeUnitsFromLogs (renderLines lines) := by
  rw [simulateOutput, simulateV0Output, hlogs]
  exact ⟨rfl, rfl⟩

theorem unitsCovered_of_last (hlast : LastReportIsTotal invocations) :
    UnitsCovered invocations := by
  obtain ⟨before, program, used, budget, after, hlines, hafter, hused⟩ := hlast
  have hextract : computeUnitsFromLogs (renderLines (logLines invocations)) = some used := by
    rw [hlines]
    exact computeUnits_of_silent_after hafter (consumedUnits_consumed program used budget)
  constructor
  · refine ⟨used, hused, hused ▸ le_computeLimitFromSimulation used, fun value hlogs => ?_⟩
    rw [← hextract]
    exact computeUnitsUsed_of_logs hlogs
  · -- Neither the last report nor a line after it is a text, so what changed stands before it.
    intro others hsame value changed hvalue hchanged
    rw [hlines] at hsame
    obtain ⟨beforeOthers, other, afterOthers, rfl, hline, hrest⟩ := hsame.split
    have hother : LogLine.consumed program used budget = other := by
      rcases hline with heq | ⟨message, _, htext, _⟩
      · exact heq
      · cases htext
    have hothers : computeUnitsFromLogs (renderLines (beforeOthers ++ other :: afterOthers)) =
        some used := by
      rw [hrest.eq_of_silent hafter, ← hother]
      exact computeUnits_of_silent_after hafter (consumedUnits_consumed program used budget)
    obtain ⟨hleft, hleftV0⟩ := computeUnitsUsed_of_logs hchanged
    obtain ⟨hright, hrightV0⟩ := computeUnitsUsed_of_logs hvalue
    rw [hleft, hright, hleftV0, hrightV0, hothers, hextract]
    exact ⟨rfl, rfl⟩

/-- A text after which nothing is reported decides what is extracted. -/
theorem not_texts_of_last_text {lines before after : List LogLine} {message : String}
    (hlines : lines = before ++ .text message :: after)
    (hafter : ∀ line ∈ after, line.isSilent = true) :
    ¬ ∀ others, SameButTexts lines others →
      computeUnitsFromLogs (renderLines others) = computeUnitsFromLogs (renderLines lines) := by
  intro htexts
  have hforged : ∀ units : UInt64, some units = computeUnitsFromLogs (renderLines lines) := by
    intro units
    rw [← htexts (before ++ .text (forgedReport units) :: after)]
    · exact (computeUnits_of_silent_after hafter (consumedUnits_forged units)).symm
    · rw [hlines]
      exact List.rel_append (sameButTexts_refl before)
        (.cons (.inr ⟨_, _, rfl, rfl⟩) (sameButTexts_refl after))
  have hequal : (0 : UInt64) = 1 := Option.some.inj ((hforged 0).trans (hforged 1).symm)
  cases hequal

theorem UnitsCovered.extracted (hcovered : UnitsCovered invocations) :
    ∃ used, used.toNat = topLevelUnits invocations ∧
      computeUnitsFromLogs (renderLines (logLines invocations)) = some used := by
  obtain ⟨used, hused, _, hextract⟩ := hcovered.total
  exact ⟨used, hused, (hextract ⟨none, some _, none⟩ rfl).1⟩

theorem last_of_unitsCovered (hcovered : UnitsCovered invocations) :
    LastReportIsTotal invocations := by
  obtain ⟨used, hused, htotal⟩ := hcovered.extracted
  rcases silent_or_last (logLines invocations) with
    hall | ⟨before, line, after, hlines, hline, hafter⟩
  · rw [computeUnits_of_silent hall] at htotal
    cases htotal
  · cases line with
    | invoke program depth => cases hline
    | success program => cases hline
    | text message =>
        -- A forged report in its place would be extracted.
        refine absurd (fun others hsame => ?_) (not_texts_of_last_text hlines hafter)
        exact (hcovered.texts others hsame ⟨none, some _, none⟩ ⟨none, some _, none⟩ rfl rfl).1
    | consumed program units budget =>
        have hunits : computeUnitsFromLogs (renderLines (logLines invocations)) = some units := by
          rw [hlines]
          exact computeUnits_of_silent_after hafter (consumedUnits_consumed program units budget)
        obtain rfl := Option.some.inj (hunits.symm.trans htotal)
        exact ⟨before, program, units, budget, after, hlines, hafter, hused⟩

/-- The units of a transaction are covered exactly when its last report is of all of them. -/
theorem units_covered_iff (invocations : List Invocation) :
    UnitsCovered invocations ↔ LastReportIsTotal invocations :=
  ⟨last_of_unitsCovered, unitsCovered_of_last⟩

end

/-- Two calls of one program that report 400000 units each. -/
def twoSwaps : List Invocation :=
  [⟨⟨Bytes.filled 32 1⟩, [.text "swap"], some (400000, 1400000)⟩,
    ⟨⟨Bytes.filled 32 1⟩, [.text "swap"], some (400000, 1000000)⟩]

/-- The units of the second are extracted alone. -/
theorem second_units_alone : ¬ UnitsCovered twoSwaps := by
  intro hcovered
  obtain ⟨used, hused, htotal⟩ := hcovered.extracted
  have hlast : computeUnitsFromLogs (renderLines (logLines twoSwaps)) = some 400000 := by
    have hlines : logLines twoSwaps = (logLines twoSwaps).take 6 ++
        .consumed ⟨⟨List.replicate 32 1, rfl⟩⟩ 400000 1000000 ::
          [.success ⟨⟨List.replicate 32 1, rfl⟩⟩] := by
      rfl
    rw [hlines]
    exact computeUnits_of_silent_after (by simp [LogLine.isSilent]) (consumedUnits_consumed ..)
  have hboth : some used = some (400000 : UInt64) := htotal.symm.trans hlast
  rw [Option.some.inj hboth] at hused
  exact absurd hused (by decide)

end SolFrontier.WalletEngine
