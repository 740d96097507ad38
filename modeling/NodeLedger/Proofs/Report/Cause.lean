import NodeLedger.Proofs.Node.Cause
import NodeLedger.Proofs.Report.Times

/-!
# Causes for which a report fails

A report fails because its records cannot be had or do not fit together, or because there is no
price at the time of one of its entries.  All these times lie in the period of the report, as each
kind of record is selected by the time at which its entries stand; so prices outside of the period
do not matter.

Main results:

- Structure `EntryContext.CoveredBy`: the prices of a period and the fees cannot be had for some
  causes only.
- Theorem `OnChainSource.CoveredBy.coversRun_report_of_selection` for what happened on chain once
  the transactions are selected, theorem `OnChainSource.CoveredBy.coversRun_report` for all of it,
  and theorem `OffChainSource.CoveredBy.coversRun_report` for what happened off chain.
- Theorem `Node.coversRun_reportWithPrices` for the report of the node.
-/

namespace NodeLedger

open List NodeLedger.Action NodeLedger.Causes

variable {causes : Causes} {period : Period} {s : Session}

/-- In a context the prices of a period and the fees cannot be had for some causes only. -/
structure EntryContext.CoveredBy (causes : Causes) (period : Period) (context : EntryContext) :
    Prop where
  priceAt : ∀ time, period.contains time = true → causes.Covers (context.priceAt time)
  feeOf : ∀ feeOf, context.feeOf = some feeOf → ∀ txid s, causes.CoversRun (feeOf txid) s

variable [causes.OfAnswers] {context : EntryContext}

/-! ## Entries -/

namespace Draft

/-- A draft in a period is valued at a price of the period. -/
theorem coversRun_value (hcontext : context.CoveredBy causes period) {draft : Draft}
    (htime : period.contains draft.timestamp = true) :
    causes.CoversRun (draft.value context) s := by
  simp [value, entryAt, hcontext.priceAt _ htime]

/-- So are drafts in a period. -/
theorem coversRun_valueAll (hcontext : context.CoveredBy causes period)
    {drafts : Except Failure (List Draft)} (hdrafts : causes.Covers drafts)
    (htimes : ∀ made, drafts = .ok made → ∀ draft ∈ made,
      period.contains draft.timestamp = true) :
    causes.CoversRun (valueAll context drafts) s := by
  unfold valueAll
  rw [coversRun_bind]
  refine ⟨hdrafts, fun made t hmade => ?_⟩
  have htimes := htimes made (ends_lift.mp hmade).1
  exact coversRun_mapM fun draft hdraft _ => coversRun_value hcontext (htimes draft hdraft)

end Draft

namespace ClosedChannel

variable (channel : ClosedChannel)

omit [causes.OfAnswers] in
/-- The fee of a closing cannot be had only as fees cannot. -/
theorem coversRun_closingFee (hcontext : context.CoveredBy causes period) :
    causes.CoversRun (channel.closingFee context) s := by
  unfold closingFee
  cases channel.openInitiator with
  | us =>
    cases hfeeOf : context.feeOf with
    | none => simp
    | some feeOf => simp [hcontext.feeOf feeOf hfeeOf]
  | peer => simp
  | unknown => simp
  | both => simp

theorem coversRun_closingEntries (hcontext : context.CoveredBy causes period) {tx : Transaction}
    (htime : period.contains tx.timestamp = true) :
    causes.CoversRun (channel.closingEntries context tx) s := by
  have hclosing : ∀ category s,
      causes.CoversRun ((channel.closingDraft category tx).value context) s :=
    fun _ _ => Draft.coversRun_value hcontext htime
  have hclosingFee : ∀ category fee s,
      causes.CoversRun ((channel.closingFeeDraft category tx fee).value context) s :=
    fun _ _ _ => Draft.coversRun_value hcontext htime
  unfold closingEntries
  rw [coversRun_bind]
  refine ⟨by simp, fun category t _ => ?_⟩
  rw [coversRun_bind]
  refine ⟨hclosing category t, fun closing u _ => ?_⟩
  rw [coversRun_bind]
  refine ⟨channel.coversRun_closingFee hcontext, fun fee v _ => ?_⟩
  cases fee <;> simp [hclosingFee]

end ClosedChannel

/-- The drafts of a transaction in a period lie there too. -/
theorem TransactionRole.contains_of_drafts (role : TransactionRole) {tx : Transaction}
    {closingFee : Option Int} {made : List Draft} (htime : period.contains tx.timestamp = true)
    (hmade : role.drafts context tx closingFee = .ok made) :
    ∀ draft ∈ made, period.contains draft.timestamp = true := by
  intro draft hdraft
  rw [(drafts_ofEvent hmade).timestamp_eq draft hdraft]
  exact htime

/-- Whatever a transaction does, its entries fail for the same causes as its context. -/
theorem TransactionRole.coversRun_entries (hcontext : context.CoveredBy causes period)
    {tx : Transaction} (htime : period.contains tx.timestamp = true) (role : TransactionRole) :
    causes.CoversRun (role.entries context tx) s := by
  have hvalued : ∀ (role : TransactionRole) (closingFee : Option Int),
      causes.Covers (role.drafts context tx closingFee) →
      causes.CoversRun (Draft.valueAll context (role.drafts context tx closingFee)) s :=
    fun role _ hdrafts =>
      Draft.coversRun_valueAll hcontext hdrafts fun _ => role.contains_of_drafts htime
  cases role with
  | opens channel => exact hvalued (opens channel) none (by simp [drafts])
  | opened channel => exact hvalued (opened channel) none (by simp [drafts])
  | closes channel => exact channel.coversRun_closingEntries hcontext htime
  | sweeps => exact hvalued sweeps none (by simp [drafts, Transaction.sweepDrafts])
  | transfers => exact hvalued transfers none (by simp [drafts, Transaction.transferDrafts])

/-! ## On chain -/

namespace OnChainSource

variable {source : OnChainSource} (h : source.CoveredBy causes)

include h

omit [causes.OfAnswers] in
/-- The transactions of a report are selected among those of the source. -/
theorem CoveredBy.coversRun_selection [causes.OfRecords]
    (unconfirmedAsNow : Bool) (period : Period) :
    causes.CoversRun (source.selection unconfirmedAsNow period) s := by
  simp [selection, h.transactions, h.sweeps]

/-- The history is made of the channels of the source. -/
theorem CoveredBy.coversRun_history (sweeps : List Key) :
    causes.CoversRun (source.history sweeps) s := by
  simp [OnChainSource.history, h.openChannels, h.closedChannels]

omit [causes.OfAnswers] in
theorem CoveredBy.coversRun_withFees (context : EntryContext) :
    causes.CoversRun (source.withFees context) s := by
  unfold withFees
  cases context.feeOf with
  | some feeOf => simp
  | none => simp [h.feeLookup]

omit [causes.OfAnswers] in
/-- A context in which fees can be looked up is covered as well. -/
theorem CoveredBy.coveredBy_of_withFees (hcontext : context.CoveredBy causes period)
    {fees : EntryContext} {t : Session} (hfees : Ends (source.withFees context) s fees t) :
    fees.CoveredBy causes period where
  priceAt := by
    rw [(ends_withFees hfees).1]
    exact hcontext.priceAt
  feeOf feeOf hfeeOf := by
    rcases feeOf_of_withFees hfees hfeeOf with hgiven | hlooked
    · exact hcontext.feeOf feeOf hgiven
    · exact h.feeOf _ _ feeOf hlooked

/-- Once the transactions are selected, a report on chain fails for the causes of its channels, its
fees and its prices. -/
theorem CoveredBy.coversRun_report_of_selection (hcontext : context.CoveredBy causes period)
    {unconfirmedAsNow : Bool}
    (hselection : causes.CoversRun (source.selection unconfirmedAsNow period) s) :
    causes.CoversRun (source.report unconfirmedAsNow period context) s := by
  unfold report
  rw [coversRun_bind]
  refine ⟨hselection, fun selection t hselection => ?_⟩
  obtain ⟨listed, _, _, _, keys, line, -, -, -, -, hselect, -⟩ := ends_selection hselection
  have htimes := Transaction.contains_of_select hselect
  split
  next sweeps kept =>
  simp only [coversRun_ite, coversRun_pure, coversRun_bind, coversRun_log, true_and,
    implies_true]
  refine fun _ => ⟨h.coversRun_history _, fun history u _ _ v _ => ?_⟩
  refine ⟨h.coversRun_withFees context, fun fees w hfees => ⟨?_, trivial⟩⟩
  have hfeesCovered := h.coveredBy_of_withFees hcontext hfees
  refine coversRun_mapM fun tx htx s => ?_
  unfold ChannelHistory.entries
  rw [coversRun_bind]
  exact ⟨by simp, fun role _ _ => role.coversRun_entries hfeesCovered (htimes tx htx)⟩

omit [causes.OfAnswers] in
/-- A report on chain fails for the causes of its records, its fees and its prices. -/
theorem CoveredBy.coversRun_report [causes.OfRecords] (hcontext : context.CoveredBy causes period)
    (unconfirmedAsNow : Bool) :
    causes.CoversRun (source.report unconfirmedAsNow period context) s :=
  h.coversRun_report_of_selection hcontext (h.coversRun_selection unconfirmedAsNow period)

end OnChainSource

/-! ## Off chain -/

namespace ResolvedPayment

omit [causes.OfAnswers] in
/-- The destination of a payment cannot be had only as its request cannot be decoded. -/
theorem coversRun_resolve {decode : Value → Action PaymentRequest}
    (h : ∀ request s, causes.CoversRun (decode request) s) (payment : Payment) :
    causes.CoversRun (resolve decode payment) s := by
  simp [resolve, requestDetails, h]

/-- A payment that goes both ways is wrong data. -/
@[simp] theorem coversRun_addDirection (own : Value) (directions : Table Key Direction)
    (resolved : ResolvedPayment) :
    causes.CoversRun (addDirection own directions resolved) s := by
  unfold addDirection
  cases resolved.destination.kept with
  | none => simp
  | some destination =>
    rw [coversRun_bind]
    refine ⟨by simp, fun key t _ => ?_⟩
    cases Table.get? directions key <;> simp

@[simp] theorem coversRun_circular (own : Value) (payments : List ResolvedPayment) :
    causes.CoversRun (circular own payments) s := by
  simp [circular]

end ResolvedPayment

/-- The drafts of each record off chain can be made, or the record is at fault. -/
theorem covers_of_offChainDrafts {circular : Table Key Value} {invoices : List Invoice}
    {payments : List ResolvedPayment} {forwards : List Forward}
    {drafts : Except Failure (List Draft)}
    (h : drafts ∈ offChainDrafts context circular invoices payments forwards) :
    causes.Covers drafts := by
  unfold offChainDrafts at h
  rcases List.mem_append.mp h with h | h
  · rcases List.mem_append.mp h with h | h
    · obtain ⟨invoice, -, rfl⟩ := List.mem_map.mp h
      simp
    · obtain ⟨resolved, -, rfl⟩ := List.mem_map.mp h
      simp
  · obtain ⟨forward, -, rfl⟩ := List.mem_map.mp h
    simp

/-- A report off chain fails for the causes of its records and its prices. -/
theorem OffChainSource.CoveredBy.coversRun_report {source : OffChainSource}
    (h : source.CoveredBy causes) (hwithin : source.ListsWithin)
    (hcontext : context.CoveredBy causes period) :
    causes.CoversRun (source.report period context) s := by
  unfold report
  rw [coversRun_bind]
  refine ⟨h.invoices s, fun invoices t _ => ?_⟩
  simp only [coversRun_bind, coversRun_log, true_and]
  refine fun _ t _ => ⟨h.payments t, fun payments t _ => ?_⟩
  refine ⟨coversRun_mapM fun _ _ _ => ResolvedPayment.coversRun_resolve h.decode _, ?_⟩
  refine fun resolved t _ => ⟨h.ownPubkey t, fun own t _ => ⟨by simp, fun circular t _ => ?_⟩⟩
  refine ⟨by simp, fun _ t _ _ t _ => ⟨h.forwards period t, fun forwards u hforwards => ?_⟩⟩
  refine fun _ v _ => ⟨coversRun_mapM fun drafts hdrafts w => ?_, fun _ _ _ => coversRun_pure _⟩
  refine Draft.coversRun_valueAll hcontext (covers_of_offChainDrafts hdrafts) ?_
  rintro made rfl
  exact contains_of_offChainDrafts (hwithin period _ forwards _ hforwards) hdrafts

/-! ## The report of the node -/

omit [causes.OfAnswers] in
/-- The report of the node with a price for each time fails because of what the node answers, or
because there is no price at a time in its period. -/
theorem Node.coversRun_reportWithPrices [causes.OfRecords] {request : ReportRequest}
    {priceAt : Int → Except Failure Price}
    (hprices : ∀ time, request.period.contains time = true → causes.Covers (priceAt time)) :
    causes.CoversRun (source.reportWithPrices request priceAt) s := by
  have hcontext : ∀ categories,
      EntryContext.CoveredBy causes request.period { priceAt, categories } :=
    fun _ => ⟨hprices, by simp⟩
  have honChain : ∀ categories s, causes.CoversRun
      (onChain.report request.unconfirmedAsNow request.period { priceAt, categories }) s :=
    fun categories _ => coveredBy_onChain.coversRun_report (hcontext categories) _
  have hoffChain : ∀ categories s, causes.CoversRun
      (offChain.report request.period { priceAt, categories }) s :=
    fun categories _ =>
      coveredBy_offChain.coversRun_report listsWithin_offChain (hcontext categories)
  simp [NodeSource.reportWithPrices, source, honChain, hoffChain]

end NodeLedger
