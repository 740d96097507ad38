import NodeLedger.Proofs.Node.Inward
import NodeLedger.Proofs.Report.Block

/-!
# Reports inside a session

A report with a given price for each time asks the node and nobody else.  It stays inside the
session: what it comes to depends on the node and on what is remembered of it, and no price service
hears of it.

Main results:

- Structure `EntryContext.Inward`: the fees that can be looked up stay inside.
- Theorems `OnChainSource.Inward.report` and `OffChainSource.Inward.report` for the two parts of a
  report.
- Theorem `Node.inward_reportWithPrices` for the report of the node.
-/

namespace NodeLedger

open NodeLedger.Action

/-- In a context the fees that can be looked up stay inside a session. -/
structure EntryContext.Inward (context : EntryContext) : Prop where
  feeOf : ∀ feeOf, context.feeOf = some feeOf → ∀ txid, Action.Inward (feeOf txid)

variable {context : EntryContext}

/-! ## Entries -/

theorem inward_now : Inward now where
  keeps := keeps_get.bind fun s => keeps_pure s.now
  same _ _ h := ⟨congrArg Except.ok (Session.now_eq_of_inside h), h⟩

namespace Draft

theorem inward_value (draft : Draft) : Inward (draft.value context) := by
  have hnote : Inward (modify fun session => session.noteValued draft.timestamp) :=
    { keeps := keeps_modify fun _ => rfl, same := fun _ _ h => ⟨rfl, h⟩ }
  unfold value
  apply hnote.bind
  intro _
  apply (inward_lift _).bind
  intro price
  exact inward_lift _

theorem inward_valueAll (drafts : Except Failure (List Draft)) :
    Inward (valueAll context drafts) := by
  unfold valueAll
  exact (inward_lift _).bind fun made => Inward.mapM inward_value made

end Draft

namespace ClosedChannel

variable (channel : ClosedChannel)

theorem inward_closingFee (h : context.Inward) : Inward (channel.closingFee context) := by
  unfold closingFee
  cases channel.openInitiator with
  | us =>
    cases hfeeOf : context.feeOf with
    | none => exact (inward_log _ _).bind fun _ => inward_pure _
    | some feeOf => exact (h.feeOf feeOf hfeeOf _).bind fun _ => inward_pure _
  | peer => exact inward_pure _
  | unknown => exact (inward_log _ _).bind fun _ => inward_pure _
  | both => exact (inward_log _ _).bind fun _ => inward_pure _

theorem inward_closingEntries (h : context.Inward) (tx : Transaction) :
    Inward (channel.closingEntries context tx) := by
  unfold closingEntries
  apply (inward_lift _).bind
  intro category
  apply (Draft.inward_value _).bind
  intro closing
  apply (channel.inward_closingFee h).bind
  intro fee
  cases fee with
  | none => exact inward_pure _
  | some fee => exact (Draft.inward_value _).bind fun _ => inward_pure _

end ClosedChannel

theorem TransactionRole.inward_entries (h : context.Inward) (tx : Transaction)
    (role : TransactionRole) : Inward (role.entries context tx) := by
  cases role with
  | opens channel => exact Draft.inward_valueAll _
  | opened channel => exact Draft.inward_valueAll _
  | closes channel => exact channel.inward_closingEntries h tx
  | sweeps => exact Draft.inward_valueAll _
  | transfers => exact Draft.inward_valueAll _

/-! ## The two parts of a report -/

namespace OnChainSource

variable {source : OnChainSource}

theorem Inward.selection (h : source.Inward) (unconfirmedAsNow : Bool) (period : Period) :
    Action.Inward (source.selection unconfirmedAsNow period) := by
  unfold OnChainSource.selection
  apply h.transactions.bind
  intro txs
  apply h.sweeps.bind
  intro swept
  apply (Inward.mapM (fun _ => inward_lift _) swept).bind
  intro keys
  apply inward_now.bind
  intro now
  apply (inward_lift _).bind
  intro kept
  exact (inward_log _ _).bind fun _ => inward_pure _

theorem Inward.history (h : source.Inward) (sweeps : List Key) :
    Action.Inward (source.history sweeps) := by
  unfold OnChainSource.history
  apply h.openChannels.bind
  intro opens
  apply (Inward.foldlM (fun _ _ => inward_lift _) opens _).bind
  intro current
  exact h.closedChannels.bind fun closeds => Inward.foldlM (fun _ _ => inward_lift _) closeds _

theorem Inward.withFees (h : source.Inward) (context : EntryContext) :
    Action.Inward (source.withFees context) := by
  unfold OnChainSource.withFees
  cases context.feeOf with
  | none => exact h.feeLookup.bind fun _ => inward_pure _
  | some feeOf => exact inward_pure _

/-- The fees that are looked up for a report stay inside. -/
theorem Inward.inward_of_withFees (h : source.Inward) (hcontext : context.Inward)
    {fees : EntryContext} {s t : Session} (hfees : Ends (source.withFees context) s fees t) :
    fees.Inward where
  feeOf feeOf hfeeOf := by
    rcases feeOf_of_withFees hfees hfeeOf with hgiven | hlooked
    · exact hcontext.feeOf feeOf hgiven
    · exact h.feeOf _ _ feeOf hlooked

/-- What happened on chain is reported inside a session. -/
theorem Inward.report (h : source.Inward) (hcontext : context.Inward) (unconfirmedAsNow : Bool)
    (period : Period) : Action.Inward (source.report unconfirmedAsNow period context) := by
  unfold OnChainSource.report
  apply (h.selection unconfirmedAsNow period).bind
  intro selection
  dsimp only
  split
  · exact inward_pure []
  · apply (h.history _).bind
    intro history
    apply (inward_log _ _).bind
    intro _
    apply (h.withFees context).bind_of_ends
    intro fees s t hfees
    have hfeesInward := h.inward_of_withFees hcontext hfees
    refine (Action.Inward.mapM (fun tx => ?_) _).bind fun _ => inward_pure _
    exact (inward_lift _).bind fun role => role.inward_entries hfeesInward tx

end OnChainSource

/-- What happened off chain is reported inside a session. -/
theorem OffChainSource.Inward.report {source : OffChainSource} (h : source.Inward)
    (period : Period) : Action.Inward (source.report period context) := by
  unfold OffChainSource.report
  apply h.invoices.bind
  intro invoices
  apply (inward_log _ _).bind
  intro _
  apply h.payments.bind
  intro payments
  apply (Action.Inward.mapM (ResolvedPayment.inward_resolve h.decode) payments).bind
  intro resolved
  apply h.ownPubkey.bind
  intro own
  apply (ResolvedPayment.inward_circular own resolved).bind
  intro circular
  apply (inward_lift _).bind
  intro _
  apply (inward_log _ _).bind
  intro _
  apply (h.forwards period).bind
  intro forwards
  apply (inward_log _ _).bind
  intro _
  exact (Action.Inward.mapM Draft.inward_valueAll _).bind fun _ => inward_pure _

/-! ## The report of the node -/

/-- The report of the node with a given price for each time stays inside a session. -/
theorem Node.inward_reportWithPrices (request : ReportRequest)
    (priceAt : Int → Except Failure Price) :
    Action.Inward (source.reportWithPrices request priceAt) := by
  have hcontext : ∀ categories, EntryContext.Inward { priceAt, categories } :=
    fun _ => ⟨by simp⟩
  unfold NodeSource.reportWithPrices
  apply (inward_onChain.report (hcontext _) _ _).bind
  intro onChain
  apply (inward_offChain.report _).bind
  intro offChain
  exact (inward_log _ _).bind fun _ => inward_pure _

end NodeLedger
