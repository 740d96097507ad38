import NodeLedger.Proofs.Node.Balance
import NodeLedger.Proofs.Price.Outside
import NodeLedger.Proofs.Report.Categories
import NodeLedger.Proofs.Report.Inward

/-!
# Entries of payments

The entries of payments in a report are those of the payments that were settled in the period: one
for what was paid and one behind it for the fee, if there was one.  What they say is told by the
payment alone: where it went and how it is filed does not matter for their times, amounts and
references.

Main results:

- Definition `Payment.lines`: what the entries of a payment say.
- Theorem `OffChainSource.lines_of_ends_report`: what the entries of payments in a report off chain
  say.
- Theorem `NodeSource.lines_of_ends`: those of a whole report say the same, perhaps in another
  order.
- Definition `Node.Reports` and theorem `Node.lines_of_reports`: so do those of a report of the
  node, whose payments are listed but once.
-/

namespace NodeLedger

open List NodeLedger.Action

/-! ## What an entry says -/

/-- Whether an entry of a kind may be that of a payment or of its fee. -/
def EntryKind.isPayment : EntryKind → Bool
  | .payment | .fee | .circularPayment | .circularPaymentFee => true
  | _ => false

/-- Whether an entry is that of a payment or of its fee; what is sent on chain is no payment. -/
def Entry.isPayment (entry : Entry) : Bool :=
  !entry.onChain && entry.kind.isPayment

/-- What the entry of a payment says: when it was settled, under which hash it stands, its
reference, and what it adds to the balance. -/
structure PaymentLine where
  time : Int
  hash : Value
  reference : Value
  amount : Int

/-- What an entry says. -/
def Entry.line (entry : Entry) : PaymentLine :=
  ⟨entry.timestamp, entry.txid, entry.reference, entry.signedAmount⟩

/-- What the entry of a draft will say. -/
def Draft.line (draft : Draft) : PaymentLine :=
  ⟨draft.timestamp, draft.txid, draft.reference, draft.amount⟩

theorem Draft.map_line_eq {priceAt : Int → Except Failure Price} {made : List Draft}
    {block : List Entry} (h : Forall₂ (Becomes priceAt) made block) :
    block.map Entry.line = made.map Draft.line := by
  refine (map_eq_map_of_forall₂ h ?_).symm
  rintro draft - entry ⟨price, value, -, -, rfl⟩
  exact congrArg (PaymentLine.mk _ _ _) (signedAmount_priced draft price value).symm

namespace Payment

/-- What the entries of a payment say: one for what it paid, and one for the fee if there was
one. -/
def lines (payment : Payment) : List PaymentLine :=
  ⟨payment.settleTime, payment.paymentHash, payment.reference, -payment.amount⟩ ::
    if payment.fee = 0 then []
    else [⟨payment.settleTime, payment.paymentHash, feeReference payment.reference, -payment.fee⟩]

/-- Whether a payment was settled in a period. -/
def isSettledIn (period : Period) (payment : Payment) : Bool :=
  payment.status == .succeeded && period.contains payment.settleTime

end Payment

/-! ## Blocks -/

section Blocks

variable {context : EntryContext} {circular : Table Key Value} {s t : Session}
  {block : List Entry}

/-- The block of a payment says what the payment tells. -/
theorem ResolvedPayment.lines_of_ends {resolved : ResolvedPayment}
    (htime : resolved.settleTime = resolved.payment.settleTime)
    (h : Ends (Draft.valueAll context (resolved.reportDrafts context circular)) s block t) :
    block.map Entry.line = resolved.payment.lines ∧ ∀ entry ∈ block, entry.isPayment = true := by
  obtain ⟨made, hmade, hbecome⟩ := Draft.ends_valueAll h
  obtain ⟨isSelf, -, hmade⟩ := bind_eq_ok_iff.mp hmade
  obtain ⟨category, -, hmade⟩ := bind_eq_ok_iff.mp hmade
  cases hmade
  refine ⟨?_, ?_⟩
  · rw [Draft.map_line_eq hbecome, Payment.lines, ← htime]
    by_cases hfee : resolved.payment.fee = 0
    · rw [if_pos hfee, if_pos hfee]
      rfl
    · rw [if_neg hfee, if_neg hfee]
      rfl
  · intro entry hentry
    obtain ⟨draft, hdraft, _, _, -, -, rfl⟩ := exists_of_mem_right hbecome hentry
    split at hdraft
    · rw [List.mem_singleton.mp hdraft]
      cases isSelf <;> rfl
    · rcases List.mem_pair.mp hdraft with rfl | rfl <;> cases isSelf <;> rfl

/-- The block of an invoice is not that of a payment. -/
theorem Invoice.not_isPayment_of_ends {invoice : Invoice}
    (h : Ends (Draft.valueAll context (invoice.reportDrafts context circular)) s block t) :
    ∀ entry ∈ block, entry.isPayment = false := by
  obtain ⟨made, hmade, hbecome⟩ := Draft.ends_valueAll h
  obtain ⟨isSelf, -, hmade⟩ := bind_eq_ok_iff.mp hmade
  obtain ⟨draft, hdraft, hmade⟩ := bind_eq_ok_iff.mp hmade
  cases hmade
  obtain ⟨category, -, hdraft⟩ := bind_eq_ok_iff.mp hdraft
  cases hdraft
  intro entry hentry
  obtain ⟨draft, hdraft, _, _, -, -, rfl⟩ := exists_of_mem_right hbecome hentry
  rw [List.mem_singleton.mp hdraft]
  cases isSelf <;> rfl

/-- Nor is that of a forward. -/
theorem Forward.not_isPayment_of_ends {forward : Forward}
    (h : Ends (Draft.valueAll context (.ok forward.drafts)) s block t) :
    ∀ entry ∈ block, entry.isPayment = false := by
  obtain ⟨made, hmade, hbecome⟩ := Draft.ends_valueAll h
  cases hmade
  intro entry hentry
  obtain ⟨draft, hdraft, _, _, -, -, rfl⟩ := exists_of_mem_right hbecome hentry
  unfold Forward.drafts at hdraft
  split at hdraft
  · rw [List.mem_singleton.mp hdraft]
    rfl
  · rcases List.mem_pair.mp hdraft with rfl | rfl <;> rfl

end Blocks

/-! ## Reports -/

/-- The payments that are selected are those that were settled in the period, resolved or not. -/
theorem ResolvedPayment.map_select {period : Period} {payments : List Payment}
    {resolved : List ResolvedPayment}
    (h : Forall₂ (fun (payment : Payment) (resolved : ResolvedPayment) =>
      resolved.payment = payment ∧ resolved.settleTime = payment.settleTime) payments resolved) :
    (select period resolved).map (·.payment) = payments.filter (Payment.isSettledIn period) := by
  have hkept : Forall₂ (fun (payment : Payment) (resolved : ResolvedPayment) =>
      resolved.payment = payment ∧ resolved.settleTime = payment.settleTime)
      (payments.filter (Payment.isSettledIn period)) (select period resolved) := by
    refine List.rel_filter ?_ h
    rintro payment resolved ⟨rfl, htime⟩
    dsimp only [Payment.isSettledIn]
    rw [htime]
  have hsame : (payments.filter (Payment.isSettledIn period)).map id =
      (select period resolved).map (·.payment) :=
    map_eq_map_of_forall₂ hkept fun _ _ _ hresolved => hresolved.1.symm
  rw [← hsame, List.map_id]

/-- The entries of payments in a report off chain say what the payments tell that were settled in
the period. -/
theorem OffChainSource.lines_of_ends_report {source : OffChainSource} {period : Period}
    {context : EntryContext} {s t : Session} {entries : List Entry}
    (h : Ends (source.report period context) s entries t) :
    ∃ invoices s₁ line payments s₂, Ends source.invoices s invoices s₁ ∧
      Ends source.payments (s₁.write line) payments s₂ ∧
      (entries.filter Entry.isPayment).map Entry.line =
        (payments.filter (Payment.isSettledIn period)).flatMap Payment.lines := by
  obtain ⟨invoices, s₁, line, payments, s₂, resolved, s₃, own, s₄, table, _, _, forwards, _, _,
    blocks, hinvoices, hpayments, hresolved, -, -, -, -, hblocks, rfl⟩ := ends_report h
  refine ⟨invoices, s₁, line, payments, s₂, hinvoices, hpayments, ?_⟩
  obtain ⟨front, passed, rfl, hfront, hpassed⟩ := forall₂_append_left hblocks.mapM
  obtain ⟨received, paid, rfl, hreceived, hpaid⟩ := forall₂_append_left hfront
  rw [forall₂_map_left_iff] at hreceived hpaid hpassed
  have hsame : Forall₂ (fun (payment : Payment) (resolved : ResolvedPayment) =>
      resolved.payment = payment ∧ resolved.settleTime = payment.settleTime) payments resolved :=
    hresolved.mapM.imp fun _ _ ⟨_, _, hends⟩ => Node.resolve_eq hends
  have htimes : ∀ r ∈ ResolvedPayment.select period resolved,
      r.settleTime = r.payment.settleTime := by
    intro r hr
    obtain ⟨payment, -, rfl, htime⟩ := exists_of_mem_right hsame (List.mem_filter.mp hr).1
    exact htime
  have hlines : Forall₂ (fun (r : ResolvedPayment) (block : List Entry) =>
      block.map Entry.line = r.payment.lines ∧ ∀ entry ∈ block, entry.isPayment = true)
      (ResolvedPayment.select period resolved) paid := by
    refine ((forall₂_and_left _ _).mpr ⟨htimes, hpaid⟩).imp ?_
    rintro r block ⟨htime, _, _, hends⟩
    exact ResolvedPayment.lines_of_ends htime hends
  have hnone : ∀ block ∈ received ++ passed, ∀ entry ∈ block, entry.isPayment = false := by
    intro block hblock
    rcases List.mem_append.mp hblock with hblock | hblock
    · obtain ⟨invoice, -, _, _, hends⟩ := exists_of_mem_right hreceived hblock
      exact Invoice.not_isPayment_of_ends hends
    · obtain ⟨forward, -, _, _, hends⟩ := exists_of_mem_right hpassed hblock
      exact Forward.not_isPayment_of_ends hends
  have hkept : ((received ++ paid ++ passed).flatten).filter Entry.isPayment = paid.flatten := by
    have hreceivedNone : received.flatten.filter Entry.isPayment = [] := by
      rw [List.filter_eq_nil_iff]
      intro entry hentry
      obtain ⟨block, hblock, hentry⟩ := List.mem_flatten.mp hentry
      exact Bool.eq_false_iff.mp (hnone block (List.mem_append_left _ hblock) entry hentry)
    have hpassedNone : passed.flatten.filter Entry.isPayment = [] := by
      rw [List.filter_eq_nil_iff]
      intro entry hentry
      obtain ⟨block, hblock, hentry⟩ := List.mem_flatten.mp hentry
      exact Bool.eq_false_iff.mp (hnone block (List.mem_append_right _ hblock) entry hentry)
    have hpaidAll : paid.flatten.filter Entry.isPayment = paid.flatten := by
      rw [List.filter_eq_self]
      intro entry hentry
      obtain ⟨block, hblock, hentry⟩ := List.mem_flatten.mp hentry
      obtain ⟨r, -, -, hall⟩ := exists_of_mem_right hlines hblock
      exact hall entry hentry
    rw [List.flatten_append, List.flatten_append, List.filter_append, List.filter_append,
      hreceivedNone, hpassedNone, hpaidAll, List.nil_append, List.append_nil]
  have hblocks : paid.map (List.map Entry.line) =
      (ResolvedPayment.select period resolved).map fun r => r.payment.lines :=
    (map_eq_map_of_forall₂ hlines fun _ _ _ hlines => hlines.1.symm).symm
  rw [hkept, List.map_flatten, hblocks, ← ResolvedPayment.map_select hsame, List.flatMap_map]
  rfl

/-- The entries of payments in a report say what the payments tell that were settled in the period,
perhaps in another order. -/
theorem NodeSource.lines_of_ends {source : NodeSource} {request : ReportRequest}
    {priceAt : Int → Except Failure Price} {s t : Session} {entries : List Entry}
    (h : Ends (source.reportWithPrices request priceAt) s entries t) :
    ∃ onChainEntries s₁ invoices s₂ line payments s₃,
      Ends (source.onChain.report request.unconfirmedAsNow request.period
        { priceAt, categories := request.categories.filter (·.onChain) }) s onChainEntries s₁ ∧
      Ends source.offChain.invoices s₁ invoices s₂ ∧
      Ends source.offChain.payments (s₂.write line) payments s₃ ∧
      ((entries.filter Entry.isPayment).map Entry.line) ~
        (payments.filter (Payment.isSettledIn request.period)).flatMap Payment.lines := by
  obtain ⟨onChainEntries, s₁, offChainEntries, t', honChain, hoffChain, rfl⟩ :=
    ends_reportWithPrices h
  obtain ⟨invoices, s₂, line, payments, s₃, hinvoices, hpayments, hlines⟩ :=
    OffChainSource.lines_of_ends_report hoffChain
  refine ⟨onChainEntries, s₁, invoices, s₂, line, payments, s₃, honChain, hinvoices, hpayments, ?_⟩
  -- What happened on chain is no payment.
  have hnone : onChainEntries.filter Entry.isPayment = [] := by
    obtain ⟨selection, _, blocks, -, rfl, hblocks⟩ :=
      OnChainSource.filed_of_ends_report rfl honChain
    rw [List.filter_eq_nil_iff]
    intro entry hentry
    obtain ⟨block, hblock, hentry⟩ := List.mem_flatten.mp hentry
    obtain ⟨tx, -, hblockOf⟩ := exists_of_mem_right hblocks hblock
    simp [Entry.isPayment, hblockOf.onChain_eq entry hentry]
  have hperm : (Entry.sort (onChainEntries ++ offChainEntries)).filter Entry.isPayment ~
      offChainEntries.filter Entry.isPayment := by
    have hsorted := (Entry.stablyReordered_sort (onChainEntries ++ offChainEntries)).perm
    have hfiltered := hsorted.filter Entry.isPayment
    rwa [List.filter_append, hnone, List.nil_append] at hfiltered
  rw [← hlines]
  exact hperm.map Entry.line

/-! ## Reports of the node -/

namespace Node

/-- The entries of a report that is begun in a session, with prices that are given, or with those of
a source that leaves the node alone. -/
def Reports (request : ReportRequest) (s : Session) (entries : List Entry) : Prop :=
  (∃ priceAt t, Ends (source.reportWithPrices request priceAt) s entries t) ∨
    ∃ prices t, (∀ found, prices = .ok found → found.Outside) ∧
      Ends (source.report request prices) s entries t

/-- However the prices are had, a report is at last made with a price for each time, while the node
is still the same. -/
theorem Reports.exists_ends {request : ReportRequest} {s : Session} {entries : List Entry}
    (h : Reports request s entries) : ∃ priceAt u t, u.node = s.node ∧
      Ends (source.reportWithPrices request priceAt) u entries t := by
  rcases h with ⟨priceAt, t, h⟩ | ⟨prices, t, houtside, h⟩
  · exact ⟨priceAt, s, t, rfl, h⟩
  · obtain ⟨priceAt, u, hprices, h⟩ := ends_bind.mp h
    have hkept := (request.keeps_priceLookup houtside).of_ends hprices
    exact ⟨priceAt, u, t, Session.node_eq_of_inside hkept, h⟩

/-- The entries of payments in a report of the node say what the payments tell that the node lists
and that were settled in the period. -/
theorem lines_of_reports {request : ReportRequest} {s t : Session} {entries : List Entry}
    {payments : List Payment} (hpayments : Ends Node.payments s payments t)
    (h : Reports request s entries) :
    ((entries.filter Entry.isPayment).map Entry.line) ~
      (payments.filter (Payment.isSettledIn request.period)).flatMap Payment.lines := by
  obtain ⟨priceAt, u, v, hu, hends⟩ := h.exists_ends
  obtain ⟨onChainEntries, s₁, invoices, s₂, line, payments', s₃, honChain, hinvoices, hpayments',
    hlines⟩ := NodeSource.lines_of_ends hends
  have hnoFees : EntryContext.Inward
      { priceAt, categories := request.categories.filter (·.onChain) } := ⟨nofun⟩
  have hnode : (s₂.write line).node = s.node := calc
    (s₂.write line).node = s₂.node := rfl
    _ = s₁.node := inward_offChain.invoices.node_eq hinvoices
    _ = u.node := (inward_onChain.report hnoFees _ _).node_eq honChain
    _ = s.node := hu
  obtain ⟨result, hanswer, hread⟩ := Rpc.node_of_ends_read hpayments
  obtain ⟨result', hanswer', hread'⟩ := Rpc.node_of_ends_read hpayments'
  rw [hnode, hanswer] at hanswer'
  cases hanswer'
  rw [hread] at hread'
  cases hread'
  exact hlines

end Node

end NodeLedger
