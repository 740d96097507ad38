import NodeLedger.Proofs.Entry.Event
import NodeLedger.Proofs.Order.StableSort
import NodeLedger.Report.Node

/-!
# Blocks of a report

A report is made of blocks: the entries of one record, one block behind the other.  A report that
has been made is taken apart into what the node has listed, what has been selected of it, and the
block of each record selected.

Main results:

- Theorem `OnChainSource.ends_report` takes the report of what happened on chain apart, and theorem
  `OnChainSource.blocks_of_ends_report` says what its blocks are made of.
- Theorem `OffChainSource.ends_report` does so for what happened off chain.
- Theorem `NodeSource.ends_reportWithPrices`: the report of a node is made of both, and theorem
  `NodeSource.pairwise_of_ends`: it is in the order of time.
- Theorem `NodeSource.valuedBy_of_ends`: every entry of a report has the price of its time.
-/

namespace NodeLedger

open List NodeLedger.Action

/-! ## What is listed and selected -/

namespace OnChainSource

variable {source : OnChainSource} {unconfirmedAsNow : Bool} {period : Period}
  {context : EntryContext} {s t : Session}

/-- What is selected: the transactions of the period, without their fees, and the keys of the
sweeps. -/
theorem ends_selection {selection : Selection}
    (h : Ends (source.selection unconfirmedAsNow period) s selection t) :
    ∃ listed s₁ swept s₂ keys line,
      Ends source.transactions s listed s₁ ∧ Ends source.sweeps s₁ swept s₂ ∧
      swept.mapM Value.key = .ok keys ∧ selection.sweeps = keys.eraseDups ∧
      Transaction.select period (if unconfirmedAsNow then some s₂.now else none) keys.eraseDups
        listed = .ok selection.kept ∧
      t = s₂.write line := by
  unfold OnChainSource.selection at h
  simp only [ends_bind, ends_mapM_lift, ends_lift, ends_now, ends_log, ends_pure] at h
  obtain ⟨listed, s₁, hlisted, swept, s₂, hswept, keys, _, ⟨hkeys, rfl⟩, _, _, ⟨rfl, rfl⟩, kept, _,
    ⟨hkept, rfl⟩, _, _, rfl, rfl, rfl⟩ := h
  exact ⟨listed, s₁, swept, _, keys, _, hlisted, hswept, hkeys, rfl, hkept, rfl⟩

/-- A context in which fees can be looked up differs from the one given in nothing else. -/
theorem ends_withFees {fees : EntryContext} (h : Ends (source.withFees context) s fees t) :
    fees.priceAt = context.priceAt ∧ fees.categories = context.categories := by
  unfold withFees at h
  cases hfeeOf : context.feeOf with
  | some feeOf =>
    simp only [hfeeOf, ends_pure] at h
    rw [h.1]
    exact ⟨rfl, rfl⟩
  | none =>
    simp only [hfeeOf, ends_bind, ends_pure] at h
    obtain ⟨feeOf, _, -, rfl, -⟩ := h
    exact ⟨rfl, rfl⟩

/-- The fees that can be looked up are those of the context given, or else those that the source
knows. -/
theorem feeOf_of_withFees {fees : EntryContext} (h : Ends (source.withFees context) s fees t)
    {feeOf : Value → Action Int} (hfeeOf : fees.feeOf = some feeOf) :
    context.feeOf = some feeOf ∨ Ends source.feeLookup s (some feeOf) t := by
  unfold withFees at h
  cases hgiven : context.feeOf with
  | some given =>
    simp only [hgiven, ends_pure] at h
    rw [h.1, hgiven] at hfeeOf
    exact .inl hfeeOf
  | none =>
    simp only [hgiven, ends_bind, ends_pure] at h
    obtain ⟨looked, _, hlooked, rfl, rfl⟩ := h
    rw [← hfeeOf]
    exact .inr hlooked

/-- A report is empty if nothing is selected.  Else the selected transactions are matched one by one
against the channels, and the blocks are put one behind the other. -/
theorem ends_report {entries : List Entry}
    (h : Ends (source.report unconfirmedAsNow period context) s entries t) :
    ∃ selection s₁, Ends (source.selection unconfirmedAsNow period) s selection s₁ ∧
      (selection.kept = [] ∧ entries = [] ∧ t = s₁ ∨
        ∃ history s₂ line fees s₃ blocks, Ends (source.history selection.sweeps) s₁ history s₂ ∧
          Ends (source.withFees context) (s₂.write line) fees s₃ ∧
          Ends (selection.kept.mapM (history.entries fees)) s₃ blocks t ∧
          entries = blocks.flatten) := by
  unfold report at h
  obtain ⟨selection, s₁, hselection, h⟩ := ends_bind.mp h
  refine ⟨selection, s₁, hselection, ?_⟩
  cases hkept : selection.kept with
  | nil =>
    simp only [hkept, List.isEmpty_nil, if_pos, ends_pure] at h
    exact .inl ⟨rfl, h⟩
  | cons tx rest =>
    simp only [hkept, List.isEmpty_cons, Bool.false_eq_true, if_false, ends_bind, ends_log,
      ends_pure] at h
    obtain ⟨history, s₂, hhistory, _, _, rfl, fees, s₃, hfees, blocks, _, hblocks, rfl, rfl⟩ := h
    exact .inr ⟨history, s₂, _, fees, s₃, blocks, hhistory, hfees, hblocks, rfl⟩

end OnChainSource

/-! ## Blocks on chain -/

/-- A block is made of the entries that the drafts of a transaction become, by what the transaction
does. -/
def ChannelHistory.Yields (history : ChannelHistory) (context : EntryContext)
    (tx : Transaction) (block : List Entry) : Prop :=
  ∃ role closingFee made, history.roleOf tx.txid = .ok role ∧
    role.LooksUp context.feeOf closingFee ∧ role.drafts context tx closingFee = .ok made ∧
    Forall₂ (Draft.Becomes context.priceAt) made block

namespace ChannelHistory

variable {history : ChannelHistory} {context : EntryContext} {tx : Transaction}
  {block : List Entry}

theorem yields_of_ends {s t : Session} (h : Ends (history.entries context tx) s block t) :
    history.Yields context tx block := by
  unfold ChannelHistory.entries at h
  simp only [ends_bind, ends_lift] at h
  obtain ⟨role, _, ⟨hrole, rfl⟩, h⟩ := h
  obtain ⟨closingFee, made, hfee, hmade, hbecome⟩ := TransactionRole.becomes_of_ends h
  exact ⟨role, closingFee, made, hrole, hfee, hmade, hbecome⟩

/-- All entries of a block have the time of its transaction. -/
theorem Yields.timestamp_eq (h : history.Yields context tx block) :
    ∀ entry ∈ block, entry.timestamp = tx.timestamp := by
  obtain ⟨role, closingFee, made, -, -, hmade, hbecome⟩ := h
  exact (TransactionRole.drafts_ofEvent hmade).timestamp_of_becomes hbecome

end ChannelHistory

/-- What a report matches its transactions against: the channels, and a context in which fees can be
looked up if the source knows them. -/
def OnChainSource.MatchesBy (source : OnChainSource) (context : EntryContext) (sweeps : List Key)
    (s : Session) (history : ChannelHistory) (fees : EntryContext) : Prop :=
  ∃ s₁ line s₂, Ends (source.history sweeps) s history s₁ ∧
    Ends (source.withFees context) (s₁.write line) fees s₂

/-- A report on chain has one block for each transaction selected. -/
theorem OnChainSource.blocks_of_ends_report {source : OnChainSource} {unconfirmedAsNow : Bool}
    {period : Period} {context : EntryContext} {s t : Session} {entries : List Entry}
    (h : Ends (source.report unconfirmedAsNow period context) s entries t) :
    ∃ selection s₁ blocks, Ends (source.selection unconfirmedAsNow period) s selection s₁ ∧
      entries = blocks.flatten ∧
      Forall₂ (fun tx block => ∃ history fees,
          source.MatchesBy context selection.sweeps s₁ history fees ∧
          history.Yields fees tx block)
        selection.kept blocks := by
  obtain ⟨selection, s₁, hselection, ⟨hkept, rfl, -⟩ | hblocks⟩ := ends_report h
  · exact ⟨selection, s₁, [], hselection, rfl, by rw [hkept]; exact .nil⟩
  · obtain ⟨history, s₂, line, fees, s₃, blocks, hhistory, hfees, hblocks, rfl⟩ := hblocks
    refine ⟨selection, s₁, blocks, hselection, rfl, hblocks.mapM.imp ?_⟩
    rintro tx block ⟨_, _, hblock⟩
    exact ⟨history, fees, ⟨s₂, line, s₃, hhistory, hfees⟩, ChannelHistory.yields_of_ends hblock⟩

/-! ## Off chain -/

/-- A report off chain: what is listed, which payments are circular, and the blocks of the invoices,
payments and forwards of the period. -/
theorem OffChainSource.ends_report {source : OffChainSource} {period : Period}
    {context : EntryContext} {s t : Session} {entries : List Entry}
    (h : Ends (source.report period context) s entries t) :
    ∃ invoices s₁ line₁ payments s₂ resolved s₃ own s₄ circular s₅ line₂ forwards s₆ line₃ blocks,
      Ends source.invoices s invoices s₁ ∧
      Ends source.payments (s₁.write line₁) payments s₂ ∧
      Ends (payments.mapM (ResolvedPayment.resolve source.decode)) s₂ resolved s₃ ∧
      Ends source.ownPubkey s₃ own s₄ ∧
      Ends (ResolvedPayment.circular own resolved) s₄ circular s₅ ∧
      ResolvedPayment.checkDistinct (ResolvedPayment.select period resolved) = .ok () ∧
      Ends (source.forwards period) (s₅.write line₂) forwards s₆ ∧
      Ends ((offChainDrafts context circular (Invoice.select period invoices)
        (ResolvedPayment.select period resolved) forwards).mapM (Draft.valueAll context))
        (s₆.write line₃) blocks t ∧
      entries = blocks.flatten := by
  unfold report at h
  simp only [ends_bind, ends_lift, ends_log, ends_pure] at h
  obtain ⟨invoices, s₁, hinvoices, _, _, rfl, payments, s₂, hpayments, resolved, s₃, hresolved, own,
    s₄, hown, circular, s₅, hcircular, _, _, ⟨hdistinct, rfl⟩, _, _, rfl, forwards, s₆, hforwards,
    _, _, rfl, blocks, _, hblocks, rfl, rfl⟩ := h
  exact ⟨invoices, s₁, _, payments, s₂, resolved, s₃, own, s₄, circular, _, _, forwards, s₆, _,
    blocks, hinvoices, hpayments, hresolved, hown, hcircular, hdistinct, hforwards, hblocks, rfl⟩

/-! ## The report of a node -/

/-- Entries are sorted by putting them in order one by one. -/
theorem Entry.sort_eq_foldr :
    Entry.sort = fun entries => entries.foldr (Order.insertInOrder Entry.timestamp) [] := by
  funext entries
  exact Order.mergeSort_eq_foldr Entry.timestamp entries

/-- The report of a node: its entries on chain and those off chain, in the order of time. -/
theorem NodeSource.ends_reportWithPrices {source : NodeSource} {request : ReportRequest}
    {priceAt : Int → Except Failure Price} {s t : Session} {entries : List Entry}
    (h : Ends (source.reportWithPrices request priceAt) s entries t) :
    ∃ onChain s₁ offChain s₂,
      Ends (source.onChain.report request.unconfirmedAsNow request.period
        { priceAt, categories := request.categories.filter (·.onChain) }) s onChain s₁ ∧
      Ends (source.offChain.report request.period
        { priceAt, categories := request.categories.filter (·.offChain) }) s₁ offChain s₂ ∧
      entries = Entry.sort (onChain ++ offChain) := by
  unfold reportWithPrices at h
  simp only [Category.split, ends_bind, ends_log, ends_pure] at h
  obtain ⟨onChain, s₁, honChain, offChain, s₂, hoffChain, _, _, rfl, rfl, rfl⟩ := h
  exact ⟨onChain, s₁, offChain, s₂, honChain, hoffChain, rfl⟩

/-- The entries of a report are in the order of their times. -/
theorem NodeSource.pairwise_of_ends {source : NodeSource} {request : ReportRequest}
    {priceAt : Int → Except Failure Price} {s t : Session} {entries : List Entry}
    (h : Ends (source.reportWithPrices request priceAt) s entries t) :
    entries.Pairwise fun a b => a.timestamp ≤ b.timestamp := by
  obtain ⟨onChain, _, offChain, _, -, -, rfl⟩ := ends_reportWithPrices h
  exact Order.pairwise_mergeSort Entry.timestamp (onChain ++ offChain)

/-! ## Valued entries -/

/-- What drafts become has the prices of the times. -/
theorem Entry.valuedBy_of_forall₂ {priceAt : Int → Except Failure Price} {drafts : List Draft}
    {entries : List Entry} (h : Forall₂ (Draft.Becomes priceAt) drafts entries) :
    ∀ entry ∈ entries, entry.ValuedBy priceAt := by
  intro entry hentry
  obtain ⟨draft, -, hbecomes⟩ := exists_of_mem_right h hentry
  exact hbecomes.valuedBy

/-- The entries of a report on chain have the prices of their times. -/
theorem OnChainSource.valuedBy_of_ends {source : OnChainSource} {unconfirmedAsNow : Bool}
    {period : Period} {context : EntryContext} {s t : Session} {entries : List Entry}
    (h : Ends (source.report unconfirmedAsNow period context) s entries t) :
    ∀ entry ∈ entries, entry.ValuedBy context.priceAt := by
  obtain ⟨selection, s₁, blocks, -, rfl, hblocks⟩ := blocks_of_ends_report h
  intro entry hentry
  obtain ⟨block, hblock, hentry⟩ := List.mem_flatten.mp hentry
  obtain ⟨tx, -, history, fees, ⟨_, _, _, -, hfees⟩, hyields⟩ := exists_of_mem_right hblocks hblock
  obtain ⟨role, closingFee, made, -, -, -, hbecome⟩ := hyields
  rw [← (ends_withFees hfees).1]
  exact Entry.valuedBy_of_forall₂ hbecome entry hentry

/-- The entries of a report off chain have the prices of their times. -/
theorem OffChainSource.valuedBy_of_ends {source : OffChainSource} {period : Period}
    {context : EntryContext} {s t : Session} {entries : List Entry}
    (h : Ends (source.report period context) s entries t) :
    ∀ entry ∈ entries, entry.ValuedBy context.priceAt := by
  obtain ⟨_, _, _, _, _, _, _, _, _, _, _, _, _, _, _, blocks, -, -, -, -, -, -, -, hblocks, rfl⟩ :=
    ends_report h
  intro entry hentry
  obtain ⟨block, hblock, hentry⟩ := List.mem_flatten.mp hentry
  obtain ⟨drafts, -, _, _, hvalue⟩ := exists_of_mem_right hblocks.mapM hblock
  obtain ⟨made, -, hbecome⟩ := Draft.ends_valueAll hvalue
  exact Entry.valuedBy_of_forall₂ hbecome entry hentry

/-- The entries of the report of a node have the prices of their times. -/
theorem NodeSource.valuedBy_of_ends {source : NodeSource} {request : ReportRequest}
    {priceAt : Int → Except Failure Price} {s t : Session} {entries : List Entry}
    (h : Ends (source.reportWithPrices request priceAt) s entries t) :
    ∀ entry ∈ entries, entry.ValuedBy priceAt := by
  obtain ⟨onChain, s₁, offChain, s₂, honChain, hoffChain, rfl⟩ := ends_reportWithPrices h
  intro entry hentry
  rcases List.mem_append.mp (List.mem_mergeSort.mp hentry) with hentry | hentry
  · exact OnChainSource.valuedBy_of_ends honChain entry hentry
  · exact OffChainSource.valuedBy_of_ends hoffChain entry hentry

end NodeLedger
