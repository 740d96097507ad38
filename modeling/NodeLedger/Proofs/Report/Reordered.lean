import NodeLedger.Proofs.Order.StableSort
import NodeLedger.Proofs.Record.Reordered
import NodeLedger.Proofs.Report.Block
import NodeLedger.Proofs.Report.Circular
import NodeLedger.Proofs.Report.Conservation
import NodeLedger.Proofs.Report.History
import NodeLedger.Proofs.Report.Steady

/-!
# Reports of records in another order

The order in which a node lists its records does not matter.  If it lists the same records in two
orders, there are reports of both or of neither, and two reports have the same entries; only entries
of one time may change places.

What a record contributes depends on other records in three places: channels are found by their
transactions, circular payments among all payments, and no two payments of a period may have one
hash.  None of these depends on the order of the records, neither in its result nor in whether it
fails.

Main results:

- Structures `NodeListing` and `NodeListing.Reorders`: the records of a node, and the same records
  in another order.
- Theorem `ChannelHistory.FindsSame.roleOf_eq`: what a transaction does depends only on what is
  found.
- Theorem `offChainDrafts_perm`: the entries of what happened off chain.
- Theorem `NodeListing.Reorders.report`: a report in one order gives one in the other.
- Theorem `NodeListing.report_of_reorders`: both reports fail, or neither, and their entries are the
  same.
-/

namespace NodeLedger

open List NodeLedger.Action

variable {w : Situation}

/-! ## Channels -/

/-- A channel is found among the same channels in any order; several are refused. -/
theorem TxidIndex.lookup_congr {α : Type} {index index' : TxidIndex α}
    (h : ∀ key, index.channels key ~ index'.channels key) (txid : Value) :
    index.lookup txid = index'.lookup txid := by
  cases hkey : txid.key with
  | error failure =>
    unfold lookup
    rw [hkey]
    rfl
  | ok key =>
    have hperm := h key
    rw [lookup_eq index hkey, lookup_eq index' hkey]
    rcases hfound : index.channels key with _ | ⟨channel, _ | ⟨other, rest⟩⟩
    · rw [hfound] at hperm
      rw [nil_perm.mp hperm]
    · rw [hfound] at hperm
      rw [singleton_perm.mp hperm]
    · rw [hfound] at hperm
      -- There are as many on the other side.
      rcases hfound' : index'.channels key with _ | ⟨channel', _ | ⟨other', rest'⟩⟩
      · rw [hfound'] at hperm
        simpa using hperm.length_eq
      · rw [hfound'] at hperm
        simpa using hperm.length_eq
      · rfl

namespace ChannelHistory

variable {history history' : ChannelHistory}

/-- The same channels and sweeps are found, in whatever order. -/
structure FindsSame (history history' : ChannelHistory) : Prop where
  current : ∀ key, history.current.channels key ~ history'.current.channels key
  opened : ∀ key, history.opened.channels key ~ history'.opened.channels key
  closed : ∀ key, history.closed.channels key ~ history'.closed.channels key
  sweeps : ∀ key, key ∈ history.sweeps ↔ key ∈ history'.sweeps

/-- What a transaction does depends only on what is found. -/
theorem FindsSame.roleOf_eq (h : history.FindsSame history') (txid : Value) :
    history.roleOf txid = history'.roleOf txid := by
  unfold roleOf
  simp only [TxidIndex.lookup_congr h.current, TxidIndex.lookup_congr h.opened,
    TxidIndex.lookup_congr h.closed, h.sweeps]

theorem FindsSame.entries_eq (h : history.FindsSame history') (context : EntryContext) :
    history.entries context = history'.entries context := by
  funext tx
  unfold entries
  rw [h.roleOf_eq]

/-- An open channel is added if the transaction that funds it can be told. -/
theorem exists_addOpen_iff (channel : OpenChannel) :
    (∃ after, history.addOpen channel = .ok after) ↔ ∃ key, channel.fundingKey = .ok key := by
  constructor
  · rintro ⟨after, h⟩
    obtain ⟨key, hkey, -⟩ := addOpen_eq_ok h
    exact ⟨key, hkey⟩
  · rintro ⟨key, hkey⟩
    obtain ⟨txid, htxid, -⟩ := bind_eq_ok_iff.mp hkey
    exact ⟨_, bind_eq_ok_iff.mpr ⟨txid, htxid, rfl⟩⟩

/-- A closed channel is added if the transactions that funded and closed it can be told. -/
theorem exists_addClosed_iff (channel : ClosedChannel) :
    (∃ after, history.addClosed channel = .ok after) ↔
      (∃ key, channel.fundingKey = .ok key) ∧ ∃ key, channel.closingTxid.key = .ok key := by
  constructor
  · rintro ⟨after, h⟩
    obtain ⟨opening, closing, hopening, hclosing, -⟩ := addClosed_eq_ok h
    exact ⟨⟨opening, hopening⟩, closing, hclosing⟩
  · rintro ⟨⟨opening, hopening⟩, closing, hclosing⟩
    obtain ⟨txid, htxid, -⟩ := bind_eq_ok_iff.mp hopening
    have hclosed : history.closed.add channel.closingTxid channel =
        .ok (history.closed.put closing channel) := bind_eq_ok_iff.mpr ⟨closing, hclosing, rfl⟩
    refine ⟨{ history with
      opened := history.opened.put (.text txid) channel
      closed := history.closed.put closing channel }, ?_⟩
    unfold addClosed
    rw [htxid, hclosed]
    rfl

end ChannelHistory

/-! ## Off chain -/

/-- The entries of records in another order. -/
theorem offChainDrafts_perm {context : EntryContext} {circular circular' : Table Key Value}
    (hcircular : ∀ hash, isCircular circular' hash = isCircular circular hash)
    {invoices invoices' : List Invoice} (hinvoices : invoices ~ invoices')
    {payments payments' : List ResolvedPayment} (hpayments : payments ~ payments')
    {forwards forwards' : List Forward} (hforwards : forwards ~ forwards') :
    offChainDrafts context circular invoices payments forwards ~
      offChainDrafts context circular' invoices' payments' forwards' := by
  have hreceived : Invoice.reportDrafts context circular' =
      Invoice.reportDrafts context circular := by
    funext invoice
    unfold Invoice.reportDrafts
    rw [hcircular]
  have hpaid : ResolvedPayment.reportDrafts context circular' =
      ResolvedPayment.reportDrafts context circular := by
    funext resolved
    unfold ResolvedPayment.reportDrafts
    rw [hcircular]
  unfold offChainDrafts
  rw [hreceived, hpaid]
  exact ((hinvoices.map _).append (hpayments.map _)).append (hforwards.map _)

/-! ## Listings -/

/-- The records of a node in the order in which it lists them, and what can be looked up besides. -/
structure NodeListing where
  transactions : List Transaction := []
  sweeps : List Value := []
  openChannels : List OpenChannel := []
  closedChannels : List ClosedChannel := []
  invoices : List Invoice := []
  payments : List Payment := []
  /-- The forwards of a period. -/
  forwards : Period → List Forward := fun _ => []
  ownPubkey : Except Failure Value
  /-- The fee of a transaction in satoshis, if fees can be looked up. -/
  feeOf : Option (Value → Except Failure Int) := none
  decode : Value → Except Failure PaymentRequest

namespace NodeListing

/-- The source of the records on chain. -/
def onChain (listing : NodeListing) : OnChainSource where
  transactions := return listing.transactions
  sweeps := return listing.sweeps
  openChannels := return listing.openChannels
  closedChannels := return listing.closedChannels
  feeLookup := return listing.feeOf.map fun feeOf txid => liftM (feeOf txid)

/-- The source of the records off chain. -/
def offChain (listing : NodeListing) : OffChainSource where
  ownPubkey := liftM listing.ownPubkey
  invoices := return listing.invoices
  payments := return listing.payments
  forwards := fun period => return listing.forwards period
  decode := fun request => liftM (listing.decode request)

/-- The source of all records. -/
def source (listing : NodeListing) : NodeSource :=
  ⟨listing.onChain, listing.offChain⟩

/-- The same records are listed in another order. -/
structure Reorders (a b : NodeListing) : Prop where
  transactions : a.transactions ~ b.transactions
  sweeps : a.sweeps ~ b.sweeps
  openChannels : a.openChannels ~ b.openChannels
  closedChannels : a.closedChannels ~ b.closedChannels
  invoices : a.invoices ~ b.invoices
  payments : a.payments ~ b.payments
  forwards : ∀ period, a.forwards period ~ b.forwards period
  ownPubkey : a.ownPubkey = b.ownPubkey
  feeOf : a.feeOf = b.feeOf
  decode : a.decode = b.decode

variable {a b : NodeListing} {period : Period} {s t : Session}

theorem Reorders.symm (h : a.Reorders b) : b.Reorders a where
  transactions := h.transactions.symm
  sweeps := h.sweeps.symm
  openChannels := h.openChannels.symm
  closedChannels := h.closedChannels.symm
  invoices := h.invoices.symm
  payments := h.payments.symm
  forwards := fun period => (h.forwards period).symm
  ownPubkey := h.ownPubkey.symm
  feeOf := h.feeOf.symm
  decode := h.decode.symm

theorem steadyIn_onChain (listing : NodeListing) : listing.onChain.SteadyIn w where
  transactions := steady_pure _
  sweeps := steady_pure _
  openChannels := steady_pure _
  closedChannels := steady_pure _
  feeLookup := steady_pure _
  feeOf := fun _ => steady_of_always_map fun _ _ => steady_lift _

/-! ## The report on chain -/

/-- The same transactions are selected. -/
theorem Reorders.selection (h : a.Reorders b) {unconfirmedAsNow : Bool}
    {selection : OnChainSource.Selection} (hs : w.holds s)
    (hends : Ends (a.onChain.selection unconfirmedAsNow period) s selection t) :
    w.holds t ∧ ∃ other, Always w (b.onChain.selection unconfirmedAsNow period) other ∧
      selection.kept ~ other.kept ∧ ∀ key, key ∈ selection.sweeps ↔ key ∈ other.sweeps := by
  obtain ⟨listed, s₁, swept, s₂, keys, line, hlisted, hswept, hkeys, hsweeps, hselect, rfl⟩ :=
    OnChainSource.ends_selection hends
  obtain ⟨rfl, rfl⟩ := ends_pure.mp hlisted
  obtain ⟨rfl, rfl⟩ := ends_pure.mp hswept
  obtain ⟨keys', hkeys', hkeysPerm⟩ := mapM_eq_ok_of_perm hkeys h.sweeps
  have hsame : ∀ key, key ∈ keys.eraseDups ↔ key ∈ keys'.eraseDups := by
    intro key
    rw [List.mem_eraseDups, List.mem_eraseDups, hkeysPerm.mem_iff]
  obtain ⟨kept', hselect', hkept⟩ :=
    Transaction.select_of_perm hselect h.transactions hsame
  refine ⟨w.holds_write _ line hs, ⟨keys'.eraseDups, kept'⟩, ?_, hkept, ?_⟩
  · have hkeysAlways : Always w (b.sweeps.mapM fun txid => (liftM txid.key : Action Key)) keys' :=
      fun s hs => ⟨s, ends_mapM_lift.mpr ⟨hkeys', rfl⟩, hs⟩
    rw [w.now_eq _ hs] at hselect'
    unfold OnChainSource.selection
    refine (always_pure b.transactions).bind ((always_pure b.sweeps).bind ?_)
    refine hkeysAlways.bind (always_now.bind ((always_lift hselect').bind ?_))
    exact (always_log _ _).bind (always_pure _)
  · rw [hsweeps]
    exact hsame

/-- What is found in the channels of a listing: under a transaction there are the channels that it
funds, and those that it closed. -/
theorem channels_of_ends {listing : NodeListing} {sweeps : List Key} {history : ChannelHistory}
    (h : Ends (listing.onChain.history sweeps) s history t) :
    history.sweeps = sweeps ∧
      ∀ key, history.current.channels key = listing.openChannels.filter (·.isFundedBy key) ∧
        history.opened.channels key = listing.closedChannels.filter (·.isFundedBy key) ∧
        history.closed.channels key = listing.closedChannels.filter (·.isClosedBy key) := by
  obtain ⟨opens, s₁, closeds, hopens, hcloseds, hsweeps, hchannels⟩ :=
    OnChainSource.ends_history h
  obtain ⟨rfl, rfl⟩ := ends_pure.mp hopens
  obtain ⟨rfl, -⟩ := ends_pure.mp hcloseds
  exact ⟨hsweeps, hchannels⟩

/-- The channels of a listing in another order can be gathered too. -/
theorem Reorders.exists_always_history (h : a.Reorders b) {sweeps : List Key}
    {history : ChannelHistory} (hends : Ends (a.onChain.history sweeps) s history t)
    (sweeps' : List Key) : ∃ other, Always w (b.onChain.history sweeps') other := by
  unfold OnChainSource.history at hends
  simp only [ends_bind, ends_foldlM_lift] at hends
  obtain ⟨opens, _, hopens, current, _, ⟨hcurrent, rfl⟩, closeds, _, hcloseds, hclosed, -⟩ := hends
  obtain ⟨rfl, rfl⟩ := ends_pure.mp hopens
  obtain ⟨rfl, -⟩ := ends_pure.mp hcloseds
  obtain ⟨current', hcurrent'⟩ := exists_foldlM_eq_ok_of_perm
    (fun _ channel => ChannelHistory.exists_addOpen_iff channel) hcurrent h.openChannels
    { sweeps := sweeps' }
  obtain ⟨other, hother⟩ := exists_foldlM_eq_ok_of_perm
    (fun _ channel => ChannelHistory.exists_addClosed_iff channel) hclosed h.closedChannels current'
  refine ⟨other, ?_⟩
  intro s hs
  refine ⟨s, ?_, hs⟩
  unfold OnChainSource.history
  simp only [ends_bind, ends_foldlM_lift]
  exact ⟨b.openChannels, s, ends_pure.mpr ⟨rfl, rfl⟩, current', s, ⟨hcurrent', rfl⟩,
    b.closedChannels, s, ends_pure.mpr ⟨rfl, rfl⟩, hother, rfl⟩

/-- The same channels are found. -/
theorem Reorders.history (h : a.Reorders b) {sweeps sweeps' : List Key}
    (hsweeps : ∀ key, key ∈ sweeps ↔ key ∈ sweeps') {history : ChannelHistory} (hs : w.holds s)
    (hends : Ends (a.onChain.history sweeps) s history t) :
    ∃ other, Always w (b.onChain.history sweeps') other ∧ history.FindsSame other := by
  obtain ⟨other, hother⟩ := h.exists_always_history (w := w) hends sweeps'
  obtain ⟨_, hends', -⟩ := hother s hs
  obtain ⟨hsame, hchannels⟩ := channels_of_ends hends
  obtain ⟨hsame', hchannels'⟩ := channels_of_ends hends'
  refine ⟨other, hother, ?_, ?_, ?_, ?_⟩
  · intro key
    rw [(hchannels key).1, (hchannels' key).1]
    exact h.openChannels.filter _
  · intro key
    rw [(hchannels key).2.1, (hchannels' key).2.1]
    exact h.closedChannels.filter _
  · intro key
    rw [(hchannels key).2.2, (hchannels' key).2.2]
    exact h.closedChannels.filter _
  · rw [hsame, hsame']
    exact hsweeps

/-- Fees are looked up in the same way. -/
theorem Reorders.withFees_eq (h : a.Reorders b) (context : EntryContext) :
    a.onChain.withFees context = b.onChain.withFees context := by
  unfold OnChainSource.withFees NodeListing.onChain
  rw [h.feeOf]

/-- A report on chain in one order gives one in the other. -/
theorem Reorders.onChain_report (h : a.Reorders b) {unconfirmedAsNow : Bool}
    {context : EntryContext} (hcontext : context.SteadyIn w) {entries : List Entry} (hs : w.holds s)
    (hends : Ends (a.onChain.report unconfirmedAsNow period context) s entries t) :
    w.holds t ∧ ∃ entries', Always w (b.onChain.report unconfirmedAsNow period context) entries' ∧
      entries ~ entries' := by
  obtain ⟨selection, s₁, hselection, hrest⟩ := OnChainSource.ends_report hends
  obtain ⟨hs₁, other, hother, hkept, hsweeps⟩ := h.selection hs hselection
  have hempty := hkept.isEmpty_eq
  obtain ⟨hnone, rfl, rfl⟩ | ⟨history, s₂, line, fees, s₃, blocks, hhistory, hfees, hblocks, rfl⟩ :=
    hrest
  · refine ⟨hs₁, [], ?_, .nil⟩
    unfold OnChainSource.report
    refine hother.bind ?_
    dsimp only
    rw [← hempty, hnone]
    exact always_pure []
  · have hsource : a.onChain.SteadyIn w := a.steadyIn_onChain
    have hs₂ := w.holds_write s₂ line ((hsource.history selection.sweeps).holds hs₁ hhistory)
    have hs₃ := (hsource.withFees context).holds hs₂ hfees
    have hsteady := ChannelHistory.steady_entries
      (hsource.steadyIn_of_withFees hcontext hs₂ hfees) history
    refine ⟨(Steady.mapM hsteady selection.kept).holds hs₃ hblocks, ?_⟩
    obtain ⟨history', hhistory', hfinds⟩ := h.history hsweeps hs₁ hhistory
    obtain ⟨blocks', hblocks', hperm⟩ := Steady.exists_always_mapM_of_perm hsteady hs₃ hblocks hkept
    have hfeesAlways := hsource.withFees context _ _ _ hs₂ hfees
    rw [h.withFees_eq] at hfeesAlways
    rw [hfinds.entries_eq] at hblocks'
    refine ⟨blocks'.flatten, ?_, hperm.flatten⟩
    unfold OnChainSource.report
    refine hother.bind ?_
    dsimp only
    split
    · -- Nothing is selected, so that there are no blocks.
      next hnone =>
      rw [List.isEmpty_iff.mp hnone, List.mapM_nil] at hblocks'
      obtain ⟨rfl, -⟩ := hblocks'.eq_of_ends hs (ends_pure.mpr ⟨rfl, rfl⟩)
      exact always_pure []
    · refine hhistory'.bind ((always_log _ _).bind (hfeesAlways.bind ?_))
      exact hblocks'.bind (always_pure _)

/-! ## The report off chain -/

/-- A report off chain in one order gives one in the other. -/
theorem Reorders.offChain_report (h : a.Reorders b) {context : EntryContext} {entries : List Entry}
    (hs : w.holds s) (hends : Ends (a.offChain.report period context) s entries t) :
    ∃ entries', Always w (b.offChain.report period context) entries' ∧ entries ~ entries' := by
  obtain ⟨invoices, s₁, line₁, payments, s₂, resolved, s₃, own, s₄, circular, s₅, line₂, forwards,
    s₆, line₃, blocks, hinvoices, hpayments, hresolved, hown, hcircular, hdistinct, hforwards,
    hblocks, rfl⟩ := OffChainSource.ends_report hends
  obtain ⟨rfl, rfl⟩ := ends_pure.mp hinvoices
  obtain ⟨rfl, rfl⟩ := ends_pure.mp hpayments
  obtain ⟨hknown, rfl⟩ := ends_lift.mp hown
  obtain ⟨rfl, rfl⟩ := ends_pure.mp hforwards
  have hs₂ := w.holds_write _ line₁ hs
  have hresolve : ∀ payment, Steady w (ResolvedPayment.resolve a.offChain.decode payment) :=
    ResolvedPayment.steady_resolve fun _ => steady_lift _
  have hs₃ := (Steady.mapM hresolve a.payments).holds hs₂ hresolved
  have hs₅ := (ResolvedPayment.steady_circular own resolved).holds hs₃ hcircular
  have hs₆ := w.holds_write _ line₃ (w.holds_write _ line₂ hs₅)
  obtain ⟨resolved', hresolved', hresolvedPerm⟩ :=
    Steady.exists_always_mapM_of_perm hresolve hs₂ hresolved h.payments
  obtain ⟨circular', hcircular', hsame⟩ :=
    ResolvedPayment.circular_of_perm hs₃ hcircular hresolvedPerm
  have hsettled : Invoice.select period a.invoices ~ Invoice.select period b.invoices :=
    h.invoices.filter _
  have hpaid : ResolvedPayment.select period resolved ~ ResolvedPayment.select period resolved' :=
    hresolvedPerm.filter _
  obtain ⟨blocks', hblocks', hperm⟩ :=
    Steady.exists_always_mapM_of_perm (Draft.steady_valueAll context) hs₆ hblocks
      (offChainDrafts_perm hsame hsettled hpaid (h.forwards period))
  have hdecode : a.offChain.decode = b.offChain.decode := by
    unfold NodeListing.offChain
    rw [h.decode]
  rw [hdecode] at hresolved'
  rw [h.ownPubkey] at hknown
  refine ⟨blocks'.flatten, ?_, hperm.flatten⟩
  unfold OffChainSource.report
  refine (always_pure b.invoices).bind ((always_log _ _).bind ?_)
  refine (always_pure b.payments).bind (hresolved'.bind ?_)
  refine (always_lift hknown).bind (hcircular'.bind ?_)
  refine (always_lift (ResolvedPayment.checkDistinct_of_perm hdistinct hpaid)).bind ?_
  refine (always_log _ _).bind ((always_pure (b.forwards period)).bind ((always_log _ _).bind ?_))
  exact hblocks'.bind (always_pure _)

/-! ## The report of a node -/

variable {request : ReportRequest} {priceAt : Int → Except Failure Price}

/-- A report in one order gives one in the other. -/
theorem Reorders.report (h : a.Reorders b) {entries : List Entry} (hs : w.holds s)
    (hends : Ends (a.source.reportWithPrices request priceAt) s entries t) :
    ∃ entries', Always w (b.source.reportWithPrices request priceAt) entries' ∧
      entries ~ entries' := by
  obtain ⟨onChain, s₁, offChain, s₂, honChain, hoffChain, rfl⟩ :=
    NodeSource.ends_reportWithPrices hends
  have hnoFees : EntryContext.SteadyIn w
      { priceAt, categories := request.categories.filter (·.onChain) } := by
    intro feeOf hfeeOf
    cases hfeeOf
  obtain ⟨hs₁, onChain', honChain', honChainPerm⟩ := h.onChain_report hnoFees hs honChain
  obtain ⟨offChain', hoffChain', hoffChainPerm⟩ := h.offChain_report hs₁ hoffChain
  refine ⟨Entry.sort (onChain' ++ offChain'), ?_, ?_⟩
  · unfold NodeSource.reportWithPrices
    exact honChain'.bind (hoffChain'.bind ((always_log _ _).bind (always_pure _)))
  · unfold Entry.sort
    refine (List.mergeSort_perm _ _).trans (.trans ?_ (List.mergeSort_perm _ _).symm)
    exact honChainPerm.append hoffChainPerm

/-- The order in which a node lists its records does not matter.  Reports of the same records in two
orders, begun in the same session, either both fail or both end well.  If they end well they have
the same entries, each as often in the one as in the other, and at each place an entry of the same
time. -/
theorem report_of_reorders (h : a.Reorders b) (request : ReportRequest)
    (priceAt : Int → Except Failure Price) (s : Session) :
    (Fails (a.source.reportWithPrices request priceAt) s ↔
      Fails (b.source.reportWithPrices request priceAt) s) ∧
    ∀ entries entries' t t', Ends (a.source.reportWithPrices request priceAt) s entries t →
      Ends (b.source.reportWithPrices request priceAt) s entries' t' →
      entries ~ entries' ∧ entries.map (·.timestamp) = entries'.map (·.timestamp) := by
  have hs : (Situation.atTime s.now).holds s := rfl
  constructor
  · rw [fails_iff, fails_iff, not_iff_not]
    constructor
    · rintro ⟨entries, t, hends⟩
      obtain ⟨entries', halways, -⟩ := h.report hs hends
      obtain ⟨t', hends', -⟩ := halways s hs
      exact ⟨entries', t', hends'⟩
    · rintro ⟨entries, t, hends⟩
      obtain ⟨entries', halways, -⟩ := h.symm.report hs hends
      obtain ⟨t', hends', -⟩ := halways s hs
      exact ⟨entries', t', hends'⟩
  · intro entries entries' t t' hends hends'
    obtain ⟨other, halways, hperm⟩ := h.report hs hends
    obtain ⟨rfl, -⟩ := halways.eq_of_ends hs hends'
    refine ⟨hperm, ?_⟩
    have hsorted := NodeSource.pairwise_of_ends hends
    have hsorted' := NodeSource.pairwise_of_ends hends'
    refine (hperm.map (·.timestamp)).eq_of_pairwise ?_ (List.pairwise_map.mpr hsorted)
      (List.pairwise_map.mpr hsorted')
    intro x y _ _ hxy hyx
    exact le_antisymm hxy hyx

/-! ## A listing and its reversal -/

/-- The records listed backwards. -/
def reversed (listing : NodeListing) : NodeListing :=
  { listing with
    transactions := listing.transactions.reverse
    sweeps := listing.sweeps.reverse
    openChannels := listing.openChannels.reverse
    closedChannels := listing.closedChannels.reverse
    invoices := listing.invoices.reverse
    payments := listing.payments.reverse
    forwards := fun period => (listing.forwards period).reverse }

theorem reorders_reversed (listing : NodeListing) : listing.Reorders listing.reversed where
  transactions := (List.reverse_perm _).symm
  sweeps := (List.reverse_perm _).symm
  openChannels := (List.reverse_perm _).symm
  closedChannels := (List.reverse_perm _).symm
  invoices := (List.reverse_perm _).symm
  payments := (List.reverse_perm _).symm
  forwards := fun _ => (List.reverse_perm _).symm
  ownPubkey := rfl
  feeOf := rfl
  decode := rfl

end NodeListing

/-- The sample wallet of a node that has been paid twice at one time, once by itself after a failed
attempt, and has passed on two payments. -/
def sampleListing : NodeListing where
  transactions := sampleWallet.transactions
  sweeps := [.text "sweep", .text "other"]
  openChannels := [
    { channelPoint := .text (String.ofList (List.replicate 64 'b' ++ [':', '1'])),
      channelId := .text "2x1x1", remotePubkey := .text "peer", capacity := 700,
      openedByUs := false }]
  closedChannels := sampleWallet.closedChannels
  invoices := [
    { paymentHash := .text "circle", preimage := .text "c", memo := .text "", value := .msat 5,
      paid := .msat 5, settleDate := 20, state := .settled },
    { paymentHash := .text "paid", preimage := .text "p", memo := .text "", value := .msat 7,
      paid := .msat 7, settleDate := 20, state := .settled }]
  payments := [
    { paymentHash := .text "circle", preimage := .text "", amount := 5, fee := 1,
      status := .failed, sequenceNumber := 1
      htlcs := [{ status := .failed, hops := [{ pubkey := .text "self" }] }] },
    { paymentHash := .text "circle", preimage := .text "c", amount := 5, fee := 1,
      status := .succeeded, sequenceNumber := 2
      htlcs := [{ status := .succeeded, hops := [{ pubkey := .text "self" }],
                  resolveTime := 19000000000 }] }]
  forwards := fun _ => [
    { timestamp := 20, channelIn := .text "in", channelOut := .text "out",
      amountIn := .msat 11, amountOut := .msat 9, fee := .msat 2 },
    { timestamp := 25, channelIn := .text "in", channelOut := .text "out",
      amountIn := .msat 6, amountOut := .msat 6, fee := .msat 0 }]
  ownPubkey := .ok (.text "self")
  feeOf := some fun _ => .ok 150
  decode := fun request => .error (.value (.undecodable request.display))

/-- The report of the sample listing and that of its reversal: at time 20 the entries of each record
change places with those of others. -/
theorem NodeListing.report_of_reorders_sampleListing :
    let request : ReportRequest := { period := ⟨0, 100⟩ }
    let priceAt : Int → Except Failure Price := fun _ => .ok (Price.nothing none)
    ∃ entries t, Ends (sampleListing.source.reportWithPrices request priceAt) {} entries t ∧
      entries.map (fun entry => (entry.timestamp, entry.signedAmount)) =
        [(10, -5000000), (10, -100000), (19, -5), (19, -1), (20, 4000000), (20, -150000),
          (20, 900000), (20, -20000), (20, 5), (20, 7), (20, 0), (20, 2), (25, 0),
          (30, -700000), (30, -30000)] ∧
      ∃ entries' t',
        Ends (sampleListing.reversed.source.reportWithPrices request priceAt) {} entries' t' ∧
        entries'.map (fun entry => (entry.timestamp, entry.signedAmount)) =
          [(10, -5000000), (10, -100000), (19, -5), (19, -1), (20, 900000), (20, -20000),
            (20, 4000000), (20, -150000), (20, 7), (20, 5), (20, 0), (20, 2), (25, 0),
            (30, -700000), (30, -30000)] ∧
        entries ~ entries' ∧ entries.map (·.timestamp) = entries'.map (·.timestamp) := by
  intro request priceAt
  refine (exists_ends_of_outcome ?_).imp fun entries h => ⟨_, h.1, h.2, ?_⟩
  · unfold NodeSource.reportWithPrices
    rw [Entry.sort_eq_foldr]
    decide +kernel
  · refine (exists_ends_of_outcome ?_).imp fun entries' h' => ⟨_, h'.1, h'.2, ?_⟩
    · unfold NodeSource.reportWithPrices
      rw [Entry.sort_eq_foldr]
      decide +kernel
    · have hsame := report_of_reorders sampleListing.reorders_reversed request priceAt {}
      exact hsame.2 entries entries' _ _ h.1 h'.1

end NodeLedger
