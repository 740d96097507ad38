import NodeLedger.Proofs.Node.Inward
import NodeLedger.Proofs.Order.StableSort
import NodeLedger.Proofs.Report.Block
import NodeLedger.Proofs.Session.Simulation

/-!
# Reports without prices

Prices are added to the entries of a report and have no say in anything else.  So wherever there is
a report with some prices, there is one with a price of zero throughout: it has the same entries,
which differ in nothing but their price and their value, and the values are all zero.

Main results:

- Definition `Entry.AgreesWith`: two entries differ in nothing but price and value.
- Theorem `fiatValue_nothing`: at a price of zero every amount has a value, and that is zero.
- Theorem `NodeSource.AlikeIn.simulates_report`: the report without prices in sessions that are
  alike.
- Theorem `NodeSource.agreesWith_of_ends`: two reports with different prices agree.
-/

namespace NodeLedger

open List NodeLedger.Action

variable {l : Likeness}

/-! ## Entries that agree -/

namespace Entry

/-- Two entries differ in nothing but their price and their value. -/
def AgreesWith (a b : Entry) : Prop :=
  ∃ value price, b = { a with fiatValue := value, price := price }

/-- Entries that agree do so both ways. -/
theorem AgreesWith.symm {a b : Entry} (h : a.AgreesWith b) : b.AgreesWith a := by
  obtain ⟨value, price, rfl⟩ := h
  exact ⟨a.fiatValue, a.price, rfl⟩

/-- What agrees with one of them agrees with the other. -/
theorem AgreesWith.trans {a b c : Entry} (hab : a.AgreesWith b) (hbc : b.AgreesWith c) :
    a.AgreesWith c := by
  obtain ⟨value, price, rfl⟩ := hab
  obtain ⟨value', price', rfl⟩ := hbc
  exact ⟨value', price', rfl⟩

/-- An entry agrees with another one, which has no value. -/
structure Unpriced (a b : Entry) : Prop where
  agrees : a.AgreesWith b
  isZero : b.fiatValue.isZero = true

/-- An entry without its price has the same time. -/
theorem Unpriced.timestamp_eq {a b : Entry} (h : a.Unpriced b) : a.timestamp = b.timestamp := by
  obtain ⟨value, price, rfl⟩ := h.agrees
  rfl

/-- Entries that agree are sorted alike. -/
theorem forall₂_sort {as bs : List Entry} (h : Forall₂ Unpriced as bs) :
    Forall₂ Unpriced (Entry.sort as) (Entry.sort bs) :=
  Order.forall₂_mergeSort Entry.timestamp (fun _ _ => Unpriced.timestamp_eq) h

end Entry

/-! ## Drafts at a price of zero -/

/-- At a price of zero every amount has a value, and that is zero. -/
theorem fiatValue_nothing (config : Option PriceConfig) (msat : Int) :
    ∃ value, fiatValue (Price.nothing config).perBitcoin msat = .ok value ∧
      value.isZero = true := by
  have hdiv : (Price.nothing config).perBitcoin.div Amount.perBitcoin =
      .ok (Decimal.zeroAt false 0) := rfl
  refine ⟨Decimal.zeroAt (false != decide (msat < 0)) 0, ?_, rfl⟩
  unfold fiatValue
  rw [hdiv]
  simp [Decimal.mul, Decimal.zeroAt, Decimal.ofInt, Decimal.rounded, Decimal.minExponent,
    Decimal.maxAdjusted]

/-- A context without prices: the price is zero at any time. -/
def EntryContext.unpriced (context : EntryContext) (config : Option PriceConfig) : EntryContext :=
  { context with priceAt := fun _ => .ok (Price.nothing config) }

namespace Draft

/-- A draft that has become an entry at some price becomes one that agrees at a price of zero. -/
theorem Becomes.exists_unpriced {priceAt : Int → Except Failure Price} {draft : Draft}
    {entry : Entry} (h : draft.Becomes priceAt entry) (config : Option PriceConfig) :
    ∃ entry', draft.entryAt (Price.nothing config) = .ok entry' ∧ entry.Unpriced entry' := by
  obtain ⟨price, value, -, -, rfl⟩ := h
  obtain ⟨zero, hvalue, hzero⟩ := fiatValue_nothing config draft.amount.natAbs
  refine ⟨draft.priced (Price.nothing config) zero, ?_, ⟨zero, Price.nothing config, rfl⟩, hzero⟩
  exact bind_eq_ok_iff.mpr ⟨zero, hvalue, rfl⟩

/-- A draft is valued to the same entry but for the price. -/
theorem simulates_value (context : EntryContext) (config : Option PriceConfig) (draft : Draft) :
    Simulates l Entry.Unpriced (draft.value context) (draft.value (context.unpriced config)) := by
  intro s s' entry t hs h
  obtain ⟨hbecomes, rfl⟩ := ends_value.mp h
  obtain ⟨entry', hentry', hunpriced⟩ := hbecomes.exists_unpriced config
  refine ⟨entry', s'.noteValued draft.timestamp, ?_, hunpriced, l.alike_noteValued s s' _ hs⟩
  unfold value
  simp only [ends_bind, ends_modify, ends_lift]
  exact ⟨(), _, rfl, Price.nothing config, _, ⟨rfl, rfl⟩, hentry', rfl⟩

/-- So are drafts one after the other. -/
theorem simulates_valueAll (context : EntryContext) (config : Option PriceConfig)
    (drafts : Except Failure (List Draft)) :
    Simulates l (Forall₂ Entry.Unpriced) (valueAll context drafts)
      (valueAll (context.unpriced config) drafts) := by
  unfold valueAll
  refine (simulates_check drafts).bind ?_
  rintro made _ rfl
  exact Simulates.mapM (simulates_value context config) made

end Draft

/-! ## Sources that give the same -/

/-- In sessions that are alike the same fees are looked up. -/
def FeesAlike (l : Likeness) (feeOf : Option (Value → Action Int)) : Prop :=
  ∀ lookup, feeOf = some lookup → ∀ txid, Simulates l Eq (lookup txid) (lookup txid)

/-- In sessions that are alike a source on chain gives the same, and so do the fees that can be
looked up. -/
structure OnChainSource.AlikeIn (l : Likeness) (source : OnChainSource) : Prop where
  transactions : Simulates l Eq source.transactions source.transactions
  sweeps : Simulates l Eq source.sweeps source.sweeps
  openChannels : Simulates l Eq source.openChannels source.openChannels
  closedChannels : Simulates l Eq source.closedChannels source.closedChannels
  feeLookup : Simulates l (fun feeOf feeOf' => feeOf = feeOf' ∧ FeesAlike l feeOf)
    source.feeLookup source.feeLookup

/-- In sessions that are alike a source off chain gives the same. -/
structure OffChainSource.AlikeIn (l : Likeness) (source : OffChainSource) : Prop where
  ownPubkey : Simulates l Eq source.ownPubkey source.ownPubkey
  invoices : Simulates l Eq source.invoices source.invoices
  payments : Simulates l Eq source.payments source.payments
  forwards : ∀ period, Simulates l Eq (source.forwards period) (source.forwards period)
  decode : ∀ request, Simulates l Eq (source.decode request) (source.decode request)

/-- In sessions that are alike a node gives the same. -/
structure NodeSource.AlikeIn (l : Likeness) (source : NodeSource) : Prop where
  onChain : source.onChain.AlikeIn l
  offChain : source.offChain.AlikeIn l

/-! ## On chain -/

namespace ClosedChannel

variable {context : EntryContext}

/-- The fee of a closing does not depend on prices. -/
theorem simulates_closingFee (hfees : FeesAlike l context.feeOf) (config : Option PriceConfig)
    (channel : ClosedChannel) :
    Simulates l Eq (channel.closingFee context) (channel.closingFee (context.unpriced config)) := by
  unfold closingFee
  cases channel.openInitiator with
  | us =>
    have hsame : (context.unpriced config).feeOf = context.feeOf := rfl
    rw [hsame]
    cases hfeeOf : context.feeOf with
    | none =>
      refine (simulates_log _ _).bind fun _ _ _ => simulates_pure rfl
    | some feeOf =>
      refine (hfees feeOf hfeeOf _).bind ?_
      rintro fee _ rfl
      exact simulates_pure rfl
  | peer => exact simulates_pure rfl
  | unknown => exact (simulates_log _ _).bind fun _ _ _ => simulates_pure rfl
  | both => exact (simulates_log _ _).bind fun _ _ _ => simulates_pure rfl

theorem simulates_closingEntries (hfees : FeesAlike l context.feeOf) (config : Option PriceConfig)
    (channel : ClosedChannel) (tx : Transaction) :
    Simulates l (Forall₂ Entry.Unpriced) (channel.closingEntries context tx)
      (channel.closingEntries (context.unpriced config) tx) := by
  unfold closingEntries
  refine (simulates_check (context.categoryOf tx.label)).bind ?_
  rintro category _ rfl
  refine (Draft.simulates_value context config _).bind fun closing closing' hclosing => ?_
  refine (simulates_closingFee hfees config channel).bind ?_
  rintro fee _ rfl
  cases fee with
  | none => exact simulates_pure (.cons hclosing .nil)
  | some fee =>
    refine (Draft.simulates_value context config _).bind fun paid paid' hpaid => ?_
    exact simulates_pure (.cons hclosing (.cons hpaid .nil))

end ClosedChannel

/-- Whatever a transaction does, its entries without prices agree with those at some prices. -/
theorem TransactionRole.simulates_entries {context : EntryContext}
    (hfees : FeesAlike l context.feeOf) (config : Option PriceConfig) (tx : Transaction)
    (role : TransactionRole) :
    Simulates l (Forall₂ Entry.Unpriced) (role.entries context tx)
      (role.entries (context.unpriced config) tx) := by
  cases role with
  | opens channel => exact Draft.simulates_valueAll context config (channel.drafts context tx)
  | opened channel =>
    exact Draft.simulates_valueAll context config (channel.openingDrafts context tx)
  | closes channel => exact channel.simulates_closingEntries hfees config tx
  | sweeps => exact Draft.simulates_valueAll context config (tx.sweepDrafts context)
  | transfers => exact Draft.simulates_valueAll context config (tx.transferDrafts context)

theorem ChannelHistory.simulates_entries {context : EntryContext}
    (hfees : FeesAlike l context.feeOf) (config : Option PriceConfig) (history : ChannelHistory)
    (tx : Transaction) :
    Simulates l (Forall₂ Entry.Unpriced) (history.entries context tx)
      (history.entries (context.unpriced config) tx) := by
  unfold ChannelHistory.entries
  refine (simulates_check (history.roleOf tx.txid)).bind ?_
  rintro role _ rfl
  exact role.simulates_entries hfees config tx

namespace OnChainSource

variable {source : OnChainSource}

/-- Which transactions are selected does not depend on prices. -/
theorem AlikeIn.simulates_selection (h : source.AlikeIn l) (unconfirmedAsNow : Bool)
    (period : Period) :
    Simulates l Eq (source.selection unconfirmedAsNow period)
      (source.selection unconfirmedAsNow period) := by
  unfold selection
  refine h.transactions.bind ?_
  rintro txs _ rfl
  refine h.sweeps.bind ?_
  rintro swept _ rfl
  refine (Simulates.mapM_same (fun txid => simulates_check (Value.key txid)) swept).bind ?_
  rintro keys _ rfl
  refine simulates_now.bind ?_
  rintro now _ rfl
  refine (simulates_check _).bind ?_
  rintro kept _ rfl
  exact (simulates_log _ _).bind fun _ _ _ => simulates_pure rfl

/-- Nor does which channels are known. -/
theorem AlikeIn.simulates_history (h : source.AlikeIn l) (sweeps : List Key) :
    Simulates l Eq (source.history sweeps) (source.history sweeps) := by
  unfold OnChainSource.history
  refine h.openChannels.bind ?_
  rintro opens _ rfl
  refine (Simulates.foldlM (fun _ _ => simulates_check _) opens _).bind ?_
  rintro current _ rfl
  refine h.closedChannels.bind ?_
  rintro closeds _ rfl
  exact Simulates.foldlM (fun _ _ => simulates_check _) closeds _

/-- A context in which fees can be looked up is the same with prices and without. -/
theorem AlikeIn.simulates_withFees (h : source.AlikeIn l) {context : EntryContext}
    (hfees : FeesAlike l context.feeOf) (config : Option PriceConfig) :
    Simulates l (fun fees fees' => fees' = fees.unpriced config ∧ FeesAlike l fees.feeOf)
      (source.withFees context) (source.withFees (context.unpriced config)) := by
  unfold withFees
  have hsame : (context.unpriced config).feeOf = context.feeOf := rfl
  rw [hsame]
  cases hfeeOf : context.feeOf with
  | some feeOf => exact simulates_pure ⟨rfl, hfees⟩
  | none =>
    refine h.feeLookup.bind ?_
    rintro looked _ ⟨rfl, hlooked⟩
    exact simulates_pure ⟨rfl, hlooked⟩

/-- The report on chain without prices. -/
theorem AlikeIn.simulates_report (h : source.AlikeIn l) (unconfirmedAsNow : Bool) (period : Period)
    {context : EntryContext} (hfees : FeesAlike l context.feeOf) (config : Option PriceConfig) :
    Simulates l (Forall₂ Entry.Unpriced) (source.report unconfirmedAsNow period context)
      (source.report unconfirmedAsNow period (context.unpriced config)) := by
  unfold report
  refine (h.simulates_selection unconfirmedAsNow period).bind ?_
  rintro selection _ rfl
  dsimp only
  split
  · exact simulates_pure .nil
  · refine (h.simulates_history selection.sweeps).bind ?_
    rintro history _ rfl
    refine (simulates_log _ _).bind fun _ _ _ => ?_
    refine (h.simulates_withFees hfees config).bind ?_
    rintro fees _ ⟨rfl, hfees⟩
    have hblocks := Simulates.mapM (history.simulates_entries hfees config) selection.kept
    exact hblocks.bind fun blocks blocks' hblocks => simulates_pure (rel_flatten hblocks)

end OnChainSource

/-! ## Off chain -/

theorem ResolvedPayment.simulates_addDirection (own : Value) (directions : Table Key Direction)
    (resolved : ResolvedPayment) :
    Simulates l Eq (addDirection own directions resolved)
      (addDirection own directions resolved) := by
  unfold addDirection
  cases resolved.destination.kept with
  | none => exact (simulates_log _ _).bind fun _ _ _ => simulates_pure rfl
  | some destination =>
    refine (simulates_check _).bind ?_
    rintro key _ rfl
    cases Table.get? directions key with
    | none => exact simulates_pure rfl
    | some before =>
      dsimp only
      split
      · exact simulates_pure rfl
      · exact simulates_throw _ _

theorem ResolvedPayment.simulates_circular (own : Value) (payments : List ResolvedPayment) :
    Simulates l Eq (circular own payments) (circular own payments) := by
  unfold circular
  refine (Simulates.foldlM (simulates_addDirection own) payments []).bind ?_
  rintro directions _ rfl
  exact simulates_pure rfl

namespace OffChainSource

variable {source : OffChainSource}

/-- Nor does the destination of a payment. -/
theorem AlikeIn.simulates_resolve (h : source.AlikeIn l) (payment : Payment) :
    Simulates l Eq (ResolvedPayment.resolve source.decode payment)
      (ResolvedPayment.resolve source.decode payment) := by
  unfold ResolvedPayment.resolve ResolvedPayment.requestDetails
  refine Simulates.bind ?_ ?_ (R := Eq)
  · split
    · refine (h.decode _).map ?_
      rintro decoded _ rfl
      rfl
    · exact simulates_pure rfl
  · rintro details _ rfl
    exact simulates_pure rfl

/-- The report off chain without prices. -/
theorem AlikeIn.simulates_report (h : source.AlikeIn l) (period : Period) (context : EntryContext)
    (config : Option PriceConfig) :
    Simulates l (Forall₂ Entry.Unpriced) (source.report period context)
      (source.report period (context.unpriced config)) := by
  unfold report
  refine h.invoices.bind ?_
  rintro invoices _ rfl
  refine (simulates_log _ _).bind fun _ _ _ => ?_
  refine h.payments.bind ?_
  rintro payments _ rfl
  refine (Simulates.mapM_same h.simulates_resolve payments).bind ?_
  rintro resolved _ rfl
  refine h.ownPubkey.bind ?_
  rintro own _ rfl
  refine (ResolvedPayment.simulates_circular own resolved).bind ?_
  rintro circular _ rfl
  refine (simulates_check _).bind fun _ _ _ => ?_
  refine (simulates_log _ _).bind fun _ _ _ => ?_
  refine (h.forwards period).bind ?_
  rintro forwards _ rfl
  refine (simulates_log _ _).bind fun _ _ _ => ?_
  have hdrafts : offChainDrafts (context.unpriced config) circular =
      offChainDrafts context circular := rfl
  rw [hdrafts]
  have hblocks := Simulates.mapM (l := l) (Draft.simulates_valueAll context config)
    (offChainDrafts context circular (Invoice.select period invoices)
      (ResolvedPayment.select period resolved) forwards)
  exact hblocks.bind fun blocks blocks' hblocks => simulates_pure (rel_flatten hblocks)

end OffChainSource

/-! ## The report of a node -/

namespace NodeSource

variable {source : NodeSource} {request : ReportRequest}
  {priceAt priceAt' : Int → Except Failure Price}

/-- The report of a node without prices: its entries agree with those of the report with prices, and
all values are zero. -/
theorem AlikeIn.simulates_report (h : source.AlikeIn l) (request : ReportRequest)
    (priceAt : Int → Except Failure Price) (config : Option PriceConfig) :
    Simulates l (Forall₂ Entry.Unpriced) (source.reportWithPrices request priceAt)
      (source.reportWithPrices request fun _ => .ok (Price.nothing config)) := by
  unfold reportWithPrices
  have hnoFees : FeesAlike l none := by
    intro lookup hlookup
    cases hlookup
  refine (h.onChain.simulates_report _ _ hnoFees config).bind fun onChain onChain' honChain => ?_
  refine (h.offChain.simulates_report _ _ config).bind fun offChain offChain' hoffChain => ?_
  rw [honChain.length_eq, hoffChain.length_eq]
  refine (simulates_log _ _).bind fun _ _ _ => simulates_pure ?_
  exact Entry.forall₂_sort (rel_append honChain hoffChain)

/-- Every node gives the same in sessions that are the same. -/
theorem alikeIn_same (source : NodeSource) : source.AlikeIn .same where
  onChain :=
    { transactions := simulates_same _
      sweeps := simulates_same _
      openChannels := simulates_same _
      closedChannels := simulates_same _
      feeLookup := (simulates_same _).imp fun _ _ h => ⟨h, fun _ _ _ => simulates_same _⟩ }
  offChain :=
    { ownPubkey := simulates_same _
      invoices := simulates_same _
      payments := simulates_same _
      forwards := fun _ => simulates_same _
      decode := fun _ => simulates_same _ }

/-- Two reports of a node, begun in the same session with different prices, agree entry by entry. -/
theorem agreesWith_of_ends {s t t' : Session} {entries entries' : List Entry}
    (h : Ends (source.reportWithPrices request priceAt) s entries t)
    (h' : Ends (source.reportWithPrices request priceAt') s entries' t') :
    Forall₂ Entry.AgreesWith entries entries' := by
  have halike := source.alikeIn_same
  obtain ⟨bare, u, hbare, hunpriced, -⟩ :=
    halike.simulates_report request priceAt none s s entries t rfl h
  obtain ⟨bare', u', hbare', hunpriced', -⟩ :=
    halike.simulates_report request priceAt' none s s entries' t' rfl h'
  obtain ⟨rfl, -⟩ := hbare.unique hbare'
  refine forall₂_trans hunpriced hunpriced'.flip ?_
  intro entry zero entry' hentry hentry'
  exact hentry.agrees.trans hentry'.agrees.symm

end NodeSource

/-! ## Sources that stay inside -/

/-- A source on chain that stays inside gives the same in sessions with the same inside. -/
theorem OnChainSource.Inward.alikeIn {source : OnChainSource} (h : source.Inward)
    (outside : Session) : source.AlikeIn (.inside outside) where
  transactions := h.transactions.simulates outside
  sweeps := h.sweeps.simulates outside
  openChannels := h.openChannels.simulates outside
  closedChannels := h.closedChannels.simulates outside
  feeLookup := by
    intro s s' looked t hs hact
    obtain ⟨_, t', hact', rfl, ht⟩ := h.feeLookup.simulates outside s s' looked t hs hact
    refine ⟨looked, t', hact', ⟨rfl, ?_⟩, ht⟩
    rintro feeOf rfl txid
    exact (h.feeOf s t feeOf hact txid).simulates outside

/-- So does a source off chain. -/
theorem OffChainSource.Inward.alikeIn {source : OffChainSource} (h : source.Inward)
    (outside : Session) : source.AlikeIn (.inside outside) where
  ownPubkey := h.ownPubkey.simulates outside
  invoices := h.invoices.simulates outside
  payments := h.payments.simulates outside
  forwards period := (h.forwards period).simulates outside
  decode request := (h.decode request).simulates outside

/-- The node gives the same in sessions with the same inside. -/
theorem Node.alikeIn_inside (outside : Session) : Node.source.AlikeIn (.inside outside) where
  onChain := Node.inward_onChain.alikeIn outside
  offChain := Node.inward_offChain.alikeIn outside

end NodeLedger
