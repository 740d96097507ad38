import NodeLedger.Proofs.Order.StableSort
import NodeLedger.Proofs.Record.Selection
import NodeLedger.Proofs.Report.Conservation
import NodeLedger.Proofs.Report.Steady
import NodeLedger.Report.Records

/-!
# Reports of parts of a period

If there is a report of a period, there is one of each part of it: the entries whose times fall into
the part.  So a period that is split in two loses nothing, and has nothing twice.

Every kind of record is selected by its own time, and all entries of a record have that time.  The
payments that the node makes to itself are found among all payments, and the order of entries of one
time does not depend on the others; so nothing in a part depends on what lies outside of it.

Main results:

- Theorem `exists_blocks_within`: the blocks of a part are those of the whole that fall into it.
- Theorems `OnChainSource.report_within`, `OffChainSource.report_within` and
  `NodeSource.report_within`: the report of a part.
- Theorem `NodeSource.report_split`: the report of a period is the report of its first part followed
  by that of the rest.
-/

namespace NodeLedger

open List NodeLedger.Action

variable {w : Situation} {part whole : Period}

/-- The entries of a report that fall into a period. -/
def Entry.during (period : Period) (entries : List Entry) : List Entry :=
  entries.filter fun entry => period.contains entry.timestamp

/-! ## Blocks -/

/-- Some of the blocks of a report: if each block falls into a part with all its entries or with
none, the blocks that do are the entries of the part. -/
theorem exists_blocks_within {α : Type} {R : α → List Entry → Prop} {keep : α → Bool}
    {items : List α} {blocks : List (List Entry)} (h : Forall₂ R items blocks)
    (hkeep : ∀ a block, R a block → ∀ entry ∈ block, part.contains entry.timestamp = keep a) :
    ∃ kept, Forall₂ R (items.filter keep) kept ∧
      kept.flatten = Entry.during part blocks.flatten := by
  induction h with
  | nil => exact ⟨[], .nil, rfl⟩
  | @cons a block items blocks hblock _ ih =>
    obtain ⟨kept, hkept, hflatten⟩ := ih
    have hentries := hkeep a block hblock
    cases hkeepA : keep a with
    | true =>
      refine ⟨block :: kept, ?_, ?_⟩
      · rw [List.filter_cons, if_pos hkeepA]
        exact .cons hblock hkept
      · have hall : Entry.during part block = block := by
          refine List.filter_eq_self.mpr ?_
          intro entry hentry
          rw [hentries entry hentry, hkeepA]
        unfold Entry.during at hall hflatten ⊢
        rw [List.flatten_cons, List.flatten_cons, List.filter_append, hall, hflatten]
    | false =>
      refine ⟨kept, ?_, ?_⟩
      · rw [List.filter_cons, if_neg (by simp [hkeepA])]
        exact hkept
      · have hnone : Entry.during part block = [] := by
          refine List.filter_eq_nil_iff.mpr ?_
          intro entry hentry
          rw [hentries entry hentry, hkeepA]
          simp
        unfold Entry.during at hnone hflatten ⊢
        rw [List.flatten_cons, List.filter_append, hnone, hflatten, List.nil_append]

/-! ## On chain -/

namespace OnChainSource

variable {source : OnChainSource} {unconfirmedAsNow : Bool} {context : EntryContext}
  {s t : Session}

/-- What is selected for a part is what of the selection for the whole falls into the part. -/
theorem SteadyIn.selection_within (h : source.SteadyIn w) (hpart : part.Within whole)
    {selection : Selection} (hs : w.holds s)
    (hselection : Ends (source.selection unconfirmedAsNow whole) s selection t) :
    w.holds t ∧ Always w (source.selection unconfirmedAsNow part)
      ⟨selection.sweeps, selection.kept.filter fun tx => part.contains tx.timestamp⟩ := by
  obtain ⟨listed, s₁, swept, s₂, keys, line, hlisted, hswept, hkeys, hsweeps, hselect, rfl⟩ :=
    ends_selection hselection
  have hs₁ := h.transactions.holds hs hlisted
  have hs₂ := h.sweeps.holds hs₁ hswept
  refine ⟨w.holds_write s₂ line hs₂, ?_⟩
  have hkeysAlways : Always w (swept.mapM fun txid => (liftM txid.key : Action Key)) keys :=
    fun s hs => ⟨s, ends_mapM_lift.mpr ⟨hkeys, rfl⟩, hs⟩
  rw [w.now_eq s₂ hs₂] at hselect
  rw [hsweeps]
  unfold OnChainSource.selection
  refine (h.transactions s _ _ hs hlisted).bind ?_
  refine (h.sweeps s₁ _ _ hs₁ hswept).bind (hkeysAlways.bind (always_now.bind ?_))
  exact (always_lift (Transaction.select_within hpart hselect)).bind
    ((always_log _ _).bind (always_pure _))

/-- The report of a part is what of the report of the whole falls into the part. -/
theorem SteadyIn.report_within (h : source.SteadyIn w) (hcontext : context.SteadyIn w)
    (hpart : part.Within whole) {entries : List Entry} (hs : w.holds s)
    (hreport : Ends (source.report unconfirmedAsNow whole context) s entries t) :
    w.holds t ∧ Always w (source.report unconfirmedAsNow part context)
      (Entry.during part entries) := by
  obtain ⟨selection, s₁, hselection, ⟨hkept, rfl, rfl⟩ | hrest⟩ := ends_report hreport
  · obtain ⟨ht, hpartSelection⟩ := h.selection_within hpart hs hselection
    refine ⟨ht, ?_⟩
    unfold OnChainSource.report
    refine hpartSelection.bind ?_
    rw [hkept]
    exact always_pure []
  · obtain ⟨history, s₂, line, fees, s₃, blocks, hhistory, hfees, hblocks, rfl⟩ := hrest
    obtain ⟨hs₁, hpartSelection⟩ := h.selection_within hpart hs hselection
    have hs₂ := w.holds_write s₂ line ((h.history selection.sweeps).holds hs₁ hhistory)
    have hs₃ := (h.withFees context).holds hs₂ hfees
    have hsteady :=
      ChannelHistory.steady_entries (h.steadyIn_of_withFees hcontext hs₂ hfees) history
    have halways := Steady.always_of_ends_mapM hsteady hs₃ hblocks
    have htime : ∀ tx block, Always w (history.entries fees tx) block →
        ∀ entry ∈ block, part.contains entry.timestamp = part.contains tx.timestamp := by
      intro tx block hblock entry hentry
      obtain ⟨_, hends, _⟩ := hblock s hs
      rw [(ChannelHistory.yields_of_ends hends).timestamp_eq entry hentry]
    obtain ⟨kept, hkept, hflatten⟩ := exists_blocks_within halways htime
    refine ⟨(Steady.mapM hsteady selection.kept).holds hs₃ hblocks, ?_⟩
    unfold OnChainSource.report
    refine hpartSelection.bind ?_
    dsimp only
    rw [← hflatten]
    split
    · -- Nothing falls into the part, so that there are no blocks.
      next hempty =>
      rw [List.isEmpty_iff.mp hempty] at hkept
      rw [forall₂_nil_left_iff.mp hkept]
      exact always_pure []
    · refine (h.history selection.sweeps s₁ _ _ hs₁ hhistory).bind ((always_log _ _).bind ?_)
      refine (h.withFees context _ _ _ hs₂ hfees).bind ?_
      exact (always_mapM hkept).bind (always_pure _)

end OnChainSource

/-! ## Off chain -/

/-- The block of some drafts is always the same. -/
def AlwaysBlock (w : Situation) (context : EntryContext) (drafts : Except Failure (List Draft))
    (block : List Entry) : Prop :=
  Always w (Draft.valueAll context drafts) block

/-- The blocks of some records, the drafts of each of which are those of one event. -/
theorem exists_blocks_of_events {α : Type} {context : EntryContext} {timeOf : α → Int}
    {draftsOf : α → Except Failure (List Draft)} {items : List α} {blocks : List (List Entry)}
    {s : Session} (hs : w.holds s)
    (h : Forall₂ (AlwaysBlock w context) (items.map draftsOf) blocks)
    (hevent : ∀ a made, draftsOf a = .ok made → ∃ total, Draft.OfEvent (timeOf a) total made) :
    ∃ kept, Forall₂ (AlwaysBlock w context)
        ((items.filter fun a => part.contains (timeOf a)).map draftsOf) kept ∧
      kept.flatten = Entry.during part blocks.flatten := by
  have htime : ∀ a block, AlwaysBlock w context (draftsOf a) block →
      ∀ entry ∈ block, part.contains entry.timestamp = part.contains (timeOf a) := by
    intro a block hblock entry hentry
    obtain ⟨_, hends, _⟩ := hblock s hs
    obtain ⟨made, hmade, hbecome⟩ := Draft.ends_valueAll hends
    obtain ⟨total, hofEvent⟩ := hevent a made hmade
    rw [hofEvent.timestamp_of_becomes hbecome entry hentry]
  obtain ⟨kept, hkept, hflatten⟩ := exists_blocks_within (forall₂_map_left_iff.mp h) htime
  exact ⟨kept, forall₂_map_left_iff.mpr hkept, hflatten⟩

/-- The blocks of the invoices, payments and forwards of a part are those of the whole that fall
into the part. -/
theorem exists_blocks_offChain {context : EntryContext} {circular : Table Key Value}
    {invoices : List Invoice} {payments : List ResolvedPayment} {forwards : List Forward}
    {blocks : List (List Entry)} {s : Session} (hs : w.holds s)
    (h : Forall₂ (AlwaysBlock w context)
      (offChainDrafts context circular invoices payments forwards) blocks) :
    ∃ kept, Forall₂ (AlwaysBlock w context)
        (offChainDrafts context circular
          (invoices.filter fun invoice => part.contains invoice.settleDate)
          (payments.filter fun resolved => part.contains resolved.settleTime)
          (forwards.filter fun forward => part.contains forward.timestamp)) kept ∧
      kept.flatten = Entry.during part blocks.flatten := by
  obtain ⟨front, passed, rfl, hfront, hpassed⟩ := forall₂_append_left h
  obtain ⟨received, paid, rfl, hreceived, hpaid⟩ := forall₂_append_left hfront
  have hforward : ∀ (forward : Forward) made,
      (.ok forward.drafts : Except Failure (List Draft)) = .ok made →
      ∃ total, Draft.OfEvent forward.timestamp total made := by
    rintro forward made ⟨⟩
    exact ⟨_, forward.drafts_ofEvent⟩
  obtain ⟨received', hreceived', hflatten₁⟩ :=
    exists_blocks_of_events hs hreceived fun _ _ hmade => ⟨_, Invoice.reportDrafts_ofEvent hmade⟩
  obtain ⟨paid', hpaid', hflatten₂⟩ :=
    exists_blocks_of_events hs hpaid fun _ _ hmade =>
      ⟨_, ResolvedPayment.reportDrafts_ofEvent hmade⟩
  obtain ⟨passed', hpassed', hflatten₃⟩ := exists_blocks_of_events hs hpassed hforward
  refine ⟨received' ++ paid' ++ passed', ?_, ?_⟩
  · exact rel_append (rel_append hreceived' hpaid') hpassed'
  · unfold Entry.during at hflatten₁ hflatten₂ hflatten₃ ⊢
    simp only [List.flatten_append, List.filter_append, hflatten₁, hflatten₂, hflatten₃]

namespace OffChainSource

variable {source : OffChainSource} {context : EntryContext} {forwards : List Forward}
  {s t : Session}

/-- The report of a part is what of the report of the whole falls into the part. -/
theorem SteadyIn.report_within (h : source.SteadyIn w forwards) (hpart : part.Within whole)
    {entries : List Entry} (hs : w.holds s)
    (hreport : Ends (source.report whole context) s entries t) :
    w.holds t ∧ Always w (source.report part context) (Entry.during part entries) := by
  obtain ⟨invoices, s₁, line₁, payments, s₂, resolved, s₃, own, s₄, circular, s₅, line₂, found, s₆,
    line₃, blocks, hinvoices, hpayments, hresolved, hown, hcircular, hdistinct, hfound, hblocks,
    rfl⟩ := ends_report hreport
  have hs₁ := w.holds_write s₁ line₁ (h.invoices.holds hs hinvoices)
  have hs₂ := h.payments.holds hs₁ hpayments
  have hresolve := Steady.mapM (ResolvedPayment.steady_resolve h.decode) payments
  have hs₃ := hresolve.holds hs₂ hresolved
  have hs₄ := h.ownPubkey.holds hs₃ hown
  have hcircularSteady : Steady w (ResolvedPayment.circular own resolved) :=
    ResolvedPayment.steady_circular own resolved
  have hs₅ := w.holds_write s₅ line₂ (hcircularSteady.holds hs₄ hcircular)
  obtain ⟨rfl, hs₆⟩ := (h.forwards whole).eq_of_ends hs₅ hfound
  have hs₆ := w.holds_write s₆ line₃ hs₆
  have hvalue : ∀ drafts, Steady w (Draft.valueAll context drafts) :=
    Draft.steady_valueAll context
  have halways := Steady.always_of_ends_mapM hvalue hs₆ hblocks
  obtain ⟨kept, hkept, hflatten⟩ :
      ∃ kept, Forall₂ (AlwaysBlock w context) _ kept ∧
        kept.flatten = Entry.during part blocks.flatten :=
    exists_blocks_offChain hs halways
  rw [← Invoice.select_within hpart, ← ResolvedPayment.select_within hpart, List.filter_filter]
    at hkept
  simp only [hpart.contains_and] at hkept
  have hpartDistinct : ResolvedPayment.checkDistinct (ResolvedPayment.select part resolved) =
      .ok () := by
    rw [ResolvedPayment.select_within hpart]
    exact ResolvedPayment.checkDistinct_of_sublist List.filter_sublist hdistinct
  refine ⟨(Steady.mapM hvalue _).holds hs₆ hblocks, ?_⟩
  unfold OffChainSource.report
  refine (h.invoices s _ _ hs hinvoices).bind ((always_log _ _).bind ?_)
  refine (h.payments _ _ _ hs₁ hpayments).bind ((hresolve _ _ _ hs₂ hresolved).bind ?_)
  refine (h.ownPubkey _ _ _ hs₃ hown).bind ((hcircularSteady _ _ _ hs₄ hcircular).bind ?_)
  refine (always_lift hpartDistinct).bind ((always_log _ _).bind ?_)
  refine (h.forwards part).bind ((always_log _ _).bind ?_)
  rw [← hflatten]
  exact (always_mapM hkept).bind (always_pure _)

end OffChainSource

/-! ## The report of a node -/

namespace NodeSource

variable {source : NodeSource} {request : ReportRequest} {forwards : List Forward}
  {priceAt : Int → Except Failure Price} {s t : Session}

/-- The report of a part is what of the report of the whole falls into the part. -/
theorem report_within (honChain : source.onChain.SteadyIn w)
    (hoffChain : source.offChain.SteadyIn w forwards) (hpart : part.Within request.period)
    {entries : List Entry} (hs : w.holds s)
    (h : Ends (source.reportWithPrices request priceAt) s entries t) :
    Always w (source.reportWithPrices { request with period := part } priceAt)
      (Entry.during part entries) := by
  obtain ⟨onChain, s₁, offChain, s₂, honChainReport, hoffChainReport, rfl⟩ :=
    ends_reportWithPrices h
  have hnoFees : EntryContext.SteadyIn w
      { priceAt, categories := request.categories.filter (·.onChain) } := by
    intro feeOf hfeeOf
    cases hfeeOf
  obtain ⟨hs₁, honChainPart⟩ := honChain.report_within hnoFees hpart hs honChainReport
  obtain ⟨-, hoffChainPart⟩ := hoffChain.report_within hpart hs₁ hoffChainReport
  have hsort : Entry.during part (Entry.sort (onChain ++ offChain)) =
      Entry.sort (Entry.during part onChain ++ Entry.during part offChain) := by
    unfold Entry.during Entry.sort
    rw [← List.filter_append]
    exact Order.filter_mergeSort Entry.timestamp _ _
  unfold reportWithPrices
  rw [hsort]
  exact honChainPart.bind (hoffChainPart.bind ((always_log _ _).bind (always_pure _)))

/-- All entries of a report fall into its period. -/
theorem contains_of_ends (honChain : source.onChain.SteadyIn w)
    (hoffChain : source.offChain.SteadyIn w forwards) {entries : List Entry} (hs : w.holds s)
    (h : Ends (source.reportWithPrices request priceAt) s entries t) :
    ∀ entry ∈ entries, request.period.contains entry.timestamp = true := by
  have hwhole := report_within honChain hoffChain ⟨le_refl _, le_refl _⟩ hs h
  have hall : entries = Entry.during request.period entries := (hwhole.eq_of_ends hs h).1
  exact List.filter_eq_self.mp hall.symm

/-- A report of a period that is split in two at some time is the report of the part before that
time, followed by the report of the rest.  There are reports of both parts if there is one of the
whole, whenever they are made. -/
theorem report_split (honChain : source.onChain.SteadyIn w)
    (hoffChain : source.offChain.SteadyIn w forwards) {mid : Int}
    (hstart : request.period.start ≤ mid) (hstop : mid ≤ request.period.stop)
    {entries : List Entry} (hs : w.holds s)
    (h : Ends (source.reportWithPrices request priceAt) s entries t) :
    ∃ before after, entries = before ++ after ∧
      Always w (source.reportWithPrices
        { request with period := ⟨request.period.start, mid⟩ } priceAt) before ∧
      Always w (source.reportWithPrices
        { request with period := ⟨mid, request.period.stop⟩ } priceAt) after := by
  have hfirst : Period.Within ⟨request.period.start, mid⟩ request.period := ⟨le_refl _, hstop⟩
  have hrest : Period.Within ⟨mid, request.period.stop⟩ request.period := ⟨hstart, le_refl _⟩
  have hbefore := report_within honChain hoffChain hfirst hs h
  have hafter := report_within honChain hoffChain hrest hs h
  refine ⟨_, _, ?_, hbefore, hafter⟩
  have hall := contains_of_ends honChain hoffChain hs h
  have hfront : Entry.during ⟨request.period.start, mid⟩ entries =
      entries.filter fun entry => decide (entry.timestamp < mid) := by
    refine List.filter_congr ?_
    intro entry hentry
    obtain ⟨hfrom, -⟩ := (Period.contains_iff _ _).mp (hall entry hentry)
    simp [Period.contains, hfrom]
  have hback : Entry.during ⟨mid, request.period.stop⟩ entries =
      entries.filter fun entry => decide (mid ≤ entry.timestamp) := by
    refine List.filter_congr ?_
    intro entry hentry
    obtain ⟨-, hto⟩ := (Period.contains_iff _ _).mp (hall entry hentry)
    simp [Period.contains, hto]
  rw [hfront, hback]
  exact (Order.append_of_sorted Entry.timestamp mid (pairwise_of_ends h)).symm

end NodeSource

/-! ## Known records -/

namespace NodeRecords

/-- The source of known records that lists the forwards of a period. -/
def listing (records : NodeRecords) : NodeSource where
  onChain := records.onChain
  offChain := {
    records.offChain with
    forwards := fun period =>
      return records.forwards.filter fun forward => period.contains forward.timestamp }

theorem steadyIn_onChain (records : NodeRecords) : records.listing.onChain.SteadyIn w where
  transactions := steady_pure _
  sweeps := steady_pure _
  openChannels := steady_pure _
  closedChannels := steady_pure _
  feeLookup := steady_pure _
  feeOf := fun _ => steady_of_always_map fun _ _ => steady_lift _

theorem steadyIn_offChain (records : NodeRecords) :
    records.listing.offChain.SteadyIn w records.forwards where
  ownPubkey := steady_pure _
  invoices := steady_pure _
  payments := steady_pure _
  decode _ := steady_lift _
  forwards _ := always_pure _

end NodeRecords

/-- The sample wallet of a node that has also been paid, has passed on a payment and has paid
itself. -/
def sampleNode : NodeRecords :=
  { sampleWallet with
    ownPubkey := .text "self"
    invoices := [
      { paymentHash := .text "paid", preimage := .text "p", memo := .text "", value := .msat 7,
        paid := .msat 7, settleDate := 20, state := .settled }]
    payments := [
      { paymentHash := .text "circle", preimage := .text "c", amount := 5, fee := 1,
        status := .succeeded, sequenceNumber := 1
        htlcs := [{ status := .succeeded, hops := [{ pubkey := .text "self" }],
                    resolveTime := 19000000000 }] }]
    forwards := [
      { timestamp := 20, channelIn := .text "in", channelOut := .text "out",
        amountIn := .msat 11, amountOut := .msat 9, fee := .msat 2 }] }

/-- The report of the sample node, split at a time at which several things happen. -/
theorem report_split_sampleNode :
    let priceAt : Int → Except Failure Price := fun _ => .ok (Price.nothing none)
    ∃ entries t,
      Ends (sampleNode.listing.reportWithPrices { period := ⟨0, 100⟩ } priceAt) {} entries t ∧
      entries.map (fun entry => (entry.timestamp, entry.signedAmount)) =
        [(10, -5000000), (10, -100000), (19, -5), (19, -1), (20, 4000000), (20, -150000),
          (20, 900000), (20, -20000), (20, 7), (20, 0), (20, 2), (30, -700000), (30, -30000)] ∧
      ∃ before after, entries = before ++ after ∧
        Always (.atTime 0) (sampleNode.listing.reportWithPrices { period := ⟨0, 20⟩ } priceAt)
          before ∧
        Always (.atTime 0) (sampleNode.listing.reportWithPrices { period := ⟨20, 100⟩ } priceAt)
          after := by
  intro priceAt
  have hsteady : sampleNode.listing.onChain.SteadyIn (.atTime 0) := sampleNode.steadyIn_onChain
  have hlower : (0 : Int) ≤ 20 := by decide
  have hupper : (20 : Int) ≤ 100 := by decide
  have hnow : (Situation.atTime 0).holds {} := rfl
  refine (exists_ends_of_outcome ?_).imp fun entries h => ⟨_, h.1, h.2, ?_⟩
  · unfold NodeSource.reportWithPrices
    rw [Entry.sort_eq_foldr]
    decide +kernel
  · have hsplit :=
      NodeSource.report_split hsteady sampleNode.steadyIn_offChain hlower hupper hnow h.1
    exact hsplit

end NodeLedger
