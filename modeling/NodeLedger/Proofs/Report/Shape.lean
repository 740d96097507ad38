import NodeLedger.Proofs.Entry.Fee
import NodeLedger.Proofs.Report.Times

/-!
# The shape of a report

A report is made of blocks, one for each record, and each block has one time.  Sorting moves blocks
as wholes, so that the entry of a fee stays behind the entry that it belongs to, however many
entries have the same time.

Main results:

- Theorem `NodeSource.exists_blocks_of_ends`: a report is made of the blocks of its records, sorted
  as wholes.
- Theorem `Entry.feesFollow_flatten`: in such a list the fees stand behind what they belong to.
- Structure `Node.Shaped`: times, amounts, order and fees of a report of the node, whose entries are
  those of the node of the session in which it is made.
- Theorem `Node.report_shaped`: every report is shaped so, with prices that are given or with those
  of a source.
-/

namespace NodeLedger

open List NodeLedger.Action

/-! ## Blocks of one event -/

namespace Entry

/-- A block is what the drafts of one record become. -/
def MadeOfRecord (priceAt : Int → Except Failure Price) (block : List Entry) : Prop :=
  ∃ time total made, Draft.OfEvent time total made ∧ Draft.FeesNamed made ∧
    Forall₂ (Draft.Becomes priceAt) made block

variable {priceAt : Int → Except Failure Price} {block : List Entry}

theorem MadeOfRecord.isEvent (h : MadeOfRecord priceAt block) : IsEvent block := by
  obtain ⟨time, total, made, hevent, hnamed, hbecome⟩ := h
  exact hevent.isEvent hnamed hbecome

/-- The time of a block, that of its first entry. -/
def blockTime (block : List Entry) : Int :=
  (block.head?.map timestamp).getD 0

/-- All entries of a block have its time. -/
theorem MadeOfRecord.timestamp_eq (h : MadeOfRecord priceAt block) :
    ∀ entry ∈ block, entry.timestamp = blockTime block := by
  obtain ⟨time, total, made, hevent, -, hbecome⟩ := h
  have htimes := hevent.timestamp_of_becomes hbecome
  intro entry hentry
  cases block with
  | nil => cases hentry
  | cons first rest =>
    have hfirst : blockTime (first :: rest) = first.timestamp := rfl
    rw [hfirst, htimes entry hentry, htimes first List.mem_cons_self]

/-- An entry is a credit if it takes nothing away. -/
theorem MadeOfRecord.credit_of_amount (h : MadeOfRecord priceAt block) :
    ∀ entry ∈ block, entry.amount = 0 → entry.credit = true := by
  obtain ⟨time, total, made, -, -, hbecome⟩ := h
  intro entry hentry hamount
  obtain ⟨draft, -, price, value, -, -, rfl⟩ := exists_of_mem_right hbecome hentry
  have hzero : draft.amount.natAbs = 0 := hamount
  have hcredit : 0 ≤ draft.amount := by omega
  exact decide_eq_true hcredit

/-! ## Fees behind what they belong to -/

/-- Every entry of a fee stands immediately behind the entry that it belongs to. -/
def FeesFollow (entries : List Entry) : Prop :=
  ∀ before fee after, entries = before ++ fee :: after → fee.kind.isFee = true →
    ∃ init moved, before = init ++ [moved] ∧ fee.IsFeeOf moved

/-- The fee of one event follows what it belongs to. -/
theorem IsEvent.feesFollow (h : IsEvent block) : FeesFollow block := by
  obtain ⟨moved, fee, rfl, hkind, hfee⟩ := h
  intro before entry after hblock hisFee
  rcases List.cons_eq_append_iff.mp hblock with ⟨rfl, hcons⟩ | ⟨init, rfl, hrest⟩
  · -- The first entry of an event is not that of a fee.
    cases hcons
    rw [hkind] at hisFee
    cases hisFee
  · cases fee with
    | none => simp at hrest
    | some fee =>
      have hsingle : [fee] = init ++ entry :: after := hrest
      obtain ⟨rfl, rfl⟩ : init = [] ∧ fee = entry := by
        cases init with
        | nil => exact ⟨rfl, (List.cons.inj hsingle).1⟩
        | cons _ init => simp at hsingle
      exact ⟨[], moved, rfl, hfee fee rfl⟩

/-- Where fees follow what they belong to in two lists, they do so in one behind the other. -/
theorem FeesFollow.append {front back : List Entry} (hfront : FeesFollow front)
    (hback : FeesFollow back) : FeesFollow (front ++ back) := by
  intro before fee after happend hfee
  rcases List.append_eq_append_iff.mp happend with ⟨mid, rfl, hmid⟩ | ⟨mid, rfl, hmid⟩
  · obtain ⟨init, moved, rfl, hfeeOf⟩ := hback mid fee after hmid hfee
    exact ⟨front ++ init, moved, (List.append_assoc _ _ _).symm, hfeeOf⟩
  · cases mid with
    | nil =>
      -- A fee at the head of the second list would belong to nothing.
      obtain ⟨init, moved, hnil, -⟩ := hback [] fee after hmid.symm hfee
      simp at hnil
    | cons entry mid =>
      obtain ⟨rfl, -⟩ := List.cons.inj hmid
      exact hfront before fee mid rfl hfee

/-- In the blocks of events, one behind the other, fees follow what they belong to. -/
theorem feesFollow_flatten {blocks : List (List Entry)} (h : ∀ block ∈ blocks, IsEvent block) :
    FeesFollow blocks.flatten := by
  induction blocks with
  | nil =>
    intro before fee after hnil
    simp at hnil
  | cons block blocks ih =>
    obtain ⟨hblock, hrest⟩ := List.forall_mem_cons.mp h
    exact hblock.feesFollow.append (ih hrest)

/-! ## Order -/

/-- Entries have been put in another order, in which those of one time stay in the order in which
they were. -/
structure StablyReordered (before after : List Entry) : Prop where
  perm : after ~ before
  same_time : ∀ time, (after.filter fun entry => decide (entry.timestamp = time)) =
    before.filter fun entry => decide (entry.timestamp = time)

theorem stablyReordered_sort (entries : List Entry) : StablyReordered entries (sort entries) where
  perm := List.mergeSort_perm entries _
  same_time time := Order.filter_mergeSort_eq timestamp time entries

end Entry

/-! ## Blocks of a report -/

/-- A report on chain is made of the blocks of its transactions. -/
theorem OnChainSource.exists_blocks_of_ends {source : OnChainSource} {unconfirmedAsNow : Bool}
    {period : Period} {context : EntryContext} {s t : Session} {entries : List Entry}
    (h : Ends (source.report unconfirmedAsNow period context) s entries t) :
    ∃ blocks : List (List Entry), entries = blocks.flatten ∧
      ∀ block ∈ blocks, Entry.MadeOfRecord context.priceAt block := by
  obtain ⟨selection, s₁, blocks, -, rfl, hblocks⟩ := blocks_of_ends_report h
  refine ⟨blocks, rfl, ?_⟩
  intro block hblock
  obtain ⟨tx, -, history, fees, ⟨_, _, _, -, hfees⟩, hyields⟩ := exists_of_mem_right hblocks hblock
  obtain ⟨role, closingFee, made, -, -, hmade, hbecome⟩ := hyields
  rw [← (ends_withFees hfees).1]
  exact ⟨_, _, made, TransactionRole.drafts_ofEvent hmade, TransactionRole.feesNamed hmade, hbecome⟩

/-- A report off chain is made of the blocks of its invoices, payments and forwards. -/
theorem OffChainSource.exists_blocks_of_ends {source : OffChainSource} {period : Period}
    {context : EntryContext} {s t : Session} {entries : List Entry}
    (h : Ends (source.report period context) s entries t) :
    ∃ blocks : List (List Entry), entries = blocks.flatten ∧
      ∀ block ∈ blocks, Entry.MadeOfRecord context.priceAt block := by
  obtain ⟨_, _, _, _, _, _, _, _, _, _, _, _, _, _, _, blocks, -, -, -, -, -, -, -, hblocks, rfl⟩ :=
    ends_report h
  refine ⟨blocks, rfl, ?_⟩
  intro block hblock
  obtain ⟨drafts, hdrafts, _, _, hvalue⟩ := exists_of_mem_right hblocks.mapM hblock
  obtain ⟨made, rfl, hbecome⟩ := Draft.ends_valueAll hvalue
  obtain ⟨⟨time, total, hevent⟩, hnamed⟩ := feesNamed_of_offChainDrafts hdrafts
  exact ⟨time, total, made, hevent, hnamed, hbecome⟩

/-- A report is made of the blocks of its records, those on chain in front, sorted as wholes. -/
theorem NodeSource.exists_blocks_of_ends {source : NodeSource} {request : ReportRequest}
    {priceAt : Int → Except Failure Price} {s t : Session} {entries : List Entry}
    (h : Ends (source.reportWithPrices request priceAt) s entries t) :
    ∃ blocks : List (List Entry),
      entries = (blocks.mergeSort (Order.keyLE Entry.blockTime)).flatten ∧
      ∀ block ∈ blocks, Entry.MadeOfRecord priceAt block := by
  obtain ⟨onChain, s₁, offChain, s₂, honChain, hoffChain, rfl⟩ := ends_reportWithPrices h
  obtain ⟨front, rfl, hfront⟩ := OnChainSource.exists_blocks_of_ends honChain
  obtain ⟨back, rfl, hback⟩ := OffChainSource.exists_blocks_of_ends hoffChain
  have hmade : ∀ block ∈ front ++ back, Entry.MadeOfRecord priceAt block := by
    intro block hblock
    rcases List.mem_append.mp hblock with hblock | hblock
    · exact hfront block hblock
    · exact hback block hblock
  refine ⟨front ++ back, ?_, hmade⟩
  rw [← List.flatten_append]
  exact Order.mergeSort_flatten Entry.timestamp
    fun block hblock => (hmade block hblock).timestamp_eq

/-! ## Reports of the node -/

namespace Node

/-- What a report of the node is like that is made in a session, with a price for each time.  The
entries are in ascending order of their times, which lie in the period.  No amount is negative, and
an entry of nothing is a credit.  They are the entries on chain of the node of that session and
behind them those off chain, put in order such that those of one time stay in the order in which
they were.  Every entry of a fee stands immediately behind the entry that it belongs to. -/
structure Shaped (request : ReportRequest) (priceAt : Int → Except Failure Price) (s : Session)
    (entries : List Entry) : Prop where
  ascending : entries.Pairwise fun a b => a.timestamp ≤ b.timestamp
  bounds : ∀ entry ∈ entries, request.period.start ≤ entry.timestamp ∧
    entry.timestamp < request.period.stop ∧ 0 ≤ (entry.amount : Int) ∧
    (entry.amount = 0 → entry.credit = true)
  reordered : ∃ onChainEntries s₁ offChainEntries s₂,
    Ends (onChain.report request.unconfirmedAsNow request.period
      { priceAt, categories := request.categories.filter (·.onChain) }) s onChainEntries s₁ ∧
    Ends (offChain.report request.period
      { priceAt, categories := request.categories.filter (·.offChain) }) s₁ offChainEntries s₂ ∧
    Entry.StablyReordered (onChainEntries ++ offChainEntries) entries
  feesFollow : Entry.FeesFollow entries

/-- A report with a price for each time has its shape where it begins. -/
theorem shaped_of_ends {request : ReportRequest} {priceAt : Int → Except Failure Price}
    {s t : Session} {entries : List Entry}
    (h : Ends (source.reportWithPrices request priceAt) s entries t) :
    Shaped request priceAt s entries := by
  obtain ⟨blocks, hsorted, hmade⟩ := NodeSource.exists_blocks_of_ends h
  obtain ⟨onChainEntries, s₁, offChainEntries, s₂, honChain, hoffChain, hsort⟩ :=
    NodeSource.ends_reportWithPrices h
  have hmade' : ∀ block ∈ blocks.mergeSort (Order.keyLE Entry.blockTime),
      Entry.MadeOfRecord priceAt block := by
    intro block hblock
    exact hmade block (List.mem_mergeSort.mp hblock)
  refine ⟨NodeSource.pairwise_of_ends h, ?bounds, ?reordered, ?feesFollow⟩
  case bounds =>
    intro entry hentry
    obtain ⟨hstart, hstop⟩ :=
      (request.period.contains_iff entry.timestamp).mp (contains_of_ends h entry hentry)
    rw [hsorted] at hentry
    obtain ⟨block, hblock, hentry⟩ := List.mem_flatten.mp hentry
    exact ⟨hstart, hstop, Int.natCast_nonneg _, (hmade' block hblock).credit_of_amount entry hentry⟩
  case reordered =>
    rw [hsort]
    exact ⟨onChainEntries, s₁, offChainEntries, s₂, honChain, hoffChain,
      Entry.stablyReordered_sort _⟩
  case feesFollow =>
    rw [hsorted]
    exact Entry.feesFollow_flatten fun block hblock => (hmade' block hblock).isEvent

/-- Every report of the node is shaped so: with prices that are given in the session in which it
begins, and with those of a source in the session in which these have been had. -/
theorem report_shaped {request : ReportRequest} {s t : Session} {entries : List Entry} :
    (∀ priceAt, Ends (source.reportWithPrices request priceAt) s entries t →
      Shaped request priceAt s entries) ∧
    ∀ prices, Ends (source.report request prices) s entries t →
      ∃ priceAt s₁, Ends (request.priceLookup prices) s priceAt s₁ ∧
        Shaped request priceAt s₁ entries := by
  refine ⟨fun priceAt h => shaped_of_ends h, ?_⟩
  intro prices h
  obtain ⟨priceAt, s₁, hprices, hends⟩ := ends_bind.mp h
  exact ⟨priceAt, s₁, hprices, shaped_of_ends hends⟩

end Node

/-- A node whose wallet has made two sends in one block, and which at the same time has made a
payment and passed one on; an invoice was paid before that. -/
def busyNode (method : String) (_payload : Value) : Except Value Value :=
  match method with
  | "bkpr-listaccountevents" => .ok (.object [("events", .list [
      .object [("account", .text "wallet"), ("type", .text "chain"), ("txid", .text "first"),
        ("debit_msat", .int 5000000), ("timestamp", .int 100), ("blockheight", .int 7)],
      .object [("account", .text "wallet"), ("type", .text "onchain_fee"), ("txid", .text "first"),
        ("credit_msat", .int 200000)],
      .object [("account", .text "wallet"), ("type", .text "chain"), ("txid", .text "second"),
        ("debit_msat", .int 6000000), ("timestamp", .int 100), ("blockheight", .int 7)],
      .object [("account", .text "wallet"), ("type", .text "onchain_fee"), ("txid", .text "second"),
        ("credit_msat", .int 300000)]])])
  | "getinfo" => .ok (.object [("id", .text "own")])
  | "listinvoices" => .ok (.object [("invoices", .list [
      .object [("status", .text "paid"), ("paid_at", .int 90), ("amount_received_msat", .int 7000),
        ("payment_hash", .text "received")]])])
  | "listsendpays" => .ok (.object [("payments", .list [
      .object [("payment_hash", .text "paid"), ("payment_preimage", .text "preimage"),
        ("status", .text "complete"), ("id", .int 4), ("amount_msat", .int 500),
        ("amount_sent_msat", .int 510), ("completed_at", .int 100),
        ("destination", .text "other")]])])
  | "listforwards" => .ok (.object [("forwards", .list [
      .object [("resolved_time", .int 100), ("in_msat", .int 22), ("out_msat", .int 20),
        ("fee_msat", .int 2)]])])
  | _ => .ok (.object [])

/-- The reports of this node: eight of their entries have the same time. -/
theorem Node.report_shaped_busyNode :
    let request : ReportRequest := { period := ⟨0, 1000⟩, disableFiat := true }
    let s : Session := { node := busyNode }
    let priceAt : Int → Except Failure Price := fun _ => .ok (Price.nothing none)
    let prices : Except Failure PriceSource := .error (.request .priceSourceRequired)
    ∃ entries t, Ends (source.reportWithPrices request priceAt) s entries t ∧
      Ends (source.report request prices) s entries t ∧
      entries.map (fun entry => (entry.timestamp, entry.kind, entry.reference.display)) =
        [(90, .receipt, ""), (100, .payment, "first"), (100, .fee, "first:-1"),
          (100, .payment, "second"), (100, .fee, "second:-1"), (100, .payment, "4:preimage"),
          (100, .fee, "4:preimage:-1"), (100, .forward, ""), (100, .forwardFee, "")] ∧
      Shaped request priceAt s entries ∧
      ∃ priceAt s₁, Ends (request.priceLookup prices) s priceAt s₁ ∧
        Shaped request priceAt s₁ entries := by
  intro request s priceAt prices
  have hreport : ∃ entries, Ends (source.reportWithPrices request priceAt) s entries
      ((source.reportWithPrices request priceAt).outcome s).2 ∧
      entries.map (fun entry => (entry.timestamp, entry.kind, entry.reference.display)) =
        [(90, .receipt, ""), (100, .payment, "first"), (100, .fee, "first:-1"),
          (100, .payment, "second"), (100, .fee, "second:-1"), (100, .payment, "4:preimage"),
          (100, .fee, "4:preimage:-1"), (100, .forward, ""), (100, .forwardFee, "")] := by
    refine exists_ends_of_outcome ?_
    unfold NodeSource.reportWithPrices
    rw [Entry.sort_eq_foldr]
    decide +kernel
  obtain ⟨entries, hgiven, hkinds⟩ := hreport
  -- Without values no source of prices is asked.
  have hlookup : Ends (request.priceLookup prices) s priceAt s := ends_pure.mpr ⟨rfl, rfl⟩
  have hasked : Ends (source.report request prices) s entries _ :=
    ends_bind.mpr ⟨priceAt, s, hlookup, hgiven⟩
  exact ⟨entries, _, hgiven, hasked, hkinds, report_shaped.1 priceAt hgiven,
    report_shaped.2 prices hasked⟩

end NodeLedger
