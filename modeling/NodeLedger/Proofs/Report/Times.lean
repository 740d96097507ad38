import NodeLedger.Node.Source
import NodeLedger.Proofs.Record.Selection
import NodeLedger.Proofs.Report.Block

/-!
# Times of entries

All entries of a report lie in its period.  Each kind of record is selected by a time of its own,
and the entries of a record have that time.

Main results:

- Theorem `OnChainSource.contains_of_ends`: what happened on chain lies in the period, whatever the
  wallet lists.
- Theorem `OffChainSource.contains_of_ends`: so does what happened off chain, if the forwards that
  are listed for a period lie in it.
- Theorem `Node.contains_of_ends`: so do all entries of the report of the node.
-/

namespace NodeLedger

open List NodeLedger.Action

variable {period : Period} {s t : Session}

/-! ## On chain -/

/-- The transactions that are selected for a period lie in it. -/
theorem Transaction.contains_of_select {unconfirmedAt : Option Int} {sweeps : List Key}
    {txs kept : List Transaction} (h : select period unconfirmedAt sweeps txs = .ok kept) :
    ∀ tx ∈ kept, period.contains tx.timestamp = true := by
  intro tx htx
  obtain ⟨dated, hdated, hkept⟩ := exists_of_mem_right (mapM_eq_ok_iff.mp h) htx
  have htime : tx.timestamp = dated.timestamp := by
    rw [(withoutFee_eq_ok hkept).1]
  rw [htime]
  exact (List.mem_filter.mp hdated).2

/-- The entries of a report on chain lie in its period. -/
theorem OnChainSource.contains_of_ends {source : OnChainSource} {unconfirmedAsNow : Bool}
    {context : EntryContext} {entries : List Entry}
    (h : Ends (source.report unconfirmedAsNow period context) s entries t) :
    ∀ entry ∈ entries, period.contains entry.timestamp = true := by
  obtain ⟨selection, s₁, blocks, hselection, rfl, hblocks⟩ := blocks_of_ends_report h
  obtain ⟨listed, _, swept, _, keys, line, -, -, -, -, hselect, -⟩ := ends_selection hselection
  intro entry hentry
  obtain ⟨block, hblock, hentry⟩ := List.mem_flatten.mp hentry
  obtain ⟨tx, htx, history, fees, -, hyields⟩ := exists_of_mem_right hblocks hblock
  rw [hyields.timestamp_eq entry hentry]
  exact Transaction.contains_of_select hselect tx htx

/-! ## Off chain -/

/-- The forwards that a source lists for a period lie in it. -/
def OffChainSource.ListsWithin (source : OffChainSource) : Prop :=
  ∀ period s forwards t, Ends (source.forwards period) s forwards t →
    ∀ forward ∈ forwards, period.contains forward.timestamp = true

/-- The drafts of what belongs to a period lie in it. -/
theorem contains_of_offChainDrafts {context : EntryContext} {circular : Table Key Value}
    {invoices : List Invoice} {payments : List ResolvedPayment} {forwards : List Forward}
    (hforwards : ∀ forward ∈ forwards, period.contains forward.timestamp = true)
    {made : List Draft}
    (hmade : .ok made ∈ offChainDrafts context circular (Invoice.select period invoices)
      (ResolvedPayment.select period payments) forwards) :
    ∀ draft ∈ made, period.contains draft.timestamp = true := by
  intro draft hdraft
  unfold offChainDrafts at hmade
  rcases List.mem_append.mp hmade with hmade | hmade
  · rcases List.mem_append.mp hmade with hmade | hmade
    · obtain ⟨invoice, hinvoice, hdrafts⟩ := List.mem_map.mp hmade
      have hkept := (List.mem_filter.mp hinvoice).2
      rw [(Invoice.reportDrafts_ofEvent hdrafts).timestamp_eq draft hdraft]
      exact (Bool.and_eq_true_iff.mp hkept).2
    · obtain ⟨resolved, hresolved, hdrafts⟩ := List.mem_map.mp hmade
      have hkept := (List.mem_filter.mp hresolved).2
      rw [(ResolvedPayment.reportDrafts_ofEvent hdrafts).timestamp_eq draft hdraft]
      exact (Bool.and_eq_true_iff.mp hkept).2
  · obtain ⟨forward, hforward, hdrafts⟩ := List.mem_map.mp hmade
    cases hdrafts
    rw [forward.drafts_ofEvent.timestamp_eq draft hdraft]
    exact hforwards forward hforward

/-- The entries of a report off chain lie in its period. -/
theorem OffChainSource.contains_of_ends {source : OffChainSource} (hsource : source.ListsWithin)
    {context : EntryContext} {entries : List Entry}
    (h : Ends (source.report period context) s entries t) :
    ∀ entry ∈ entries, period.contains entry.timestamp = true := by
  obtain ⟨_, _, _, _, _, _, _, _, _, circular, _, _, forwards, _, _, blocks, -, -, -, -, -, -,
    hforwards, hblocks, rfl⟩ := ends_report h
  intro entry hentry
  obtain ⟨block, hblock, hentry⟩ := List.mem_flatten.mp hentry
  obtain ⟨drafts, hdrafts, _, _, hvalue⟩ := exists_of_mem_right hblocks.mapM hblock
  obtain ⟨made, rfl, hbecome⟩ := Draft.ends_valueAll hvalue
  obtain ⟨draft, hdraft, hbecomes⟩ := exists_of_mem_right hbecome hentry
  rw [hbecomes.timestamp_eq]
  exact contains_of_offChainDrafts (hsource period _ forwards _ hforwards) hdrafts draft hdraft

/-! ## The report of the node -/

namespace Forward

/-- A forward that the node lists is read with its time and its fee if it lies in the period, and
left out if not. -/
theorem readListed_cases {v : Value} {found : Option Forward}
    (h : readListed period v = .ok found) :
    ∃ time, timeOf v = .ok time ∧
      (period.contains time = false ∧ found = none ∨
        period.contains time = true ∧ ∃ forward, found = some forward ∧
          forward.timestamp = time ∧ Amount.field v "fee_msat" = .ok forward.fee) := by
  obtain ⟨time, htime, h⟩ := bind_eq_ok_iff.mp h
  refine ⟨time, htime, ?_⟩
  cases hcontains : period.contains time with
  | false =>
    simp only [hcontains, Bool.not_false, if_true] at h
    cases h
    exact .inl ⟨rfl, rfl⟩
  | true =>
    simp only [hcontains, Bool.not_true, Bool.false_eq_true, if_false] at h
    obtain ⟨channelIn, -, h⟩ := bind_eq_ok_iff.mp h
    obtain ⟨channelOut, -, h⟩ := bind_eq_ok_iff.mp h
    obtain ⟨amountIn, -, h⟩ := bind_eq_ok_iff.mp h
    obtain ⟨amountOut, -, h⟩ := bind_eq_ok_iff.mp h
    obtain ⟨fee, hfee, h⟩ := bind_eq_ok_iff.mp h
    cases h
    exact .inr ⟨rfl, _, rfl, rfl, hfee⟩

/-- A forward that is read for a period lies in it. -/
theorem contains_of_readListed {v : Value} {forward : Forward}
    (h : readListed period v = .ok (some forward)) :
    period.contains forward.timestamp = true := by
  obtain ⟨time, -, ⟨-, hnone⟩ | ⟨hcontains, found, hfound, htime, -⟩⟩ := readListed_cases h
  · cases hnone
  · cases hfound
    rw [htime]
    exact hcontains

end Forward

namespace Node

/-- The forwards that the node lists for a period lie in it. -/
theorem listsWithin_offChain : offChain.ListsWithin := by
  intro period s forwards t h forward hforward
  obtain ⟨answer, _, -, h⟩ := ends_bind.mp h
  obtain ⟨hread, -⟩ := ends_lift.mp h
  obtain ⟨items, -, hread⟩ := bind_eq_ok_iff.mp hread
  obtain ⟨read, hmapM, hread⟩ := bind_eq_ok_iff.mp hread
  cases hread
  obtain ⟨found, hfound, hsome⟩ := List.mem_filterMap.mp hforward
  cases hsome
  obtain ⟨item, -, hitem⟩ := exists_of_mem_right (mapM_eq_ok_iff.mp hmapM) hfound
  exact Forward.contains_of_readListed hitem

/-- All entries of the report of the node lie in its period. -/
theorem contains_of_ends {request : ReportRequest} {priceAt : Int → Except Failure Price}
    {entries : List Entry} (h : Ends (source.reportWithPrices request priceAt) s entries t) :
    ∀ entry ∈ entries, request.period.contains entry.timestamp = true := by
  obtain ⟨onChain, s₁, offChain, s₂, honChain, hoffChain, rfl⟩ :=
    NodeSource.ends_reportWithPrices h
  intro entry hentry
  rcases List.mem_append.mp (List.mem_mergeSort.mp hentry) with hentry | hentry
  · exact OnChainSource.contains_of_ends honChain entry hentry
  · exact OffChainSource.contains_of_ends listsWithin_offChain hoffChain entry hentry

end Node

end NodeLedger
