import NodeLedger.Proofs.Session.Outcome
import NodeLedger.Record.Invoice
import NodeLedger.Record.Settlement
import NodeLedger.Record.Transaction

/-!
# Records of a period

Transactions, invoices and payments are selected by their times.  What is selected for a part of a
period is what of the selection for the whole falls into the part.

Main results:

- Theorem `Period.check_eq_ok_iff`: what a period has to be.
- Theorem `Transaction.withoutFee_eq_ok`: taking out the fee changes nothing but the amount, and
  only a sweep receives something and has a fee.
- Theorems `Transaction.select_within`, `Invoice.select_within` and `ResolvedPayment.select_within`.
- Theorem `ResolvedPayment.checkDistinct_of_sublist`: payments with different hashes have different
  hashes if some of them are left out.
-/

namespace NodeLedger

open List

/-! ## Periods -/

namespace Period

/-- A period that is checked does not end before it starts, and is over by now if it has to be. -/
theorem check_eq_ok_iff {period : Period} {rules : PeriodRules} {now : Int} {u : Unit} :
    period.check rules now = .ok u ↔
      period.start ≤ period.stop ∧ (rules.nonempty = true → period.start ≠ period.stop) ∧
        (rules.past = true → period.stop ≤ now) := by
  unfold check
  by_cases hbefore : period.stop < period.start
  · have hnot : ¬ period.start ≤ period.stop := by omega
    simp [hbefore, hnot]
  · have hle : period.start ≤ period.stop := by omega
    by_cases hempty : period.start = period.stop <;> by_cases hfuture : now < period.stop <;>
      cases rules.nonempty <;> cases rules.past <;> simp [hbefore, hle, hempty, hfuture] <;> omega

variable {part whole : Period}

/-- A period is a part of another one. -/
structure Within (part whole : Period) : Prop where
  start_le : whole.start ≤ part.start
  stop_le : part.stop ≤ whole.stop

/-- What lies in a part lies in the whole. -/
theorem Within.contains_of_contains (h : part.Within whole) {time : Int}
    (htime : part.contains time = true) : whole.contains time = true := by
  obtain ⟨hstart, hstop⟩ := (part.contains_iff time).mp htime
  have := h.start_le
  have := h.stop_le
  exact (whole.contains_iff time).mpr ⟨by omega, by omega⟩

/-- Whether something lies in the whole does not matter for whether it lies in a part. -/
theorem Within.contains_and (h : part.Within whole) (time : Int) :
    (part.contains time && whole.contains time) = part.contains time := by
  cases hpart : part.contains time with
  | false => rfl
  | true => rw [h.contains_of_contains hpart, Bool.and_self]

end Period

/-! ## Transactions -/

namespace Transaction

/-- What a transaction moves, in satoshis: the net change of the wallet, without the fee that a send
includes. -/
def moved (tx : Transaction) : Int :=
  if tx.amount < 0 then tx.amount + tx.fee.natAbs else tx.amount

variable {sweeps : List Key} {tx kept : Transaction}

/-- Taking out the fee changes nothing but the amount; a receive that has a fee is a sweep. -/
theorem withoutFee_eq_ok (h : tx.withoutFee sweeps = .ok kept) :
    kept = { tx with amount := tx.moved } ∧
      (0 < tx.amount → tx.fee ≠ 0 → ∃ key ∈ sweeps, tx.txid.key = .ok key) := by
  unfold withoutFee at h
  by_cases hsend : tx.amount < 0
  · rw [if_pos hsend] at h
    cases h
    have hmoved : tx.moved = tx.amount + tx.fee.natAbs := if_pos hsend
    refine ⟨by rw [hmoved], ?_⟩
    intro hreceive
    omega
  · have hmoved : tx.moved = tx.amount := if_neg hsend
    rw [if_neg hsend] at h
    by_cases hfree : tx.amount = 0 ∨ tx.fee = 0
    · rw [if_pos hfree] at h
      cases h
      refine ⟨by rw [hmoved], ?_⟩
      intro hreceive hfee
      omega
    · rw [if_neg hfree] at h
      obtain ⟨key, hkey, h⟩ := bind_eq_ok_iff.mp h
      by_cases hsweep : key ∈ sweeps
      · rw [if_pos hsweep] at h
        cases h
        exact ⟨by rw [hmoved], fun _ _ => ⟨key, hsweep, hkey⟩⟩
      · rw [if_neg hsweep] at h
        cases h

/-- The transactions of a part are those of the whole that fall into the part. -/
theorem during_within {part whole : Period} (h : part.Within whole) (unconfirmedAt : Option Int)
    (txs : List Transaction) :
    during part unconfirmedAt txs =
      (during whole unconfirmedAt txs).filter fun tx => part.contains tx.timestamp := by
  unfold during
  simp only [List.filter_filter, h.contains_and]

/-- So are those that have been selected and have had their fees taken out. -/
theorem select_within {part whole : Period} (h : part.Within whole) {unconfirmedAt : Option Int}
    {txs selected : List Transaction}
    (hselect : select whole unconfirmedAt sweeps txs = .ok selected) :
    select part unconfirmedAt sweeps txs =
      .ok (selected.filter fun tx => part.contains tx.timestamp) := by
  unfold select at hselect ⊢
  rw [mapM_eq_ok_iff] at hselect ⊢
  rw [during_within h]
  refine List.rel_filter ?_ hselect
  intro tx kept hkept
  rw [(withoutFee_eq_ok hkept).1]

end Transaction

/-! ## Invoices and payments -/

/-- The invoices of a part are those of the whole that fall into the part. -/
theorem Invoice.select_within {part whole : Period} (h : part.Within whole)
    (invoices : List Invoice) :
    Invoice.select part invoices =
      (Invoice.select whole invoices).filter fun invoice => part.contains invoice.settleDate := by
  unfold Invoice.select
  simp only [List.filter_filter, Bool.and_left_comm, h.contains_and]

namespace ResolvedPayment

/-- The payments of a part are those of the whole that fall into the part. -/
theorem select_within {part whole : Period} (h : part.Within whole)
    (payments : List ResolvedPayment) :
    select part payments =
      (select whole payments).filter fun resolved => part.contains resolved.settleTime := by
  unfold select
  simp only [List.filter_filter, Bool.and_left_comm, h.contains_and]

/-- Hashes that are all different, and different from those seen, are so if some are left out. -/
theorem check_of_sublist {some all : List Value} (hsublist : some <+ all) {seen before : List Key}
    (hseen : ∀ key ∈ seen, key ∈ before) (h : checkDistinct.check before all = .ok ()) :
    checkDistinct.check seen some = .ok () := by
  induction hsublist generalizing seen before with
  | slnil => rfl
  | @cons some all hash _ ih =>
    obtain ⟨key, -, h⟩ := bind_eq_ok_iff.mp h
    split at h
    · cases h
    · exact ih (fun key' hkey' => List.mem_cons_of_mem key (hseen key' hkey')) h
  | @cons_cons some all hash _ ih =>
    obtain ⟨key, hkey, h⟩ := bind_eq_ok_iff.mp h
    split at h
    · cases h
    · next hnew =>
      refine bind_eq_ok_iff.mpr ⟨key, hkey, ?_⟩
      rw [if_neg (fun hmem => hnew (hseen key hmem))]
      refine ih ?_ h
      intro key' hkey'
      rcases List.mem_cons.mp hkey' with rfl | hkey'
      · exact List.mem_cons_self
      · exact List.mem_cons_of_mem key (hseen key' hkey')

/-- Payments with different hashes have different hashes if some of them are left out. -/
theorem checkDistinct_of_sublist {some all : List ResolvedPayment} (hsublist : some <+ all)
    (h : checkDistinct all = .ok ()) : checkDistinct some = .ok () :=
  check_of_sublist (hsublist.map _) (fun _ hkey => hkey) h

end ResolvedPayment

end NodeLedger
