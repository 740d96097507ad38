import NodeLedger.Proofs.Record.Selection

/-!
# Records in another order

What is selected of some records does not depend on the order in which they are listed, and neither
does whether they pass the checks that are made on the way.

Main results:

- Theorem `Transaction.select_of_perm`: the transactions of a period.
- Theorem `ResolvedPayment.checkDistinct_iff`: no two payments have one hash if the keys of the
  hashes are all different; theorem `ResolvedPayment.checkDistinct_of_perm` follows.
-/

namespace NodeLedger

open List

/-! ## Transactions -/

namespace Transaction

variable {sweeps sweeps' : List Key}

/-- Taking out fees does not depend on the order of the sweeps, nor on how often each is listed. -/
theorem withoutFee_congr (h : ∀ key, key ∈ sweeps ↔ key ∈ sweeps') :
    withoutFee sweeps = withoutFee sweeps' := by
  funext tx
  unfold withoutFee
  simp only [h]

/-- What is selected of some transactions is selected in any order of them. -/
theorem select_of_perm {period : Period} {unconfirmedAt : Option Int}
    {txs txs' kept : List Transaction}
    (hselect : select period unconfirmedAt sweeps txs = .ok kept) (htxs : txs ~ txs')
    (hsweeps : ∀ key, key ∈ sweeps ↔ key ∈ sweeps') :
    ∃ kept', select period unconfirmedAt sweeps' txs' = .ok kept' ∧ kept ~ kept' := by
  have hduring : during period unconfirmedAt txs ~ during period unconfirmedAt txs' :=
    (htxs.filterMap _).filter _
  unfold select at hselect ⊢
  rw [← withoutFee_congr hsweeps]
  exact mapM_eq_ok_of_perm hselect hduring

end Transaction

/-! ## Payments -/

namespace ResolvedPayment

variable {payments payments' : List ResolvedPayment}

/-- Hashes pass the check if they have keys, which are different from each other and from those seen
so far. -/
theorem check_iff {seen : List Key} {hashes : List Value} :
    checkDistinct.check seen hashes = .ok () ↔
      ∃ keys, hashes.mapM Value.key = .ok keys ∧ keys.Nodup ∧ ∀ key ∈ keys, key ∉ seen := by
  simp only [mapM_eq_ok_iff]
  induction hashes generalizing seen with
  | nil => simp [checkDistinct.check]
  | cons hash rest ih =>
    unfold checkDistinct.check
    rw [bind_eq_ok_iff]
    constructor
    · rintro ⟨key, hkey, h⟩
      split at h
      · cases h
      · next hnew =>
        obtain ⟨keys, hkeys, hnodup, hseen⟩ := ih.mp h
        refine ⟨key :: keys, .cons hkey hkeys, ?_, ?_⟩
        · refine List.nodup_cons.mpr ⟨?_, hnodup⟩
          intro hmem
          exact hseen key hmem List.mem_cons_self
        · intro other hother
          rcases List.mem_cons.mp hother with rfl | hother
          · exact hnew
          · intro hmem
            exact hseen other hother (List.mem_cons_of_mem key hmem)
    · rintro ⟨_, hall, hnodup, hseen⟩
      obtain ⟨key, keys, hkey, hkeys, rfl⟩ := forall₂_cons_left_iff.mp hall
      obtain ⟨hnotMem, hnodup⟩ := List.nodup_cons.mp hnodup
      refine ⟨key, hkey, ?_⟩
      rw [if_neg (hseen key List.mem_cons_self)]
      refine ih.mpr ⟨keys, hkeys, hnodup, ?_⟩
      intro other hother hmem
      rcases List.mem_cons.mp hmem with rfl | hmem
      · exact hnotMem hother
      · exact hseen other (List.mem_cons_of_mem key hother) hmem

/-- No two payments have one hash if the keys of their hashes are all different. -/
theorem checkDistinct_iff :
    checkDistinct payments = .ok () ↔
      ∃ keys, (payments.map (·.payment.paymentHash)).mapM Value.key = .ok keys ∧ keys.Nodup := by
  unfold checkDistinct
  rw [check_iff]
  simp

/-- Payments with different hashes have different hashes in any order. -/
theorem checkDistinct_of_perm (h : checkDistinct payments = .ok ()) (hperm : payments ~ payments') :
    checkDistinct payments' = .ok () := by
  rw [checkDistinct_iff] at h ⊢
  obtain ⟨keys, hkeys, hnodup⟩ := h
  obtain ⟨keys', hkeys', hkeysPerm⟩ := mapM_eq_ok_of_perm hkeys (hperm.map _)
  exact ⟨keys', hkeys', hkeysPerm.nodup_iff.mp hnodup⟩

end ResolvedPayment

end NodeLedger
