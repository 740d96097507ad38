import NodeLedger.Proofs.Decimal.Exact
import NodeLedger.Proofs.Decimal.Spelling
import NodeLedger.Proofs.Node.Events
import NodeLedger.Proofs.Node.Reconciliation

/-!
# Transactions in decoded form

A transaction of the wallet lists its outputs in any order, each with its place.  In decoded form
they stand in their places, so that an input finds the output that it spends by its place, and each
is worth a number of bitcoin, which may have to be written with an exponent.

Main results:

- Theorem `Wallet.exists_inOrder`: outputs that are numbered from zero are put in their places.
- Theorem `Fee.exact_bitcoin`: an amount that is told in bitcoin comes to whole satoshis without
  rounding, or is refused.
- Theorem `Wallet.exists_decoded`: what a transaction is in decoded form.
-/

namespace NodeLedger

open List NodeLedger.Action NodeLedger.Numeral

/-! ## Outputs in their places -/

theorem Value.oneInUnits_pos : 0 < oneInUnits := by
  decide +kernel

namespace Wallet

theorem precedes_int (m n : Int) : precedes (.int m) (.int n) = .ok (decide (m < n)) := by
  have hless : m * Value.oneInUnits < n * Value.oneInUnits ↔ m < n :=
    Int.mul_lt_mul_right Value.oneInUnits_pos
  simp [precedes, Value.key?, Key.precedes?, hless]

/-- An output with the number of its place. -/
def keyed (entry : Int × Value) : Value × Value :=
  (.int entry.1, entry.2)

/-- An output that is put among outputs in order leaves them in order. -/
theorem exists_place (new : Int × Value) {placed : List (Int × Value)}
    (hsorted : placed.Pairwise fun a b => a.1 ≤ b.1) :
    ∃ after, place (placed.map keyed) (keyed new) = .ok (after.map keyed) ∧ after ~ new :: placed ∧
      after.Pairwise fun a b => a.1 ≤ b.1 := by
  induction placed with
  | nil => exact ⟨[new], rfl, .refl _, List.pairwise_singleton _ _⟩
  | cons old rest ih =>
    obtain ⟨hleast, hrest⟩ := List.pairwise_cons.mp hsorted
    have hplace : place ((old :: rest).map keyed) (keyed new) =
        if new.1 < old.1 then .ok (keyed new :: keyed old :: rest.map keyed)
        else do return keyed old :: (← place (rest.map keyed) (keyed new)) := by
      rw [List.map_cons, place, keyed, keyed, precedes_int]
      by_cases hless : new.1 < old.1 <;> simp [hless] <;> rfl
    rw [hplace]
    by_cases hless : new.1 < old.1
    · refine ⟨new :: old :: rest, if_pos hless, .refl _, ?_⟩
      rw [List.pairwise_cons, List.forall_mem_cons]
      exact ⟨⟨hless.le, fun b hb => hless.le.trans (hleast b hb)⟩, hsorted⟩
    · obtain ⟨after, hafter, hperm, hordered⟩ := ih hrest
      refine ⟨old :: after, ?_, (hperm.cons old).trans (.swap new old rest), ?_⟩
      · rw [if_neg hless, hafter]
        rfl
      · rw [List.pairwise_cons]
        refine ⟨fun b hb => ?_, hordered⟩
        rcases List.mem_cons.mp (hperm.mem_iff.mp hb) with rfl | hmem
        · omega
        · exact hleast b hmem

/-- So all outputs are put in order one by one. -/
theorem exists_foldlM_place (entries : List (Int × Value)) {placed : List (Int × Value)}
    (hsorted : placed.Pairwise fun a b => a.1 ≤ b.1) :
    ∃ after, (entries.map keyed).foldlM place (placed.map keyed) = .ok (after.map keyed) ∧
      after ~ placed ++ entries ∧ after.Pairwise fun a b => a.1 ≤ b.1 := by
  induction entries generalizing placed with
  | nil => exact ⟨placed, rfl, by simp, hsorted⟩
  | cons entry entries ih =>
    obtain ⟨between, hplace, hperm, hordered⟩ := exists_place entry hsorted
    obtain ⟨after, hafter, hperm', hordered'⟩ := ih hordered
    refine ⟨after, ?_, ?_, hordered'⟩
    · rw [List.map_cons, List.foldlM_cons, hplace]
      exact hafter
    · exact hperm'.trans ((hperm.append_right entries).trans perm_middle.symm)

/-- The place of an output, the first one if none is told. -/
def placeOf (output : Value) : Value :=
  output.fieldOr "index" (.int 0)

/-- The first so many places. -/
def places (count : Nat) : List Value :=
  (List.range count).map fun i : Nat => .int i

/-- The places of outputs are the first ones, in any order. -/
structure Numbered (outputs : List Value) : Prop where
  isObject : ∀ output ∈ outputs, output.IsObject
  placed : outputs.map placeOf ~ places outputs.length

/-- The number of a place. -/
def numberOf : Value → Int
  | .int i => i
  | _ => 0

theorem Numbered.placeOf_eq {outputs : List Value} (h : Numbered outputs) {output : Value}
    (houtput : output ∈ outputs) : placeOf output = .int (numberOf (placeOf output)) := by
  have hmem := h.placed.mem_iff.mp (List.mem_map_of_mem houtput)
  obtain ⟨i, -, hi⟩ := List.mem_map.mp hmem
  rw [← hi]
  rfl

/-- What is put in order is each output with its place. -/
theorem Numbered.mapM_indexOf {outputs : List Value} (h : Numbered outputs) :
    outputs.mapM (fun output => do return (← indexOf output, output)) =
      (.ok ((outputs.map fun output => (numberOf (placeOf output), output)).map keyed) :
        Except Failure _) := by
  rw [List.map_map, mapM_eq_ok_iff, forall₂_map_right_iff, forall₂_same]
  intro output houtput
  unfold indexOf
  rw [(h.isObject output houtput).fieldD_eq]
  exact congrArg (fun place => Except.ok (place, output)) (h.placeOf_eq houtput)

/-- Outputs whose places are the first ones are put in their places. -/
theorem exists_inOrder {outputs : List Value} (h : Numbered outputs) :
    ∃ ordered, inOrder outputs = .ok ordered ∧ ordered ~ outputs ∧
      ordered.map placeOf = places outputs.length := by
  obtain ⟨after, hfold, hperm, hsorted⟩ :=
    exists_foldlM_place (outputs.map fun output => (numberOf (placeOf output), output))
      List.Pairwise.nil
  rw [List.nil_append] at hperm
  have houtputs : after.map (·.2) ~ outputs := by
    simpa [Function.comp_def] using hperm.map (·.2)
  have hnumbers : after.map (·.1) = (List.range outputs.length).map fun i : Nat => (i : Int) := by
    have hplaced : after.map (·.1) ~ (List.range outputs.length).map fun i : Nat => (i : Int) := by
      have hleft : after.map (·.1) ~ (outputs.map placeOf).map numberOf := by
        simpa [Function.comp_def] using hperm.map (·.1)
      simpa [places, Function.comp_def, numberOf] using hleft.trans (h.placed.map numberOf)
    have hrange : ((List.range outputs.length).map fun i : Nat => (i : Int)).Pairwise (· ≤ ·) := by
      rw [List.pairwise_map]
      exact List.pairwise_lt_range.imp fun hlt => by omega
    refine List.Perm.eq_of_pairwise (fun _ _ _ _ => le_antisymm) ?_ hrange hplaced
    rwa [List.pairwise_map]
  have hplaces : ∀ entry ∈ after, placeOf entry.2 = .int entry.1 := by
    intro entry hentry
    obtain ⟨output, houtput, rfl⟩ := List.mem_map.mp (hperm.mem_iff.mp hentry)
    exact h.placeOf_eq houtput
  refine ⟨after.map (·.2), ?_, houtputs, ?_⟩
  · unfold inOrder arranged
    rw [h.mapM_indexOf]
    refine bind_eq_ok_iff.mpr ⟨_, rfl, bind_eq_ok_iff.mpr ⟨_, hfold, ?_⟩⟩
    rw [List.map_map]
    rfl
  · calc
      (after.map (·.2)).map placeOf = after.map fun entry => .int entry.1 := by
        rw [List.map_map]
        exact List.map_congr_left hplaces
      _ = (after.map (·.1)).map .int := by rw [List.map_map]; rfl
      _ = places outputs.length := by rw [hnumbers, List.map_map]; rfl

end Wallet

/-! ## Amounts in bitcoin -/

namespace Fee

/-- What some amounts in thousandths of a satoshi come to: their sum in satoshis if each of them is
whole, or else the refusal of one that is not. -/
inductive Exact (amounts : List Int) : Except Failure Int → Prop
  | whole (sats : Int) (whole : ∀ amount ∈ amounts, 1000 ∣ amount)
      (sum : amounts.sum = sats * 1000) : Exact amounts (.ok sats)
  | refused (text : String) (broken : ∃ amount ∈ amounts, ¬ 1000 ∣ amount) :
      Exact amounts (.error (.value (.bitcoinAmount text)))

/-- What a value in bitcoin comes to if it is a finite number of satoshis. -/
theorem satsOfBtc_eq {value : Value} {btc : Decimal} {negative : Bool} {m : Nat} {f : Int}
    (hread : value.toDecimal = .ok btc) (hmul : btc.mul satsPerBtc = .ok (.finite negative m f)) :
    satsOfBtc value = if Decimal.isWhole m f then .ok (Decimal.truncate negative m f)
      else .error (.value (.bitcoinAmount value.display)) := by
  unfold satsOfBtc
  simp only [hread, bind, Except.bind, hmul]
  rfl

/-- An amount of no more than 28 digits that is told in bitcoin. -/
theorem exists_bitcoin {msat : Nat} (h : msat < 10 ^ 28) :
    ∃ c e, (Decimal.ofInt msat).div Amount.perBitcoin = .ok (.finite false c e) ∧
      (Value.decimal (.finite false c e)).toDecimal = .ok (.finite false c e) ∧
      ∃ m f, (Decimal.finite false c e).mul satsPerBtc = .ok (.finite false m f) ∧
        Decimal.Counts 11 m f (msat * 10 ^ 8) := by
  obtain ⟨c, e, hdiv, hcounts, he⟩ :=
    Decimal.exists_div_pow h (show Decimal.minExponent ≤ -((11 : Nat) : Int) by decide)
  have hc : c < 10 ^ 28 := lt_of_le_of_lt hcounts.le h
  obtain ⟨m, f, hmul, hproduct⟩ :=
    Decimal.exists_mul_pow hc hcounts (k := 8) (by decide) he (by decide)
  refine ⟨c, e, hdiv, ?_, m, f, hmul, hproduct⟩
  have hread : Decimal.read (Decimal.text (.finite false c e)) = .ok (.finite false c e) := by
    rw [Decimal.read_text]
    have hdigits := Decimal.digitCount_le_precision hc
    have hlow := hcounts.le_exponent
    unfold Decimal.representable Decimal.adjusted
    simp only [Decimal.leastExponent, Decimal.greatestExponent, Decimal.precision] at hdigits ⊢
    refine if_pos ⟨by omega, ?_⟩
    split <;> omega
  unfold Value.toDecimal
  rw [Value.display, hread]

/-- An amount that is told in bitcoin comes to whole satoshis without rounding, or is refused. -/
theorem exact_bitcoin {msat : Int} (hpos : 0 ≤ msat) (h : msat < 10 ^ 28) :
    ∃ btc, (Decimal.ofInt msat).div Amount.perBitcoin = .ok btc ∧
      Exact [msat] (satsOfBtc (.decimal btc)) := by
  obtain ⟨n, rfl⟩ := Int.eq_ofNat_of_zero_le hpos
  obtain ⟨c, e, hdiv, hread, m, f, hmul, hcounts⟩ :=
    exists_bitcoin (show n < 10 ^ 28 by exact_mod_cast h)
  refine ⟨_, hdiv, ?_⟩
  have hbroken : Decimal.isWhole m f = true ↔ (1000 : Int) ∣ n := by
    rw [hcounts.isWhole_iff]
    omega
  rw [satsOfBtc_eq hread hmul]
  by_cases hwhole : (1000 : Int) ∣ n
  · rw [if_pos (hbroken.mpr hwhole), hcounts.truncate_eq]
    refine .whole _ (by simpa using hwhole) ?_
    rw [List.sum_singleton]
    omega
  · rw [if_neg (mt hbroken.mp hwhole)]
    exact .refused _ (by simpa using hwhole)

/-- The order of the amounts does not matter. -/
theorem Exact.perm {amounts amounts' : List Int} {r : Except Failure Int} (h : Exact amounts r)
    (hperm : amounts ~ amounts') : Exact amounts' r := by
  cases h with
  | whole sats hwhole hsum =>
    refine .whole sats (fun amount hamount => hwhole amount (hperm.mem_iff.mpr hamount)) ?_
    rw [← hperm.sum_eq, hsum]
  | refused text hbroken =>
    obtain ⟨amount, hamount, hpart⟩ := hbroken
    exact .refused text ⟨amount, hperm.mem_iff.mp hamount, hpart⟩

/-- Amounts that are read one after the other come to their sum, or the first that is not whole is
refused. -/
theorem exact_mapM {α : Type} {f : α → Except Failure Int} {amounts : List Int} {as : List α}
    (h : Forall₂ (fun amount a => Exact [amount] (f a)) amounts as) :
    Exact amounts ((as.mapM f).map Amount.total) := by
  induction h with
  | nil => exact .whole 0 (by simp) (by simp)
  | @cons amount a amounts as hfirst _ ih =>
    rw [List.mapM_cons]
    generalize f a = first at hfirst
    generalize as.mapM f = rest at ih
    cases hfirst with
    | refused text hbroken =>
      refine .refused text ?_
      simpa using Or.inl hbroken
    | whole sats hwhole hsum =>
      cases rest with
      | error failure =>
        cases ih with
        | refused text hbroken =>
          obtain ⟨other, hother, hpart⟩ := hbroken
          exact .refused text ⟨other, List.mem_cons_of_mem amount hother, hpart⟩
      | ok rest =>
        cases ih with
        | whole _ hwhole' hsum' =>
          refine .whole (sats + Amount.total rest) ?_ ?_
          · rw [List.forall_mem_cons]
            exact ⟨hwhole amount List.mem_cons_self, hwhole'⟩
          · rw [List.sum_singleton] at hsum
            rw [List.sum_cons, hsum, hsum', Int.add_mul]

end Fee

/-! ## Decoded form -/

namespace Wallet

/-- A transaction that can be told in decoded form.  Its inputs name what they spend; its outputs
have the first places, in any order, and none is worth more than can be told. -/
structure Decodes (tx : Value) : Prop where
  inputs : itemsOf tx "inputs" = .ok (itemsIn tx "inputs")
  outputs : itemsOf tx "outputs" = .ok (itemsIn tx "outputs")
  named : ∀ input ∈ itemsIn tx "inputs",
    ∃ txid index, input.required "txid" = .ok txid ∧ input.required "index" = .ok index
  numbered : Numbered (itemsIn tx "outputs")
  amounts : ∀ output ∈ itemsIn tx "outputs",
    0 ≤ output.msat "amount_msat" ∧ output.msat "amount_msat" < 10 ^ 28

/-- An output in decoded form is worth its amount, or refused. -/
theorem exists_decodedOutput {output : Value} (hobject : output.IsObject)
    (hpos : 0 ≤ output.msat "amount_msat") (hmax : output.msat "amount_msat" < 10 ^ 28) :
    ∃ v, decodedOutput output = .ok v ∧
      Fee.Exact [output.msat "amount_msat"] (Fee.worth v) := by
  obtain ⟨btc, hdiv, hexact⟩ := Fee.exact_bitcoin hpos hmax
  refine ⟨.object [("value", .decimal btc), ("n", placeOf output)], ?_, hexact⟩
  unfold decodedOutput indexOf
  rw [hobject.count_eq, hobject.fieldD_eq]
  unfold Value.msat at hdiv
  simp only [bind, Except.bind, hdiv]
  rfl

/-- What a transaction is in decoded form: its inputs as they are listed, and its outputs in their
places, each worth its amount. -/
theorem exists_decoded {tx : Value} (h : Decodes tx) (txid : Value) :
    ∃ ordered vin vout,
      decoded txid tx = .ok (.object [("txid", txid), ("vin", .list vin), ("vout", .list vout)]) ∧
      (itemsIn tx "inputs").mapM decodedInput = .ok vin ∧
      ordered ~ itemsIn tx "outputs" ∧
      ordered.map placeOf = places (itemsIn tx "outputs").length ∧
      Forall₂ (fun output v => Fee.Exact [output.msat "amount_msat"] (Fee.worth v))
        ordered vout := by
  obtain ⟨ordered, hordered, hperm, hplaces⟩ := exists_inOrder h.numbered
  have hinputs : ∀ input ∈ itemsIn tx "inputs", ∃ v, decodedInput input = .ok v := by
    intro input hinput
    obtain ⟨id, index, hid, hindex⟩ := h.named input hinput
    exact ⟨_, bind_eq_ok_iff.mpr ⟨id, hid, bind_eq_ok_iff.mpr ⟨index, hindex, rfl⟩⟩⟩
  have houtputs : ∀ output ∈ ordered, ∃ v, decodedOutput output = .ok v ∧
      Fee.Exact [output.msat "amount_msat"] (Fee.worth v) := by
    intro output houtput
    have hmem := hperm.mem_iff.mp houtput
    obtain ⟨hpos, hmax⟩ := h.amounts output hmem
    exact exists_decodedOutput (h.numbered.isObject output hmem) hpos hmax
  obtain ⟨vin, hvin⟩ := exists_forall₂ hinputs
  obtain ⟨vout, hvout⟩ := exists_forall₂ houtputs
  have hread : (itemsIn tx "inputs").mapM decodedInput = .ok vin := mapM_eq_ok_iff.mpr hvin
  have hwritten : ordered.mapM decodedOutput = .ok vout :=
    mapM_eq_ok_iff.mpr (hvout.imp fun _ _ hv => hv.1)
  refine ⟨ordered, vin, vout, ?_, hread, hperm, hplaces, hvout.imp fun _ _ hv => hv.2⟩
  unfold decoded inputsOf
  rw [h.outputs, h.inputs]
  refine bind_eq_ok_iff.mpr ⟨_, rfl, bind_eq_ok_iff.mpr ⟨_, hordered, ?_⟩⟩
  refine bind_eq_ok_iff.mpr ⟨_, rfl, bind_eq_ok_iff.mpr ⟨_, hread, ?_⟩⟩
  exact bind_eq_ok_iff.mpr ⟨_, hwritten, rfl⟩

end Wallet

end NodeLedger
