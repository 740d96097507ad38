import NodeLedger.Proofs.Node.Groups
import NodeLedger.Proofs.Report.PaymentEntries

/-!
# Payments with pending parts

The parts of a payment are resolved one after the other.  The ledger does not wait for the last one:
a payment counts as settled as soon as one of its parts is complete, and then it pays what its
complete parts have paid by then.  If another part becomes complete, the entries of the payment in a
later report are others: they pay more, and may stand at a later time.

Main results:

- Definition `Payment.Resolves`: how a part may be listed later.
- Theorem `Payment.complete_of_resolves`: the complete parts are those there were, and those that
  have become complete.
- Structure `Payment.ChangesBy` and theorem `Payment.changesBy_of_resolves`: what parts that have
  become complete change about their payment.
- Theorem `Node.settled_with_first_part`: which payments of the node are in a report, and how they
  change afterwards.
-/

namespace NodeLedger

open List NodeLedger.Action

namespace Payment

/-! ## Parts that are resolved -/

/-- How a part may be listed later: as it is or, if it is pending, resolved in some way. -/
def Resolves (part later : Value) : Prop :=
  later = part ∨ isPending part = true ∧ isPending later = false ∧
    groupOf later = groupOf part ∧ idOf later = idOf part

/-- The parts that were pending and are complete when they are listed later. -/
def newlyComplete (parts later : List Value) : List Value :=
  ((parts.zip later).filter fun both => isPending both.1 && isComplete both.2).map (·.2)

variable {part : Value} {parts resolvedParts listed relisted : List Value}

/-- A part that is pending is not complete. -/
theorem not_isComplete_of_isPending (h : isPending part = true) : isComplete part = false := by
  unfold isPending Value.isText at h
  unfold isComplete Value.isText
  split at h
  · next text _ =>
    rw [beq_iff_eq.mp h]
    rfl
  · exact absurd h Bool.false_ne_true

theorem Resolves.groupOf_eq {later : Value} (h : Resolves part later) :
    groupOf later = groupOf part := by
  rcases h with rfl | ⟨-, -, hgroup, -⟩
  · rfl
  · exact hgroup

theorem Resolves.idOf_eq {later : Value} (h : Resolves part later) : idOf later = idOf part := by
  rcases h with rfl | ⟨-, -, -, hid⟩
  · rfl
  · exact hid

theorem newlyComplete_cons_of_pos {later : Value} (hpending : isPending part = true)
    (hcomplete : isComplete later = true) :
    newlyComplete (part :: parts) (later :: resolvedParts) =
      later :: newlyComplete parts resolvedParts := by
  simp [newlyComplete, hpending, hcomplete]

theorem newlyComplete_cons_of_neg {later : Value}
    (h : isPending part = true → isComplete later = false) :
    newlyComplete (part :: parts) (later :: resolvedParts) = newlyComplete parts resolvedParts := by
  cases hpending : isPending part with
  | false => simp [newlyComplete, hpending]
  | true => simp [newlyComplete, h hpending]

/-- The complete parts are those there were, and those that have become complete. -/
theorem complete_of_resolves (h : Forall₂ Resolves parts resolvedParts) :
    resolvedParts.filter isComplete ~
      parts.filter isComplete ++ newlyComplete parts resolvedParts := by
  induction h with
  | nil => exact .nil
  | @cons part later parts resolvedParts hpart _ ih =>
    rcases hpart with rfl | ⟨hpending, -⟩
    · rw [newlyComplete_cons_of_neg not_isComplete_of_isPending]
      by_cases hcomplete : isComplete later = true
      · rw [List.filter_cons_of_pos hcomplete, List.filter_cons_of_pos hcomplete]
        exact ih.cons later
      · rwa [List.filter_cons_of_neg hcomplete, List.filter_cons_of_neg hcomplete]
    · -- A pending part did not count before, and counts now if it has become complete.
      have hbefore : ¬ isComplete part = true :=
        Bool.eq_false_iff.mp (not_isComplete_of_isPending hpending)
      rw [List.filter_cons_of_neg hbefore]
      by_cases hcomplete : isComplete later = true
      · rw [newlyComplete_cons_of_pos hpending hcomplete, List.filter_cons_of_pos hcomplete]
        exact (ih.cons later).trans List.perm_middle.symm
      · rwa [newlyComplete_cons_of_neg fun _ => Bool.eq_false_iff.mpr hcomplete,
          List.filter_cons_of_neg hcomplete]

/-- Parts that are resolved stay with their payment. -/
theorem partsOf_of_resolves (h : Forall₂ Resolves listed relisted) (group : Option GroupKey) :
    Forall₂ Resolves (partsOf listed group) (partsOf relisted group) := by
  refine List.rel_filter ?_ h
  intro part later hpart
  dsimp only
  rw [hpart.groupOf_eq]

/-! ## What changes about a payment -/

/-- What parts that have become complete change about their payment: it pays what they have paid
besides, costs what they have sent besides, and is settled when the last of them is resolved if that
is later.  It keeps its number. -/
structure ChangesBy (fresh : List Value) (payment later : Payment) : Prop where
  number_eq : later.sequenceNumber = payment.sequenceNumber
  amount_eq : later.amount = payment.amount + (fresh.map (Value.msat · "amount_msat")).sum
  cost_eq : later.amount + later.fee =
    payment.amount + payment.fee + (fresh.map (Value.msat · "amount_sent_msat")).sum
  settleTime_eq : later.settleTime = (fresh.map resolved).foldl max payment.settleTime

/-- Only parts that have become complete change something about a payment. -/
theorem changesBy_of_resolves {payment later : Payment} (h : Forall₂ Resolves parts resolvedParts)
    (hpayment : Gathers parts payment) (hlater : Gathers resolvedParts later) :
    ChangesBy (newlyComplete parts resolvedParts) payment later := by
  have hperm := complete_of_resolves h
  have hsum : ∀ field, ((resolvedParts.filter isComplete).map (Value.msat · field)).sum =
      ((parts.filter isComplete).map (Value.msat · field)).sum +
        ((newlyComplete parts resolvedParts).map (Value.msat · field)).sum := by
    intro field
    rw [(hperm.map (Value.msat · field)).sum_eq, List.map_append, List.sum_append]
  refine ⟨?_, ?_, ?_, ?_⟩
  · have hids : parts.map idOf = resolvedParts.map idOf :=
      map_eq_map_of_forall₂ h fun _ _ _ hpart => hpart.idOf_eq.symm
    rw [hlater.sequenceNumber_eq, hpayment.sequenceNumber_eq, hids]
  · rw [hlater.amount_eq, hpayment.amount_eq, hsum]
  · rw [hlater.cost_eq, hpayment.cost_eq, hsum]
  · rw [hlater.settleTime_eq, hpayment.settleTime_eq, (hperm.map resolved).foldl_eq,
      List.map_append, List.foldl_append]

/-- Payments whose parts are listed again, resolved in some way, stand in the same order, and each
changes by the parts that have become complete. -/
theorem Grouped.changes {keys laterKeys : List GroupKey} {payments later : List Payment}
    (h : Grouped listed keys payments) (hlater : Grouped relisted laterKeys later)
    (hresolves : Forall₂ Resolves listed relisted) :
    Forall₂ (fun key (both : Payment × Payment) =>
      ChangesBy (newlyComplete (partsOf listed (some key)) (partsOf relisted (some key)))
        both.1 both.2) keys (payments.zip later) ∧ later.length = payments.length := by
  have hgroups : listed.map groupOf = relisted.map groupOf :=
    map_eq_map_of_forall₂ hresolves fun _ _ _ hpart => hpart.groupOf_eq.symm
  -- The groups begin with the same parts, so the payments stand under the same keys.
  have hkeys : laterKeys = keys := by
    have hsome := hlater.keys_eq
    rw [← hgroups, ← h.keys_eq] at hsome
    exact List.map_injective_iff.mpr (Option.some_injective _) hsome
  subst hkeys
  refine ⟨?_, hlater.made.length_eq.symm.trans h.made.length_eq⟩
  refine (forall₂_zip_right h.made hlater.made).imp ?_
  rintro key ⟨payment, after⟩ ⟨⟨-, hpayment⟩, -, hafter⟩
  exact changesBy_of_resolves (partsOf_of_resolves hresolves (some key)) hpayment hafter

end Payment

namespace Node

/-- Which payments of the node are in a report, and how they change afterwards.

There is one payment for each hash and group of the parts that the node lists.  It is succeeded if
and only if one of its parts is complete, whether others are pending or not, and the payments with
entries in a report are those succeeded ones whose last complete part was resolved in the period.
If the parts are listed again later, some of the pending ones resolved, each payment has changed by
those of its parts that have become complete: what these have paid and sent is added to its amount
and its fee, and it is settled when they are. -/
theorem settled_with_first_part {s t : Session} {payments : List Payment}
    (h : Ends Node.payments s payments t) :
    let listed := listedParts s.node
    ∃ keys : List Payment.GroupKey,
      keys.map some = (listed.map Payment.groupOf).eraseDups ∧
      Forall₂ (fun (key : Payment.GroupKey) (payment : Payment) =>
        let complete := (Payment.partsOf listed (some key)).filter Payment.isComplete
        (payment.status = .succeeded ↔ complete ≠ []) ∧
        payment.settleTime = (complete.map Payment.resolved).foldl max 0) keys payments ∧
      (∀ request entries, Reports request s entries →
        ((entries.filter Entry.isPayment).map Entry.line) ~
          (payments.filter (Payment.isSettledIn request.period)).flatMap Payment.lines) ∧
      ∀ s' later t', Ends Node.payments s' later t' →
        let relisted := listedParts s'.node
        Forall₂ Payment.Resolves listed relisted →
        later.length = payments.length ∧
        Forall₂ (fun (key : Payment.GroupKey) (both : Payment × Payment) =>
          Payment.ChangesBy (Payment.newlyComplete (Payment.partsOf listed (some key))
            (Payment.partsOf relisted (some key))) both.1 both.2) keys (payments.zip later) := by
  intro listed
  obtain ⟨keys, hgrouped⟩ := exists_grouped_of_ends h
  refine ⟨keys, hgrouped.keys_eq, ?_, fun request entries => lines_of_reports h, ?_⟩
  · refine hgrouped.made.imp ?_
    rintro key payment ⟨-, hgathers⟩
    refine ⟨?_, hgathers.settleTime_eq⟩
    rw [← beq_iff_eq, hgathers.succeeded_eq, List.any_eq_true, ne_eq, List.filter_eq_nil_iff]
    push Not
    rfl
  · intro s' later t' hends relisted hresolves
    obtain ⟨laterKeys, hlater⟩ := exists_grouped_of_ends hends
    obtain ⟨hchanges, hlength⟩ := hgrouped.changes hlater hresolves
    exact ⟨hlength, hchanges⟩

end Node

/-- One of two parts of a payment; it is complete. -/
def paidPart : Value :=
  .object [("payment_hash", .text "a"), ("groupid", .int 1), ("id", .int 1),
    ("destination", .text "far"), ("amount_msat", .int 500), ("amount_sent_msat", .int 510),
    ("status", .text "complete"), ("created_at", .int 90), ("completed_at", .int 100),
    ("payment_preimage", .text "x")]

/-- The other part; it is pending before it is complete as well. -/
def latePart (paid : Bool) : Value :=
  .object [("payment_hash", .text "a"), ("groupid", .int 1), ("id", .int 2),
    ("destination", .text "far"), ("amount_msat", .int 300), ("amount_sent_msat", .int 305),
    ("status", .text (if paid then "complete" else "pending")), ("created_at", .int 90),
    ("completed_at", if paid then .int 200 else .null)]

/-- A node that lists these two parts. -/
def twoPartNode (paid : Bool) (method : String) (_payload : Value) : Except Value Value :=
  match method with
  | "getinfo" => .ok (.object [("id", .text "own")])
  | "listsendpays" => .ok (.object [("payments", .list [paidPart, latePart paid])])
  | _ => .ok (.object [])

theorem groupOf_latePart (paid : Bool) :
    Payment.groupOf (latePart paid) = Payment.groupOf paidPart := by
  cases paid <;> decide +kernel

theorem resolves_latePart : Payment.Resolves (latePart false) (latePart true) := by
  refine .inr ⟨?_, ?_, (groupOf_latePart true).trans (groupOf_latePart false).symm, ?_⟩ <;>
    decide +kernel

/-- The payment of these parts is succeeded before both are complete. -/
theorem payments_twoPartNode (paid : Bool) : ∃ payment t,
    Ends Node.payments { node := twoPartNode paid } [payment] t ∧
      (payment.status, payment.settleTime, payment.amount, payment.fee) =
        if paid then (.succeeded, 200, 800, 15) else (.succeeded, 100, 500, 10) := by
  obtain ⟨payments, hends, houtline⟩ : ∃ payments,
      Ends Node.payments { node := twoPartNode paid } payments _ ∧
        payments.map (fun payment : Payment =>
            (payment.status, payment.settleTime, payment.amount, payment.fee)) =
          [if paid then (.succeeded, 200, 800, 15) else (.succeeded, 100, 500, 10)] := by
    apply exists_ends_of_outcome
    cases paid <;> decide +kernel
  obtain ⟨payment, rfl, hpayment⟩ := List.map_eq_singleton_iff.mp houtline
  exact ⟨payment, _, hends, hpayment⟩

/-- The payment of this node changes by its late part. -/
theorem Node.settled_with_first_part_twoPartNode :
    ∃ payment t later t', Ends Node.payments { node := twoPartNode false } [payment] t ∧
      Ends Node.payments { node := twoPartNode true } [later] t' ∧
      (payment.status, payment.settleTime, payment.amount, payment.fee) =
        (.succeeded, 100, 500, 10) ∧
      Forall₂ Payment.Resolves (listedParts (twoPartNode false)) (listedParts (twoPartNode true)) ∧
      Payment.ChangesBy [latePart true] payment later := by
  obtain ⟨payment, t, hpayment, houtline⟩ := payments_twoPartNode false
  obtain ⟨later, t', hlater, -⟩ := payments_twoPartNode true
  have hresolves : Forall₂ Payment.Resolves (listedParts (twoPartNode false))
      (listedParts (twoPartNode true)) := .cons (.inl rfl) (.cons resolves_latePart .nil)
  obtain ⟨keys, hkeys, -, -, hafter⟩ := settled_with_first_part hpayment
  obtain ⟨-, hchanges⟩ := hafter _ _ _ hlater hresolves
  obtain ⟨key, rest, hchange, hrest, rfl⟩ := List.forall₂_cons_right_iff.mp hchanges
  cases hrest
  have hgroups : ((listedParts (twoPartNode false)).map Payment.groupOf).eraseDups =
      [Payment.groupOf paidPart] := by
    decide +kernel
  have hkey : some key = Payment.groupOf paidPart := List.head_eq_of_cons_eq (hkeys.trans hgroups)
  have hparts : ∀ paid, Payment.partsOf (listedParts (twoPartNode paid))
      (Payment.groupOf paidPart) = [paidPart, latePart paid] := by
    intro paid
    refine List.filter_eq_self.mpr ?_
    intro part hpart
    rcases List.mem_pair.mp hpart with rfl | rfl
    · exact decide_eq_true rfl
    · exact decide_eq_true (groupOf_latePart paid)
  have hfresh : Payment.newlyComplete [paidPart, latePart false] [paidPart, latePart true] =
      [latePart true] := by
    rw [Payment.newlyComplete_cons_of_neg Payment.not_isComplete_of_isPending,
      Payment.newlyComplete_cons_of_pos (by decide +kernel) (by decide +kernel)]
    rfl
  rw [hkey, hparts, hparts, hfresh] at hchange
  exact ⟨payment, t, later, t', hpayment, hlater, houtline, hresolves, hchange⟩

/-- A payment one of whose parts is pending is succeeded, and has entries in a report.  They are
others when that part has become complete. -/
theorem Node.changes_twoPartNode :
    let request : ReportRequest := { period := ⟨0, 1000⟩, disableFiat := true }
    let before : Session := { node := twoPartNode false }
    let after : Session := { node := twoPartNode true }
    paidPart ∈ listedParts before.node ∧ latePart false ∈ listedParts before.node ∧
      Payment.groupOf (latePart false) = Payment.groupOf paidPart ∧
      Payment.isPending (latePart false) = true ∧
      (∃ payment t, Ends Node.payments before [payment] t ∧ payment.status = .succeeded) ∧
      (∃ entries, Reports request before entries ∧
        entries.map (fun entry => (entry.kind, entry.timestamp, entry.signedAmount)) =
          [(.payment, 100, -500), (.fee, 100, -10)]) ∧
      Forall₂ Payment.Resolves (listedParts before.node) (listedParts after.node) ∧
      ∃ entries, Reports request after entries ∧
        entries.map (fun entry => (entry.kind, entry.timestamp, entry.signedAmount)) =
          [(.payment, 200, -800), (.fee, 200, -15)] := by
  intro request before after
  let prices : Except Failure PriceSource := .error (.request .priceSourceRequired)
  have hreports : ∀ paid, ∃ entries, Reports request { node := twoPartNode paid } entries ∧
      entries.map (fun entry => (entry.kind, entry.timestamp, entry.signedAmount)) =
        if paid then [(.payment, 200, -800), (.fee, 200, -15)]
        else [(.payment, 100, -500), (.fee, 100, -10)] := by
    intro paid
    refine (exists_ends_of_outcome ?_).imp
      fun entries h => ⟨.inr ⟨prices, _, nofun, h.1⟩, h.2⟩
    unfold NodeSource.report NodeSource.reportWithPrices
    rw [Entry.sort_eq_foldr]
    cases paid <;> decide +kernel
  obtain ⟨payment, t, hpayment, houtline⟩ := payments_twoPartNode false
  refine ⟨.head _, .tail _ (.head _), groupOf_latePart false, ?_,
    ⟨payment, t, hpayment, (Prod.mk.inj houtline).1⟩, hreports false,
    .cons (.inl rfl) (.cons resolves_latePart .nil), hreports true⟩
  decide +kernel

end NodeLedger
