import NodeLedger.Proofs.Node.Groups
import NodeLedger.Proofs.Numeral.Decimal
import NodeLedger.Proofs.Report.PaymentEntries

/-!
# References of payments

Payments of one hash are told apart by their numbers.  The reference of a payment begins with its
number, and a mark parts this from what follows; the reference of the fee is longer.  So no two
entries of payments have one reference, as long as the parts that the node lists have different
ids: the number of a payment is the id of one of its parts, and no part belongs to two payments.

Main results:

- Theorem `Payment.number_of_reference`: a reference tells the number of its payment.
- Theorem `Payment.nodup_references`: payments with different numbers have different references.
- Theorem `Node.payments_grouped`: what the payments of the node are made of, and that the entries
  of payments in a report have different references.
-/

namespace NodeLedger

open List NodeLedger.Action

namespace Payment

/-- The references of a payment begin with its number. -/
theorem exists_text_of_reference {payment : Payment} {line : PaymentLine}
    (h : line ∈ payment.lines) :
    ∃ rest, line.reference = .text (toString payment.sequenceNumber ++ ":" ++ rest) := by
  unfold lines at h
  rcases List.mem_cons.mp h with rfl | h
  · exact ⟨payment.preimage.display, rfl⟩
  · split at h
    · exact absurd h List.not_mem_nil
    · rw [List.mem_singleton.mp h]
      exact ⟨payment.preimage.display ++ ":-1", congrArg Value.text (String.append_assoc ..)⟩

/-- A reference tells the number of its payment. -/
theorem number_of_reference {payment other : Payment} {line line' : PaymentLine}
    (h : line ∈ payment.lines) (h' : line' ∈ other.lines)
    (hsame : line.reference = line'.reference) :
    payment.sequenceNumber = other.sequenceNumber := by
  obtain ⟨rest, hrest⟩ := exists_text_of_reference h
  obtain ⟨rest', hrest'⟩ := exists_text_of_reference h'
  rw [hrest, hrest'] at hsame
  exact Numeral.eq_of_numeral_append (Value.text.inj hsame)

/-- The reference of a fee is not that of the payment. -/
theorem nodup_reference (payment : Payment) : (payment.lines.map (·.reference)).Nodup := by
  have hne : payment.reference ≠ feeReference payment.reference := by
    intro hsame
    have htexts : payment.reference.display = payment.reference.display ++ ":-1" :=
      congrArg Value.display hsame
    have hlengths := congrArg String.length htexts
    rw [String.length_append] at hlengths
    have hmark : ":-1".length = 3 := rfl
    omega
  unfold lines
  split
  · exact List.nodup_singleton _
  · simpa using hne

/-- Payments with different numbers have different references. -/
theorem nodup_references {payments : List Payment}
    (h : (payments.map (·.sequenceNumber)).Nodup) :
    ((payments.flatMap lines).map (·.reference)).Nodup := by
  rw [List.map_flatMap, List.nodup_flatMap]
  refine ⟨fun payment _ => payment.nodup_reference, (List.pairwise_map.mp h).imp ?_⟩
  intro payment other hne reference hreference hreference'
  obtain ⟨line, hline, rfl⟩ := List.mem_map.mp hreference
  obtain ⟨line', hline', hsame⟩ := List.mem_map.mp hreference'
  exact hne (number_of_reference hline hline' hsame.symm)

end Payment

namespace Node

/-- What the payments of the node are made of.

There is one payment for each hash and group of the parts that the node lists, in the order in which
these are first listed.  It has the parts of that hash and group in the order in which they are
listed, so that all payments together have as many as there are.  It pays what the complete ones
among them have paid and costs what these have sent, and it is succeeded if there is such a part,
else under way if there is one that is pending, else failed.  If the parts have different ids, the
entries of payments and of their fees in a report have different references. -/
theorem payments_grouped {s t : Session} {payments : List Payment}
    (h : Ends Node.payments s payments t) :
    let listed := listedParts s.node
    ∃ keys : List Payment.GroupKey,
      keys.map some = (listed.map Payment.groupOf).eraseDups ∧
      Forall₂ (fun (key : Payment.GroupKey) (payment : Payment) =>
        let parts := Payment.partsOf listed (some key)
        payment.paymentHash.key? = some key.hash ∧
        payment.htlcs = parts.map Payment.htlcOf ∧
        payment.amount =
          ((parts.filter Payment.isComplete).map (Value.msat · "amount_msat")).sum ∧
        payment.amount + payment.fee =
          ((parts.filter Payment.isComplete).map (Value.msat · "amount_sent_msat")).sum ∧
        payment.status = if parts.any Payment.isComplete then .succeeded
          else if parts.any Payment.isPending then .inFlight else .failed) keys payments ∧
      (payments.map (·.htlcs.length)).sum = listed.length ∧
      ((listed.map Payment.idOf).Nodup → ∀ request entries, Reports request s entries →
        ((entries.filter Entry.isPayment).map (·.reference)).Nodup) := by
  intro listed
  obtain ⟨keys, hgrouped⟩ := exists_grouped_of_ends h
  refine ⟨keys, hgrouped.keys_eq, ?_, hgrouped.sum_length, ?_⟩
  · refine hgrouped.made.imp ?_
    rintro key payment ⟨hhash, hgathers⟩
    exact ⟨hhash, hgathers.htlcs_eq, hgathers.amount_eq, hgathers.cost_eq, hgathers.status_eq⟩
  · intro hids request entries hreports
    have hnumbers := hgrouped.nodup_sequenceNumber hids
    have hsettled : ((payments.filter (Payment.isSettledIn request.period)).map
        (·.sequenceNumber)).Nodup :=
      hnumbers.sublist (List.filter_sublist.map _)
    have hlines := (lines_of_reports h hreports).map (·.reference)
    rw [List.map_map] at hlines
    exact hlines.nodup_iff.mpr (Payment.nodup_references hsettled)

end Node

/-- A node that lists the parts of four payments among each other.  Two of the payments have one
hash: one attempt has failed, and the other one has succeeded in two parts. -/
def interleavingNode (method : String) (_payload : Value) : Except Value Value :=
  match method with
  | "getinfo" => .ok (.object [("id", .text "own")])
  | "listsendpays" => .ok (.object [("payments", .list [
      .object [("payment_hash", .text "a"), ("groupid", .int 1), ("id", .int 3),
        ("status", .text "complete"), ("amount_msat", .int 500), ("amount_sent_msat", .int 510),
        ("completed_at", .int 100), ("payment_preimage", .text "x")],
      .object [("payment_hash", .text "b"), ("id", .int 4), ("status", .text "pending")],
      .object [("payment_hash", .text "a"), ("groupid", .int 1), ("id", .int 1),
        ("status", .text "failed")],
      .object [("payment_hash", .text "a"), ("groupid", .int 2), ("id", .int 7),
        ("status", .text "failed")],
      .object [("payment_hash", .text "c"), ("id", .int 11), ("status", .text "complete"),
        ("amount_msat", .int 80), ("amount_sent_msat", .int 80), ("completed_at", .int 150)],
      .object [("payment_hash", .text "a"), ("groupid", .int 1), ("id", .int 9),
        ("status", .text "complete"), ("amount_msat", .int 300), ("amount_sent_msat", .int 305),
        ("completed_at", .int 120)]])])
  | _ => .ok (.object [])

/-- The payments of this node, and the references in its report. -/
theorem Node.payments_grouped_interleavingNode :
    let s : Session := { node := interleavingNode }
    let request : ReportRequest := { period := ⟨0, 1000⟩, disableFiat := true }
    ∃ payments t entries, Ends Node.payments s payments t ∧ Reports request s entries ∧
      payments.map (fun payment => (payment.sequenceNumber, payment.htlcs.length, payment.status)) =
        [(1, 3, .succeeded), (4, 1, .inFlight), (7, 1, .failed), (11, 1, .succeeded)] ∧
      (entries.filter Entry.isPayment).map (·.reference.display) = ["1:x", "1:x:-1", "11:"] ∧
      (payments.map (·.htlcs.length)).sum = (listedParts interleavingNode).length ∧
      ((entries.filter Entry.isPayment).map (·.reference)).Nodup := by
  intro s request
  obtain ⟨payments, hpayments, houtline⟩ : ∃ payments, Ends Node.payments s payments _ ∧
      payments.map (fun payment => (payment.sequenceNumber, payment.htlcs.length, payment.status)) =
        [(1, 3, .succeeded), (4, 1, .inFlight), (7, 1, .failed), (11, 1, .succeeded)] := by
    apply exists_ends_of_outcome
    decide +kernel
  let prices : Except Failure PriceSource := .error (.request .priceSourceRequired)
  obtain ⟨entries, hends, hreferences⟩ : ∃ entries, Ends (source.report request prices) s entries
      ((source.report request prices).outcome s).2 ∧
      (entries.filter Entry.isPayment).map (·.reference.display) = ["1:x", "1:x:-1", "11:"] := by
    apply exists_ends_of_outcome
    unfold NodeSource.report NodeSource.reportWithPrices
    rw [Entry.sort_eq_foldr]
    decide +kernel
  have hreports : Reports request s entries := .inr ⟨prices, _, nofun, hends⟩
  have hids : ((listedParts interleavingNode).map Payment.idOf).Nodup := by
    decide +kernel
  obtain ⟨keys, -, -, hlength, hnodup⟩ := payments_grouped hpayments
  exact ⟨payments, _, entries, hpayments, hreports, houtline, hreferences, hlength,
    hnodup hids request entries hreports⟩

end NodeLedger
