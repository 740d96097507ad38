import NodeLedger.Proofs.Node.Inward
import NodeLedger.Proofs.Node.Payments
import NodeLedger.Proofs.Report.Balance
import NodeLedger.Proofs.Report.Times

/-!
# Conservation off chain

The entries of a report off chain change the balance by what the node itself has recorded: what was
received for paid invoices, less what the parts of settled payments have sent, plus the fees of
forwards.

Main results:

- Definitions `Invoice.receivedIn` and `Forward.earnedIn`, beside `Payment.spentIn`: what the node
  has recorded for a period.
- Theorem `Node.offChain_conserves`: the entries of a report add up to that.
-/

namespace NodeLedger

open List NodeLedger.Action

variable {period : Period}

/-! ## Invoices -/

namespace Invoice

/-- Whether an invoice that the node lists was paid in a period. -/
def isPaidIn (period : Period) (record : Value) : Bool :=
  (record.fieldOr "status" .null).isText "paid" &&
    period.contains (record.fieldOr "paid_at" (.int 0)).seconds

/-- What was received for the invoices that were paid in a period. -/
def receivedIn (period : Period) (listed : List Value) : Int :=
  ((listed.filter (isPaidIn period)).map (Value.msat · "amount_received_msat")).sum

/-- An invoice that is read is settled if it is listed as paid. -/
theorem stateOf_eq_ok {status : Value} {state : InvoiceState} (h : stateOf status = .ok state) :
    (state == .settled) = status.isText "paid" := by
  obtain ⟨key, hkey, h⟩ := bind_eq_ok_iff.mp h
  rw [Value.isText_of_key hkey]
  split at h
  · cases h
    rfl
  · cases h
    rfl
  · next hother _ =>
    cases h
    have hne : key ≠ .text "paid" := fun hpaid => hother hpaid
    simp [hne]

/-- An invoice that is read has the state, the time and the amount that are listed. -/
theorem readListed_eq_ok (period : Period) {record : Value} {invoice : Invoice}
    (h : readListed record = .ok invoice) :
    (invoice.state == .settled && period.contains invoice.settleDate) = isPaidIn period record ∧
      invoice.paid.count = record.msat "amount_received_msat" := by
  unfold readListed at h
  obtain ⟨received, hreceived, h⟩ := bind_eq_ok_iff.mp h
  obtain ⟨value, -, h⟩ := bind_eq_ok_iff.mp h
  obtain ⟨hash, -, h⟩ := bind_eq_ok_iff.mp h
  obtain ⟨preimage, -, h⟩ := bind_eq_ok_iff.mp h
  obtain ⟨memo, -, h⟩ := bind_eq_ok_iff.mp h
  obtain ⟨paidAt, hpaidAt, h⟩ := bind_eq_ok_iff.mp h
  obtain ⟨time, htime, h⟩ := bind_eq_ok_iff.mp h
  obtain ⟨status, hstatus, h⟩ := bind_eq_ok_iff.mp h
  obtain ⟨state, hstate, h⟩ := bind_eq_ok_iff.mp h
  obtain ⟨label, -, h⟩ := bind_eq_ok_iff.mp h
  obtain ⟨keysend, -, h⟩ := bind_eq_ok_iff.mp h
  obtain ⟨request, -, h⟩ := bind_eq_ok_iff.mp h
  cases h
  unfold isPaidIn
  rw [Value.fieldOr_of_field hstatus, Value.fieldOr_of_fieldD hpaidAt,
    Value.seconds_of_toInteger htime, Value.msat_of_field hreceived, ← stateOf_eq_ok hstate]
  exact ⟨rfl, rfl⟩

/-- The invoices of a period have received what is listed for it. -/
theorem sum_paid_of_readAll (period : Period) {result : Value} {invoices : List Invoice}
    (h : readAll result = .ok invoices) :
    ∃ listed, Wallet.itemsOf result "invoices" = .ok listed ∧
      ((Invoice.select period invoices).map (·.paid.count)).sum = receivedIn period listed := by
  obtain ⟨listed, hlisted, h⟩ := bind_eq_ok_iff.mp h
  refine ⟨listed, hlisted, ?_⟩
  unfold Invoice.select receivedIn
  rw [sum_map_filter, sum_map_filter]
  refine (congrArg List.sum (map_eq_map_of_forall₂ (mapM_eq_ok_iff.mp h) ?_)).symm
  intro record _ invoice hinvoice
  obtain ⟨hpaid, hamount⟩ := readListed_eq_ok period hinvoice
  rw [hpaid, hamount]

end Invoice

/-! ## Forwards -/

namespace Forward

/-- The time of a forward that the node lists: when it was resolved or, if that is not known,
received. -/
def seconds (record : Value) : Int :=
  ((record.fieldOr "resolved_time" .null).orElse
    (record.fieldOr "received_time" (.int 0))).seconds

/-- What the forwards of a period have earned. -/
def earnedIn (period : Period) (listed : List Value) : Int :=
  ((listed.filter fun record => period.contains (seconds record)).map
    (Value.msat · "fee_msat")).sum

theorem timeOf_eq_ok {record : Value} {time : Int} (h : timeOf record = .ok time) :
    time = seconds record := by
  obtain ⟨resolved, hresolved, h⟩ := bind_eq_ok_iff.mp h
  obtain ⟨received, hreceived, h⟩ := bind_eq_ok_iff.mp h
  unfold seconds
  rw [Value.fieldOr_of_field hresolved, Value.fieldOr_of_fieldD hreceived,
    Value.seconds_of_toInteger h]

/-- A forward that is read lies in the period and has the fee that is listed; others are left
out. -/
theorem readListed_eq_ok {record : Value} {found : Option Forward}
    (h : readListed period record = .ok found) :
    (found.map (·.fee.count)).getD 0 =
      if period.contains (seconds record) then record.msat "fee_msat" else 0 := by
  obtain ⟨time, htime, ⟨hcontains, rfl⟩ | ⟨hcontains, forward, rfl, -, hfee⟩⟩ :=
    readListed_cases h
  · rw [← timeOf_eq_ok htime, hcontains]
    rfl
  · rw [← timeOf_eq_ok htime, hcontains, Value.msat_of_field hfee]
    rfl

/-- The forwards of a period have earned what is listed for it. -/
theorem sum_fee_of_readAll {result : Value} {forwards : List Forward}
    (h : readAll period result = .ok forwards) :
    ∃ listed, Wallet.itemsOf result "forwards" = .ok listed ∧
      (forwards.map (·.fee.count)).sum = earnedIn period listed := by
  obtain ⟨listed, hlisted, h⟩ := bind_eq_ok_iff.mp h
  obtain ⟨read, hread, h⟩ := bind_eq_ok_iff.mp h
  cases h
  refine ⟨listed, hlisted, ?_⟩
  unfold earnedIn
  rw [sum_map_filterMap_id, sum_map_filter]
  refine (congrArg List.sum (map_eq_map_of_forall₂ (mapM_eq_ok_iff.mp hread) ?_)).symm
  intro record _ found hfound
  exact (readListed_eq_ok hfound).symm

end Forward

/-! ## The report off chain -/

/-- The records in the answer of a node, none if it does not answer. -/
def Rpc.listed (node : String → Value → Except Value Value) (method : String) (payload : Value)
    (key : String) : List Value :=
  match node method payload with
  | .ok result => (Wallet.itemsOf result key).toOption.getD []
  | .error _ => []

/-- What is read of the answer to a call is read of what the node answers. -/
theorem Rpc.node_of_ends_read {α : Type} {method : String} {payload : Value}
    {read : Value → Except Failure α} {s t : Session} {a : α}
    (h : Ends (Rpc.call method payload >>= fun result => liftM (read result)) s a t) :
    ∃ result, s.node method payload = .ok result ∧ read result = .ok a := by
  unfold Rpc.call Rpc.note at h
  simp only [ends_bind, ends_modify, ends_lift] at h
  obtain ⟨result, _, ⟨_, _, rfl, hanswer⟩, hread, -⟩ := h
  refine ⟨result, ?_, hread⟩
  unfold Ends at hanswer
  rw [outcome_answer] at hanswer
  dsimp only at hanswer
  cases hnode : s.node method payload with
  | ok found =>
    rw [hnode] at hanswer
    cases hanswer
    rfl
  | error error =>
    rw [hnode] at hanswer
    cases hanswer

/-- What is listed is what can be read of an answer. -/
theorem Rpc.listed_eq {node : String → Value → Except Value Value} {method key : String}
    {payload result : Value} {items : List Value} (h : node method payload = .ok result)
    (hitems : Wallet.itemsOf result key = .ok items) :
    Rpc.listed node method payload key = items := by
  unfold Rpc.listed
  rw [h]
  dsimp only
  rw [hitems]
  rfl

namespace Node

/-- The invoices that the node lists. -/
def listedInvoices (node : String → Value → Except Value Value) : List Value :=
  Rpc.listed node "listinvoices" (.object []) "invoices"

/-- The parts of payments that the node lists. -/
def listedParts (node : String → Value → Except Value Value) : List Value :=
  Rpc.listed node "listsendpays" (.object []) "payments"

/-- The settled forwards that the node lists. -/
def listedForwards (node : String → Value → Except Value Value) : List Value :=
  Rpc.listed node "listforwards" (.object [("status", .text "settled")]) "forwards"

/-- The invoices of a period have received what is listed for it. -/
theorem sum_paid_of_ends {s t : Session} {invoices : List Invoice}
    (h : Ends Node.invoices s invoices t) :
    ((Invoice.select period invoices).map (·.paid.count)).sum =
      Invoice.receivedIn period (listedInvoices s.node) := by
  obtain ⟨result, hnode, hread⟩ := Rpc.node_of_ends_read h
  obtain ⟨listed, hlisted, hsum⟩ := Invoice.sum_paid_of_readAll period hread
  rw [hsum, listedInvoices, Rpc.listed_eq hnode hlisted]

/-- A payment is settled when it says so itself, wherever it went. -/
theorem resolve_eq {decode : Value → Action PaymentRequest} {payment : Payment}
    {resolved : ResolvedPayment} {s t : Session}
    (h : Ends (ResolvedPayment.resolve decode payment) s resolved t) :
    resolved.payment = payment ∧ resolved.settleTime = payment.settleTime := by
  unfold ResolvedPayment.resolve at h
  obtain ⟨details, _, -, h⟩ := ends_bind.mp h
  obtain ⟨rfl, -⟩ := ends_pure.mp h
  exact ⟨rfl, rfl⟩

/-- The payments of a period have cost what the parts that count for it have sent. -/
theorem sum_cost_of_ends {s t u v : Session} {payments : List Payment}
    {decode : Value → Action PaymentRequest} {resolved : List ResolvedPayment}
    (h : Ends Node.payments s payments t)
    (hresolved : Ends (payments.mapM (ResolvedPayment.resolve decode)) u resolved v)
    (htimes : ∀ part ∈ listedParts s.node, Payment.isComplete part = true →
      0 ≤ Payment.resolved part) :
    ((ResolvedPayment.select period resolved).map
        fun paid => paid.payment.amount + paid.payment.fee).sum =
      Payment.spentIn period (listedParts s.node) := by
  obtain ⟨result, hnode, hread⟩ := Rpc.node_of_ends_read h
  obtain ⟨listed, hlisted, hsum⟩ := Payment.sum_cost_of_readAll period hread
  have hparts : listedParts s.node = listed := Rpc.listed_eq hnode hlisted
  rw [hparts] at htimes ⊢
  rw [← hsum htimes, ResolvedPayment.select, sum_map_filter]
  refine (congrArg List.sum (map_eq_map_of_forall₂ hresolved.mapM ?_)).symm
  rintro payment - paid ⟨_, _, hpaid⟩
  obtain ⟨hsame, htime⟩ := resolve_eq hpaid
  rw [hsame, htime]

/-- The forwards of a period have earned what is listed for it. -/
theorem sum_fee_of_ends {s t : Session} {forwards : List Forward}
    (h : Ends (Node.forwards period) s forwards t) :
    (forwards.map (·.fee.count)).sum = Forward.earnedIn period (listedForwards s.node) := by
  obtain ⟨result, hnode, hread⟩ := Rpc.node_of_ends_read h
  obtain ⟨listed, hlisted, hsum⟩ := Forward.sum_fee_of_readAll hread
  rw [hsum, listedForwards, Rpc.listed_eq hnode hlisted]

/-- The entries of a report off chain add up to what the node has recorded for the period: what was
received for the invoices paid in it, less what the complete parts of the payments settled in it
have sent, plus the fees of the forwards that lie in it. -/
theorem offChain_conserves {context : EntryContext} {s t : Session} {entries : List Entry}
    (h : Ends (offChain.report period context) s entries t)
    (htimes : ∀ part ∈ listedParts s.node, Payment.isComplete part = true →
      0 ≤ Payment.resolved part) :
    (entries.map Entry.signedAmount).sum =
      Invoice.receivedIn period (listedInvoices s.node) -
        Payment.spentIn period (listedParts s.node) +
        Forward.earnedIn period (listedForwards s.node) := by
  obtain ⟨invoices, s₁, line₁, payments, s₂, resolved, s₃, own, s₄, circular, s₅, line₂, forwards,
    s₆, line₃, blocks, hinvoices, hpayments, hresolved, hown, hcircular, -, hforwards, hblocks,
    rfl⟩ := OffChainSource.ends_report h
  have hsource := inward_offChain
  have hresolve := ResolvedPayment.inward_resolve hsource.decode
  -- No step reaches outside, so that all of them ask the same node.
  have hinvoicesNode : (s₁.write line₁).node = s.node := calc
    (s₁.write line₁).node = s₁.node := rfl
    _ = s.node := hsource.invoices.node_eq hinvoices
  have hforwardsNode : (s₅.write line₂).node = s.node := calc
    (s₅.write line₂).node = s₅.node := rfl
    _ = s₄.node := (ResolvedPayment.inward_circular own resolved).node_eq hcircular
    _ = s₃.node := hsource.ownPubkey.node_eq hown
    _ = s₂.node := (Inward.mapM hresolve payments).node_eq hresolved
    _ = (s₁.write line₁).node := hsource.payments.node_eq hpayments
    _ = s.node := hinvoicesNode
  have hpaid : ((Invoice.select period invoices).map (·.paid.count)).sum =
      Invoice.receivedIn period (listedInvoices s.node) := sum_paid_of_ends hinvoices
  have hcost : ((ResolvedPayment.select period resolved).map
        fun paid => paid.payment.amount + paid.payment.fee).sum =
      Payment.spentIn period (listedParts s.node) := by
    rw [← hinvoicesNode] at htimes ⊢
    exact sum_cost_of_ends hpayments hresolved htimes
  have hearned : (forwards.map (·.fee.count)).sum =
      Forward.earnedIn period (listedForwards s.node) := by
    rw [← hforwardsNode]
    exact sum_fee_of_ends hforwards
  rw [OffChainSource.sum_of_blocks hblocks, hpaid, hcost, hearned]

end Node

/-! ## A node with records of all kinds -/

/-- A node that has been paid twice, has made a payment in two parts after a third one had failed,
and another payment later, and has passed on two payments. -/
def tradingNode (method : String) (_payload : Value) : Except Value Value :=
  match method with
  | "getinfo" => .ok (.object [("id", .text "own")])
  | "listinvoices" => .ok (.object [("invoices", .list [
      .object [("status", .text "paid"), ("paid_at", .int 100), ("amount_received_msat", .int 7000),
        ("payment_hash", .text "received")],
      .object [("status", .text "paid"), ("paid_at", .int 5000), ("amount_received_msat", .int 90)],
      .object [("status", .text "unpaid"), ("amount_msat", .int 40)]])])
  | "listsendpays" => .ok (.object [("payments", .list [
      .object [("payment_hash", .text "parts"), ("groupid", .int 1), ("status", .text "failed"),
        ("amount_sent_msat", .int 900), ("completed_at", .int 140)],
      .object [("payment_hash", .text "parts"), ("groupid", .int 1), ("status", .text "complete"),
        ("amount_msat", .int 500), ("amount_sent_msat", .int 510), ("completed_at", .int 150)],
      .object [("payment_hash", .text "late"), ("status", .text "complete"),
        ("amount_msat", .int 80), ("amount_sent_msat", .int 80), ("completed_at", .int 5000)],
      .object [("payment_hash", .text "parts"), ("groupid", .int 1), ("status", .text "complete"),
        ("amount_msat", .text "300msat"), ("amount_sent_msat", .text "305msat"),
        ("created_at", .int 160)]])])
  | "listforwards" => .ok (.object [("forwards", .list [
      .object [("resolved_time", .int 170), ("in_msat", .int 22), ("out_msat", .int 20),
        ("fee_msat", .int 2)],
      .object [("received_time", .int 5000), ("fee_msat", .int 4)]])])
  | _ => .ok (.object [])

/-- The node has received 7000, has sent 510 and 305, and has earned 2. -/
theorem Node.offChain_conserves_tradingNode :
    let context : EntryContext := { priceAt := fun _ => .ok (Price.nothing none) }
    ∃ entries t, Ends (offChain.report ⟨0, 1000⟩ context) { node := tradingNode } entries t ∧
      entries.map Entry.signedAmount = [7000, -800, -15, 0, 2] ∧
      Invoice.receivedIn ⟨0, 1000⟩ (listedInvoices tradingNode) = 7000 ∧
      Payment.spentIn ⟨0, 1000⟩ (listedParts tradingNode) = 815 ∧
      Forward.earnedIn ⟨0, 1000⟩ (listedForwards tradingNode) = 2 ∧
      (entries.map Entry.signedAmount).sum =
        Invoice.receivedIn ⟨0, 1000⟩ (listedInvoices tradingNode) -
          Payment.spentIn ⟨0, 1000⟩ (listedParts tradingNode) +
          Forward.earnedIn ⟨0, 1000⟩ (listedForwards tradingNode) := by
  intro context
  have htimes : ∀ part ∈ listedParts tradingNode, Payment.isComplete part = true →
      0 ≤ Payment.resolved part := by
    decide +kernel
  refine (exists_ends_of_outcome ?_).imp fun entries h => ⟨_, h.1, h.2, ?_⟩
  · decide +kernel
  · have hsum := offChain_conserves h.1 htimes
    refine ⟨?_, ?_, ?_, hsum⟩
    · decide +kernel
    · decide +kernel
    · decide +kernel

end NodeLedger
