import NodeLedger.Amount
import NodeLedger.Node.Wallet
import NodeLedger.Record.Forward
import NodeLedger.Record.Invoice
import NodeLedger.Record.Settlement
import NodeLedger.Session

/-!
Invoices, payments and forwards as the node lists them.

The node lists the parts of payments.  The parts of one payment have its hash and its group in
common.
-/

namespace NodeLedger

/-! ## Invoices -/

namespace Invoice

/-- The state of an invoice, open unless another one is given. -/
def stateOf (status : Value) : Except Failure InvoiceState := do
  match ← status.key with
  | .text "paid" => return .settled
  | .text "expired" => return .canceled
  | _ => return .opened

/-- Whether a label begins like that of a payment without an invoice. -/
def isKeysendLabel : Value → Except Failure Bool
  | .text label => .ok ("keysend".toList.isPrefixOf label.toList)
  | v => .error (.shape (.missingMember v.kind "startswith"))

/-- The payment request in one of two formats. -/
def requestOf (v : Value) : Except Failure Value := do
  return (← v.field "bolt11").orElse (← v.fieldD "bolt12" (.text ""))

/-- The amount asked for; an invoice without one asks for what it received. -/
def asked (invoice : Value) (received : Amount) : Except Failure Amount := do
  match ← invoice.field? "amount_msat" with
  | some amount => return Amount.ofValue amount
  | none => return received

/-- An invoice as the node lists it. -/
def readListed (invoice : Value) : Except Failure Invoice := do
  let received ← Amount.field invoice "amount_received_msat"
  return {
    value := ← asked invoice received
    paid := received
    paymentHash := ← invoice.fieldD "payment_hash" (.text "")
    preimage := ← invoice.fieldD "payment_preimage" (.text "")
    memo := ← invoice.fieldD "description" (.text "")
    settleDate := ← (← invoice.fieldD "paid_at" (.int 0)).toInteger
    state := ← stateOf (← invoice.field "status")
    isKeysend := ← isKeysendLabel (← invoice.fieldD "label" (.text ""))
    paymentRequest := ← requestOf invoice }

/-- The invoices of an answer. -/
def readAll (result : Value) : Except Failure (List Invoice) := do
  (← Wallet.itemsOf result "invoices").mapM readListed

end Invoice

/-! ## Payments -/

namespace Payment

/-- The status of a part, failed unless another one is given. -/
def partStatus (status : Value) : Except Failure HtlcStatus := do
  match ← status.key with
  | .text "complete" => return .succeeded
  | .text "pending" => return .inFlight
  | _ => return .failed

/-- The status of a payment: one successful part makes it succeed. -/
def statusOf (parts : List Htlc) : PaymentStatus :=
  if parts.any (·.status == .succeeded) then .succeeded
  else if parts.any (·.status == .inFlight) then .inFlight
  else .failed

/-- A part of a payment: how it went, what it paid and sent, and its preimage if it has one. -/
structure Part where
  htlc : Htlc
  amount : Int := 0
  sent : Int := 0
  preimage : Option Value := none
  deriving Repr

/-- The hops that are known of a part: its destination. -/
def hopsOf (destination : Value) : List Hop :=
  if destination.truthy then [{ pubkey := destination }] else []

/-- A part of a payment as the node lists it; only a successful one pays something. -/
def readPart (part : Value) : Except Failure Part := do
  let status ← partStatus (← part.field "status")
  let resolved := (← part.field "completed_at").orElse (← part.fieldD "created_at" (.int 0))
  let hops := hopsOf (← part.field "destination")
  let resolveTime := (← resolved.toInteger) * nanoseconds
  let htlc : Htlc := { status, hops, resolveTime }
  if status = .succeeded then
    return {
      htlc
      amount := (← Amount.field part "amount_msat").count
      sent := (← Amount.field part "amount_sent_msat").count
      preimage := some (← part.fieldD "payment_preimage" (.text "")) }
  else return { htlc }

/-- The least of some integers, zero if there are none. -/
def least : List Int → Int
  | [] => 0
  | n :: rest => rest.foldl min n

/-- The preimage among those of some parts: the first that counts as true, or else the last. -/
def preimageOf (parts : List Part) : Value :=
  (parts.filterMap (·.preimage)).foldl Value.orElse (.text "")

/-- The id of a part. -/
def readId (part : Value) : Except Failure Int := do
  (← part.fieldD "id" (.int 0)).toInteger

/-- A payment with its parts. -/
def ofParts (hash : Value) (parts : List Value) : Except Failure Payment := do
  let read ← parts.mapM readPart
  let ids ← parts.mapM readId
  let htlcs := read.map (·.htlc)
  let amount := Amount.total (read.map (·.amount))
  return {
    paymentHash := hash
    preimage := preimageOf read
    amount
    fee := Amount.total (read.map (·.sent)) - amount
    status := statusOf htlcs
    sequenceNumber := least ids
    htlcs
    paymentRequest := ← Invoice.requestOf (parts.headD (.object [])) }

/-- What the parts of one payment have in common: its hash and its group. -/
structure GroupKey where
  hash : Key
  group : Key
  deriving DecidableEq, Repr

/-- The parts of a payment with its hash, as the first of them gives it. -/
structure PartGroup where
  hash : Value
  parts : List Value
  deriving Repr

/-- Add a part to its group, or begin a new one behind the others. -/
def addPart (groups : Table GroupKey PartGroup) (part : Value) :
    Except Failure (Table GroupKey PartGroup) := do
  let hash ← part.fieldD "payment_hash" (.text "")
  let group ← part.fieldD "groupid" (.int 0)
  return groups.alter ⟨← hash.key, ← group.key⟩ fun
    | none => ⟨hash, [part]⟩
    | some before => { before with parts := before.parts ++ [part] }

/-- Parts in groups, in the order in which the groups begin. -/
def grouped (parts : List Value) : Except Failure (Table GroupKey PartGroup) :=
  parts.foldlM addPart []

/-- The payments of an answer. -/
def readAll (result : Value) : Except Failure (List Payment) := do
  let groups ← grouped (← Wallet.itemsOf result "payments")
  groups.mapM fun (_, group) => ofParts group.hash group.parts

end Payment

/-- What the answer to a payment request says. -/
def PaymentRequest.ofDecoded (decoded : Value) : Except Failure PaymentRequest := do
  let payee := (← decoded.field "payee").orElse (← decoded.field "invoice_node_id")
  let destination := payee.orElse (← decoded.fieldD "offer_node_id" (.text ""))
  return ⟨destination, ← decoded.fieldD "description" (.text "")⟩

/-! ## Forwards -/

namespace Forward

/-- The time of a forward: when it was resolved or, if that is not known, received. -/
def timeOf (forward : Value) : Except Failure Int := do
  ((← forward.field "resolved_time").orElse (← forward.fieldD "received_time" (.int 0))).toInteger

/-- A forward as the node lists it, if it lies in a period. -/
def readListed (period : Period) (forward : Value) : Except Failure (Option Forward) := do
  let timestamp ← timeOf forward
  if !period.contains timestamp then return none
  return some {
    timestamp
    channelIn := ← forward.fieldD "in_channel" (.text "")
    channelOut := ← forward.fieldD "out_channel" (.text "")
    amountIn := ← Amount.field forward "in_msat"
    amountOut := ← Amount.field forward "out_msat"
    fee := ← Amount.field forward "fee_msat" }

/-- The forwards of an answer that lie in a period. -/
def readAll (period : Period) (result : Value) : Except Failure (List Forward) := do
  return (← (← Wallet.itemsOf result "forwards").mapM (readListed period)).filterMap id

end Forward

end NodeLedger
