import NodeLedger.Category
import NodeLedger.Price.Basic
import NodeLedger.Session

/-!
Entries of the ledger.  An entry is one change of the balance, valued at the price of its time.

* A `Draft` is an entry that is not valued yet: it has a signed amount.
* `Draft.value` makes an `Entry` of it, with the size of the amount and a flag for its sign.
* `Entry.signedAmount` gives the signed amount back.
-/

namespace NodeLedger

/-- What an entry stands for. -/
inductive EntryKind where
  | localChannelOpen
  | remoteChannelOpen
  | channelOpenFee
  | channelClose
  | receipt
  | payment
  | fee
  | circularReceipt
  | forward
  | forwardFee
  | circularPayment
  | circularPaymentFee
  | sweep
  | sweepFee
  | channelCloseFee
  deriving DecidableEq, Repr, Inhabited

namespace EntryKind

/-- The name of a kind. -/
def name : EntryKind → String
  | localChannelOpen => "local_channel_open"
  | remoteChannelOpen => "remote_channel_open"
  | channelOpenFee => "channel_open_fee"
  | channelClose => "channel_close"
  | receipt => "receipt"
  | payment => "payment"
  | fee => "fee"
  | circularReceipt => "circular_receipt"
  | forward => "forward"
  | forwardFee => "forward_fee"
  | circularPayment => "circular_payment"
  | circularPaymentFee => "circular_payment_fee"
  | sweep => "sweep"
  | sweepFee => "sweep_fee"
  | channelCloseFee => "channel_close_fee"

/-- The words for a kind in a report. -/
def label : EntryKind → String
  | localChannelOpen => "local channel open"
  | remoteChannelOpen => "remote channel open"
  | channelOpenFee => "channel open fee"
  | channelClose => "channel close"
  | receipt => "receipt"
  | payment => "payment"
  | fee => "fee"
  | circularReceipt => "circular payment receipt"
  | forward => "forward"
  | forwardFee => "forward fee"
  | circularPayment => "circular payment"
  | circularPaymentFee => "circular payment fee"
  | sweep => "sweep"
  | sweepFee => "sweep fee"
  | channelCloseFee => "channel close fee"

/-- All kinds. -/
def all : List EntryKind :=
  [localChannelOpen, remoteChannelOpen, channelOpenFee, channelClose, receipt, payment, fee,
   circularReceipt, forward, forwardFee, circularPayment, circularPaymentFee, sweep, sweepFee,
   channelCloseFee]

end EntryKind

/-- One change of the balance.  The amount is in thousandths of a satoshi. -/
structure Entry where
  timestamp : Int
  amount : Nat
  fiatValue : Decimal
  /-- The transaction, or a name for what happened off chain. -/
  txid : Value
  reference : Value
  note : Value
  kind : EntryKind
  category : Value
  onChain : Bool
  /-- Whether the balance grows. -/
  credit : Bool
  /-- The price at which the entry is valued. -/
  price : Price
  deriving Repr

namespace Entry

/-- What an entry adds to the balance. -/
def signedAmount (entry : Entry) : Int :=
  if entry.credit then entry.amount else -entry.amount

/-- The fields of an entry in a report. -/
def reportFields (entry : Entry) : List (String × Value) :=
  [("timestamp", .int entry.timestamp), ("amount_msat", .int entry.amount),
   ("fiat_value", .text entry.fiatValue.text), ("txid", entry.txid),
   ("reference", entry.reference), ("note", entry.note),
   ("type", .text entry.kind.label), ("category", entry.category),
   ("on_chain", .bool entry.onChain), ("credit", .bool entry.credit),
   ("btc_price", .object entry.price.reportFields)]

end Entry

/-! ## Valuing -/

/-- What is needed to make entries. -/
structure EntryContext where
  /-- The price at a time. -/
  priceAt : Int → Except Failure Price
  categories : List Category := []
  /-- The fee of a transaction in satoshis, if fees can be looked up. -/
  feeOf : Option (Value → Action Int) := none

/-- The category of a label. -/
def EntryContext.categoryOf (context : EntryContext) (label : Value) : Except Failure Value :=
  Category.nameOf context.categories label

/-- An entry that is not valued yet; its amount is in thousandths of a satoshi, negative for what is
taken from the balance. -/
structure Draft where
  timestamp : Int
  amount : Int
  kind : EntryKind
  txid : Value
  reference : Value
  note : Value := .text ""
  category : Value := .text ""
  onChain : Bool := true
  deriving Repr

namespace Draft

/-- The entry of a draft with a price and the value of its amount at that price. -/
def priced (draft : Draft) (price : Price) (value : Decimal) : Entry where
  timestamp := draft.timestamp
  amount := draft.amount.natAbs
  fiatValue := value
  txid := draft.txid
  reference := draft.reference
  note := draft.note
  kind := draft.kind
  category := draft.category
  onChain := draft.onChain
  credit := decide (0 ≤ draft.amount)
  price := price

@[simp] theorem timestamp_priced (draft : Draft) (price : Price) (value : Decimal) :
    (draft.priced price value).timestamp = draft.timestamp :=
  rfl

@[simp] theorem kind_priced (draft : Draft) (price : Price) (value : Decimal) :
    (draft.priced price value).kind = draft.kind :=
  rfl

/-- The size and the flag of an entry give the amount of its draft back. -/
@[simp] theorem signedAmount_priced (draft : Draft) (price : Price) (value : Decimal) :
    (draft.priced price value).signedAmount = draft.amount := by
  show (if decide (0 ≤ draft.amount) = true then (draft.amount.natAbs : Int)
    else -(draft.amount.natAbs : Int)) = draft.amount
  by_cases h : 0 ≤ draft.amount
  · rw [if_pos (decide_eq_true h)]
    omega
  · rw [if_neg (fun hcredit => h (of_decide_eq_true hcredit))]
    omega

/-- The entry of a draft at a price. -/
def entryAt (draft : Draft) (price : Price) : Except Failure Entry :=
  return draft.priced price (← fiatValue price.perBitcoin draft.amount.natAbs)

/-- Value a draft at the price of its time. -/
def value (context : EntryContext) (draft : Draft) : Action Entry := do
  modify fun session => session.noteValued draft.timestamp
  draft.entryAt (← context.priceAt draft.timestamp)

/-- Value drafts one by one. -/
def valueAll (context : EntryContext) (drafts : Except Failure (List Draft)) :
    Action (List Entry) := do
  (← drafts).mapM (value context)

end Draft

/-- The reference of the fee entry that belongs to an entry with a reference. -/
def feeReference (reference : Value) : Value :=
  .text (reference.display ++ ":-1")

end NodeLedger
