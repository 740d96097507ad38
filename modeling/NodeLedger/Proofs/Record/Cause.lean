import NodeLedger.Entry.OffChain
import NodeLedger.Entry.OnChain
import NodeLedger.Proofs.Session.Cause
import NodeLedger.Record.Settlement
import NodeLedger.Report.OffChain
import NodeLedger.Report.OnChain

/-!
# Causes for which values and records cannot be read

Taking a value apart fails for the value, and fitting records together fails for the records; prices
have no part in either.

Main results:

- Theorem `Value.covers_required` and those beside it: what is read of a value.
- Theorems `Fee.covers_checkTxid` and `Fee.covers_worth`: what the fee of a transaction is made of.
- Theorems `Transaction.covers_select`, `ResolvedPayment.covers_checkDistinct` and
  `ChannelHistory.covers_roleOf`: what is asked of the records.
-/

namespace NodeLedger

open NodeLedger.Causes

variable {causes : Causes}

section OfReadings

variable [causes.OfReadings]

/-! ## Values -/

namespace Value

variable (v : Value) (name : String)

/-- A field can be looked for in an object only. -/
@[simp] theorem covers_field? : causes.Covers (v.field? name) := by
  unfold field?
  split <;> simp

@[simp] theorem covers_field : causes.Covers (v.field name) := by
  simp [field]

/-- That a field is missing is no cause of failure if there is a substitute. -/
@[simp] theorem covers_fieldD (substitute : Value) :
    causes.Covers (v.fieldD name substitute) := by
  simp [fieldD]

/-- It is one if the field is required. -/
@[simp] theorem covers_required : causes.Covers (v.required name) := by
  unfold required
  split
  · split <;> simp
  all_goals simp

/-- A value has parts only if it is of a kind that has some. -/
@[simp] theorem covers_parts : causes.Covers v.parts := by
  unfold parts
  split <;> simp

/-- The same holds for its size. -/
@[simp] theorem covers_size : causes.Covers v.size := by
  unfold size
  split <;> simp

/-- A part that is not found is out of range. -/
@[simp] theorem covers_pick (found : Option Value) : causes.Covers (part.pick found) := by
  cases found <;> simp [part.pick]

/-- A part at some place is there, or the value is too short or has no parts. -/
@[simp] theorem covers_part (i : Int) : causes.Covers (v.part i) := by
  unfold part
  split <;> simp

/-- A value serves as a key unless it is a list or an object. -/
@[simp] theorem covers_key : causes.Covers v.key := by
  unfold Value.key
  split <;> simp

/-- What is selected is a part or a field, according to the value. -/
@[simp] theorem covers_item (selector : Value) : causes.Covers (v.item selector) := by
  unfold item
  split <;> simp

/-- A value is read as an integer, or it is the wrong kind of value or a wrong text. -/
@[simp] theorem covers_toInteger : causes.Covers v.toInteger := by
  unfold toInteger
  split
  case h_3 => split <;> simp
  case h_7 => split <;> simp
  all_goals simp

/-- The same holds for a decimal. -/
@[simp] theorem covers_toDecimal : causes.Covers v.toDecimal := by
  unfold toDecimal
  split <;> simp

end Value

/-- An amount is read from its field, whatever the field holds. -/
@[simp] theorem Amount.covers_field (v : Value) (name : String) :
    causes.Covers (Amount.field v name) := by
  simp [Amount.field]

/-- The value of an amount may be too large to be computed. -/
@[simp] theorem covers_fiatValue (perBitcoin : Decimal) (msat : Int) :
    causes.Covers (fiatValue perBitcoin msat) := by
  unfold fiatValue
  split
  · simp
  · split <;> simp

/-! ## Periods and fees -/

omit [causes.OfReadings] in
/-- A period is refused because the request for it is wrong. -/
@[simp] theorem Period.covers_check [causes.OfValues] (period : Period) (rules : PeriodRules)
    (now : Int) : causes.Covers (period.check rules now) := by
  simp [check]

namespace Fee

/-- A value in bitcoin is read as a decimal and worked out in satoshis. -/
@[simp] theorem covers_satsOfBtc (value : Value) : causes.Covers (satsOfBtc value) := by
  unfold satsOfBtc
  rw [covers_bind]
  refine ⟨by simp, fun read _ => ?_⟩
  split <;> simp

/-- The id of a transaction has to be a text of hexadecimal digits. -/
@[simp] theorem covers_checkTxid (txid : Value) : causes.Covers (checkTxid txid) := by
  unfold checkTxid
  cases txid with
  | text s => cases hread : Numeral.readInteger .hexadecimal s <;> simp [hread]
  | _ => simp

/-- What an output is worth is read from its field. -/
@[simp] theorem covers_worth (output : Value) : causes.Covers (worth output) := by
  simp [worth]

end Fee

/-! ## Channel points and categories -/

/-- A channel point names a transaction unless it is no text or has the wrong form. -/
@[simp] theorem ChannelPoint.covers_txidOf (v : Value) : causes.Covers (txidOf v) := by
  unfold txidOf ChannelPoint.txid
  split
  · split
    · split <;> simp
    · simp
  · simp

@[simp] theorem OpenChannel.covers_fundingTxid (channel : OpenChannel) :
    causes.Covers channel.fundingTxid :=
  ChannelPoint.covers_txidOf _

@[simp] theorem ClosedChannel.covers_fundingTxid (channel : ClosedChannel) :
    causes.Covers channel.fundingTxid :=
  ChannelPoint.covers_txidOf _

/-- A label is matched by categories only if it is a text. -/
@[simp] theorem EntryContext.covers_categoryOf (context : EntryContext) (label : Value) :
    causes.Covers (context.categoryOf label) := by
  unfold categoryOf Category.nameOf
  split <;> simp

end OfReadings

/-! ## Transactions -/

section OfRecords

variable [causes.OfRecords]

/-- A receive with a fee that sweeps no channel is wrong data. -/
@[simp] theorem Transaction.covers_withoutFee (sweeps : List Key) (tx : Transaction) :
    causes.Covers (tx.withoutFee sweeps) := by
  simp [withoutFee]

/-- Transactions can be selected unless there is such a receive, or an id that is no key. -/
@[simp] theorem Transaction.covers_select (period : Period) (unconfirmedAt : Option Int)
    (sweeps : List Key) (txs : List Transaction) :
    causes.Covers (select period unconfirmedAt sweeps txs) := by
  simp [select]

end OfRecords

/-! ## Channels -/

variable [causes.OfAnswers]

namespace TxidIndex

variable {α : Type} (index : TxidIndex α)

/-- A channel cannot be added to an index only because the id of its transaction is no key. -/
@[simp] theorem covers_add (txid : Value) (channel : α) :
    causes.Covers (index.add txid channel) := by
  simp [add]

/-- Nor can it be looked up for any other cause than this one, or that several channels are found.
-/
@[simp] theorem covers_lookup (txid : Value) : causes.Covers (index.lookup txid) := by
  unfold lookup
  rw [covers_bind]
  refine ⟨by simp, fun key _ => ?_⟩
  split <;> simp

end TxidIndex

namespace ChannelHistory

variable (history : ChannelHistory)

/-- An open channel cannot be added only because its channel point is wrong. -/
@[simp] theorem covers_addOpen (channel : OpenChannel) :
    causes.Covers (history.addOpen channel) := by
  simp [addOpen]

/-- The same holds for a closed channel, and for the transaction that closed it. -/
@[simp] theorem covers_addClosed (channel : ClosedChannel) :
    causes.Covers (history.addClosed channel) := by
  simp [addClosed]

/-- What a transaction does fails to be told only for the records, for instance if the transaction
funds several channels. -/
@[simp] theorem covers_roleOf (txid : Value) : causes.Covers (history.roleOf txid) := by
  unfold roleOf
  rw [covers_bind]
  refine ⟨by simp, fun current _ => ?_⟩
  cases current with
  | some channel => simp
  | none =>
    rw [covers_bind]
    refine ⟨by simp, fun opened _ => ?_⟩
    cases opened with
    | some channel => simp
    | none =>
      rw [covers_bind]
      refine ⟨by simp, fun closed _ => ?_⟩
      cases closed <;> simp

end ChannelHistory

/-! ## Payments -/

namespace ResolvedPayment

/-- That two settled payments have one hash is wrong data. -/
@[simp] theorem covers_check (seen : List Key) (hashes : List Value) :
    causes.Covers (checkDistinct.check seen hashes) := by
  induction hashes generalizing seen with
  | nil => simp [checkDistinct.check]
  | cons hash rest ih => simp [checkDistinct.check, ih]

/-- Payments are refused for this cause, or for a hash that is no key. -/
@[simp] theorem covers_checkDistinct (payments : List ResolvedPayment) :
    causes.Covers (checkDistinct payments) :=
  covers_check [] _

end ResolvedPayment

/-- Whether a payment is circular is not known only if its hash is no key. -/
@[simp] theorem covers_isCircular (circular : Table Key Value) (hash : Value) :
    causes.Covers (isCircular circular hash) := by
  simp [isCircular]

/-! ## Drafts -/

/-- The entries of a channel that is opened are drafted unless its label cannot be matched. -/
@[simp] theorem OpenChannel.covers_drafts (channel : OpenChannel) (context : EntryContext)
    (tx : Transaction) : causes.Covers (channel.drafts context tx) := by
  simp [drafts]

/-- The same holds if the channel has been closed since. -/
@[simp] theorem ClosedChannel.covers_openingDrafts (channel : ClosedChannel)
    (context : EntryContext) (tx : Transaction) :
    causes.Covers (channel.openingDrafts context tx) := by
  simp [openingDrafts]

/-- The same holds for a transaction that concerns no channel. -/
@[simp] theorem Transaction.covers_drafts (tx : Transaction) (context : EntryContext)
    (kind feeKind : EntryKind) : causes.Covers (tx.drafts context kind feeKind) := by
  simp [drafts]

/-- The entries of an invoice are drafted unless its hash or its label is wrong. -/
@[simp] theorem Invoice.covers_reportDrafts (context : EntryContext) (circular : Table Key Value)
    (invoice : Invoice) : causes.Covers (invoice.reportDrafts context circular) := by
  simp [reportDrafts, draft]

/-- The same holds for the entries of a payment. -/
@[simp] theorem ResolvedPayment.covers_reportDrafts (context : EntryContext)
    (circular : Table Key Value) (resolved : ResolvedPayment) :
    causes.Covers (resolved.reportDrafts context circular) := by
  simp [reportDrafts, drafts]

end NodeLedger
