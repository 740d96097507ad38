import NodeLedger.Amount
import NodeLedger.Entry.Basic
import NodeLedger.Record.Channel
import NodeLedger.Record.Transaction

/-!
Entries of transactions of the wallet: channels opened and closed, sweeps, and others.

A transaction gives one entry for what it moves and, where a fee was paid, one for the fee.  The
amount of the transaction does not include the fee.
-/

namespace NodeLedger

/-- The entry of the fee of a transaction. -/
def Transaction.feeDraft (tx : Transaction) (kind : EntryKind) (category : Value) (note : String) :
    Draft where
  timestamp := tx.timestamp
  amount := Amount.ofSpentSats tx.fee
  kind := kind
  txid := tx.txid
  reference := feeReference tx.txid
  note := .text note
  category := category

/-! ## Opened channels -/

/-- What is told of an opened channel. -/
def openNote (byUs : Bool) (peer : Value) (capacity : Int) : String :=
  if byUs then
    "initiated channel with remote peer: " ++ peer.display ++ ", capacity: " ++
      toString capacity ++ " sats"
  else
    "remote peer " ++ peer.display ++ " initiated channel open with capacity: " ++
      toString capacity ++ " sat"

/-- The entries of the transaction that opens a channel.  The node pays for a channel that it opens
itself; one that its peer opens changes nothing. -/
def openDrafts (category channelId peer : Value) (capacity : Int) (byUs : Bool)
    (tx : Transaction) : List Draft :=
  let opening : Draft := {
    timestamp := tx.timestamp
    amount := if byUs then Amount.ofSats tx.amount else 0
    kind := if byUs then .localChannelOpen else .remoteChannelOpen
    txid := tx.txid
    reference := channelId
    note := .text (openNote byUs peer capacity)
    category }
  if byUs then
    [opening,
     tx.feeDraft .channelOpenFee category ("fees to open channel: " ++ channelId.display)]
  else [opening]

/-- The entries of the transaction that opens a channel that is open. -/
def OpenChannel.drafts (channel : OpenChannel) (context : EntryContext) (tx : Transaction) :
    Except Failure (List Draft) := do
  return openDrafts (← context.categoryOf tx.label) channel.channelId channel.remotePubkey
    channel.capacity channel.openedByUs tx

/-- Whether the node opened a channel.  Where that is not recorded, the transaction tells: only a
channel opened by the node itself takes something out of its wallet. -/
def ClosedChannel.openedByUs (channel : ClosedChannel) (tx : Transaction) : Bool :=
  match channel.openInitiator with
  | .us => true
  | .peer => false
  | _ => decide (Amount.ofSats tx.amount < 0)

/-- The entries of the transaction that opened a channel that is closed. -/
def ClosedChannel.openingDrafts (channel : ClosedChannel) (context : EntryContext)
    (tx : Transaction) : Except Failure (List Draft) := do
  return openDrafts (← context.categoryOf tx.label) channel.channelId channel.remotePubkey
    channel.capacity (channel.openedByUs tx) tx

/-! ## Closed channels -/

/-- The entry of the transaction that closes a channel: what it pays out at once. -/
def ClosedChannel.closingDraft (channel : ClosedChannel) (category : Value) (tx : Transaction) :
    Draft where
  timestamp := tx.timestamp
  amount := Amount.ofSats tx.amount
  kind := .channelClose
  txid := channel.closingTxid
  reference := channel.closingTxid
  note := .text ("close channel: " ++ channel.channelId.display ++ ", close type: " ++
    channel.closeType.name ++ ", closed by: " ++ channel.closeInitiator.name)
  category := category

/-- The entry of a closing fee in satoshis. -/
def ClosedChannel.closingFeeDraft (channel : ClosedChannel) (category : Value) (tx : Transaction)
    (fee : Int) : Draft where
  timestamp := tx.timestamp
  amount := Amount.ofSpentSats fee
  kind := .channelCloseFee
  txid := channel.closingTxid
  reference := feeReference channel.closingTxid
  category := category

/-- The fee of the transaction that closes a channel, none if the node does not pay it or nobody
knows it; the latter is logged.  Who opened the channel pays. -/
def ClosedChannel.closingFee (channel : ClosedChannel) (context : EntryContext) :
    Action (Option Int) := do
  match channel.openInitiator with
  | .peer => return none
  | .us =>
    match context.feeOf with
    | some feeOf => return some (← feeOf channel.closingTxid)
    | none =>
      Action.log .warn ("no fee lookup available, close fee for channel " ++
        channel.channelId.display ++ " not recorded")
      return none
  | initiator =>
    Action.log .warn ("channel " ++ channel.channelId.display ++ " open initiator " ++
      initiator.name ++ ", close fee not recorded")
    return none

/-- The entries of the transaction that closes a channel. -/
def ClosedChannel.closingEntries (channel : ClosedChannel) (context : EntryContext)
    (tx : Transaction) : Action (List Entry) := do
  let category ← context.categoryOf tx.label
  let closing ← (channel.closingDraft category tx).value context
  match ← channel.closingFee context with
  | none => return [closing]
  | some fee => return [closing, ← (channel.closingFeeDraft category tx fee).value context]

/-! ## Other transactions -/

/-- The entries of a transaction that concerns no channel being opened or closed. -/
def Transaction.drafts (tx : Transaction) (context : EntryContext) (kind feeKind : EntryKind) :
    Except Failure (List Draft) := do
  let category ← context.categoryOf tx.label
  let moved : Draft := {
    timestamp := tx.timestamp
    amount := Amount.ofSats tx.amount
    kind
    txid := tx.txid
    reference := tx.txid
    note := tx.label
    category }
  return if tx.fee = 0 then [moved] else [moved, tx.feeDraft feeKind category ""]

/-- The entries of a sweep of a channel's output back into the wallet. -/
def Transaction.sweepDrafts (tx : Transaction) (context : EntryContext) :
    Except Failure (List Draft) :=
  tx.drafts context .sweep .sweepFee

/-- The entries of a send or a receive. -/
def Transaction.transferDrafts (tx : Transaction) (context : EntryContext) :
    Except Failure (List Draft) :=
  tx.drafts context (if Amount.ofSats tx.amount < 0 then .payment else .receipt) .fee

end NodeLedger
