import NodeLedger.Entry.OnChain
import NodeLedger.Report.TxidIndex

/-!
The part of a report that happens on chain.  Each transaction of the wallet is matched against the
channels of the node: it opens a channel, closes one, sweeps an output of one, or has nothing to do
with channels.  A transaction that funds several channels cannot be divided among them, and there is
no report.
-/

namespace NodeLedger

/-- Where the records of the node's wallet and channels come from. -/
structure OnChainSource where
  transactions : Action (List Transaction)
  /-- The transactions that sweep outputs of channels into the wallet. -/
  sweeps : Action (List Value)
  openChannels : Action (List OpenChannel)
  closedChannels : Action (List ClosedChannel)
  /-- The fee of a transaction in satoshis, if the source knows fees. -/
  feeLookup : Action (Option (Value → Action Int))

/-- What a transaction does. -/
inductive TransactionRole where
  | opens (channel : OpenChannel)
  | opened (channel : ClosedChannel)
  | closes (channel : ClosedChannel)
  | sweeps
  | transfers
  deriving Repr

/-- The channels of the node by their transactions, and the sweeps. -/
structure ChannelHistory where
  /-- Open channels by the transactions that opened them. -/
  current : TxidIndex OpenChannel := {}
  /-- Closed channels by the transactions that opened them. -/
  opened : TxidIndex ClosedChannel := {}
  /-- Closed channels by the transactions that closed them. -/
  closed : TxidIndex ClosedChannel := {}
  sweeps : List Key := []
  deriving Repr

namespace ChannelHistory

/-- Add an open channel. -/
def addOpen (history : ChannelHistory) (channel : OpenChannel) :
    Except Failure ChannelHistory := do
  return { history with current := ← history.current.add (.text (← channel.fundingTxid)) channel }

/-- Add a closed channel. -/
def addClosed (history : ChannelHistory) (channel : ClosedChannel) :
    Except Failure ChannelHistory := do
  return { history with
    opened := ← history.opened.add (.text (← channel.fundingTxid)) channel
    closed := ← history.closed.add channel.closingTxid channel }

/-- What a transaction does; opening a channel comes before closing one, and that before a sweep. -/
def roleOf (history : ChannelHistory) (txid : Value) : Except Failure TransactionRole := do
  match ← history.current.lookup txid with
  | some channel => return .opens channel
  | none =>
    match ← history.opened.lookup txid with
    | some channel => return .opened channel
    | none =>
      match ← history.closed.lookup txid with
      | some channel => return .closes channel
      | none => if (← txid.key) ∈ history.sweeps then return .sweeps else return .transfers

end ChannelHistory

/-- The entries of a transaction with a role. -/
def TransactionRole.entries (context : EntryContext) (tx : Transaction) :
    TransactionRole → Action (List Entry)
  | opens channel => Draft.valueAll context (channel.drafts context tx)
  | opened channel => Draft.valueAll context (channel.openingDrafts context tx)
  | closes channel => channel.closingEntries context tx
  | sweeps => Draft.valueAll context (tx.sweepDrafts context)
  | transfers => Draft.valueAll context (tx.transferDrafts context)

/-- The entries of a transaction. -/
def ChannelHistory.entries (history : ChannelHistory) (context : EntryContext)
    (tx : Transaction) : Action (List Entry) := do
  (← history.roleOf tx.txid).entries context tx

namespace OnChainSource

/-- What of a source's transactions belongs to a period, and the sweeps among all. -/
structure Selection where
  sweeps : List Key
  kept : List Transaction
  deriving Repr

/-- Select the transactions of a period. -/
def selection (source : OnChainSource) (unconfirmedAsNow : Bool) (period : Period) :
    Action Selection := do
  let txs ← source.transactions
  let sweeps := (← (← source.sweeps).mapM fun txid => txid.key).eraseDups
  let now ← Action.now
  let kept ← Transaction.select period (if unconfirmedAsNow then some now else none) sweeps txs
  Action.log .info ("Retrieved: " ++ toString txs.length ++ " on chain transactions, " ++
    toString kept.length ++ " filtered")
  return ⟨sweeps, kept⟩

/-- The channels of the node; the sweeps are known already. -/
def history (source : OnChainSource) (sweeps : List Key) : Action ChannelHistory := do
  let current ← (← source.openChannels).foldlM (fun h channel => h.addOpen channel) { sweeps }
  (← source.closedChannels).foldlM (fun h channel => h.addClosed channel) current

/-- A context in which fees can be looked up, if the source knows them. -/
def withFees (source : OnChainSource) (context : EntryContext) : Action EntryContext :=
  match context.feeOf with
  | some _ => return context
  | none => return { context with feeOf := ← source.feeLookup }

/-- The entries of a period. -/
def report (source : OnChainSource) (unconfirmedAsNow : Bool) (period : Period)
    (context : EntryContext) : Action (List Entry) := do
  let ⟨sweeps, kept⟩ ← source.selection unconfirmedAsNow period
  if kept.isEmpty then return []
  let history ← source.history sweeps
  Action.log .debug ("Matching against: " ++ toString history.current.size ++ " open channels, " ++
    toString history.closed.size ++ " closed channels, " ++ toString sweeps.length ++ " sweeps")
  let context ← source.withFees context
  return (← kept.mapM (history.entries context)).flatten

end OnChainSource

end NodeLedger
