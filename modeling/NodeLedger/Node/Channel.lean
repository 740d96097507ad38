import NodeLedger.Node.Bookkeeper
import NodeLedger.Node.Wallet
import NodeLedger.Record.Channel

/-!
The channels of the node, open and closed.  What closed a channel is found among the events of the
bookkeeper or, if there is none, among the transactions of the wallet.
-/

namespace NodeLedger.Channel

/-! ## Fields of channels -/

/-- The outpoint that funds a channel, if it is known. -/
def fundingOutpoint (channel : Value) : Except Failure (Option String) := do
  let txid ← channel.field "funding_txid"
  if !txid.truthy then return none
  return some (Wallet.outpoint txid.display (← channel.fieldD "funding_outnum" (.int 0)).display)

/-- The id of a channel, the short one if there is one. -/
def channelId (channel : Value) : Except Failure Value := do
  let short ← channel.field "short_channel_id"
  return short.orElse (← channel.fieldD "channel_id" (.text ""))

/-- The public key of the node at the other end of a channel. -/
def peerOf (channel : Value) : Except Failure Value :=
  channel.fieldD "peer_id" (.text "")

/-- An amount in a field of a channel, in whole satoshis. -/
def satsField (channel : Value) (key : String) : Except Failure Int := do
  return Amount.sats (← Amount.field channel key).count

/-- Who began something with a channel. -/
def initiator (channel : Value) (key : String) : Except Failure Initiator := do
  match ← ((← channel.field key).orElse (.text "")).key with
  | .text "local" => return .us
  | .text "remote" => return .peer
  | _ => return .unknown

/-! ## Open channels -/

/-- An open channel, if its funding is known. -/
def readOpen (channel : Value) : Except Failure (Option OpenChannel) := do
  match ← fundingOutpoint channel with
  | none => return none
  | some channelPoint =>
    return some {
      channelPoint := .text channelPoint
      channelId := ← channelId channel
      remotePubkey := ← peerOf channel
      capacity := ← satsField channel "total_msat"
      openedByUs := (← channel.field "opener").isText "local" }

/-- The open channels of an answer. -/
def readOpenChannels (result : Value) : Except Failure (List OpenChannel) := do
  return (← (← Wallet.itemsOf result "channels").mapM readOpen).filterMap id

/-- The open channels of the node. -/
def openChannels : Action (List OpenChannel) := do
  readOpenChannels (← Rpc.ask "listpeerchannels")

/-! ## Closings -/

/-- The outpoints that a transaction spends, with the transaction. -/
def spendings (tx : WalletTransaction) : Except Failure (List (Key × Value)) := do
  (← Wallet.inputsOf tx.content).mapM fun input => do
    return (.text (← Wallet.spentOutpoint input), tx.hash)

/-- The transactions of the wallet by the outpoints that they spend. -/
def walletClosings (txs : List WalletTransaction) : Except Failure (Table Key Value) := do
  return Table.ofList (← txs.mapM spendings).flatten

/-- The transactions that spend the outpoints of channels. -/
def closings : Action (Table Key Value) := do
  if ← Bookkeeper.available then Bookkeeper.closings (← Bookkeeper.events)
  else walletClosings ((← Wallet.transactions).map (·.2))

/-! ## Closed channels -/

/-- Ask the node for its closed channels, and remember them. -/
def fetchClosed : Action Value := do
  let channels ← (← Rpc.ask "listclosedchannels").fieldD "closedchannels" (.list [])
  NodeCache.update fun cache => { cache with closedChannels := channels.kept }
  return channels

/-- The closed channels as the node gives them, fetched at most once. -/
def closed : Action (List Value) := do
  match (← NodeCache.current).closedChannels with
  | some channels => channels.parts
  | none => (← fetchClosed).parts

/-- How a channel was closed by a transaction: by the last commitment of the node, by that of the
peer, or by agreement. -/
def closeType (channel closing : Value) : Except Failure CloseType := do
  if closing.same (← channel.field "last_commitment_txid") then return .localForce
  else if (← channel.field "close_cause").isText "onchain" then return .remoteForce
  else return .cooperative

/-- A closed channel with a known closing. -/
def readClosed (channel : Value) (channelPoint : String) (closing : Value) :
    Except Failure ClosedChannel := do
  return {
    channelPoint := .text channelPoint
    channelId := ← channelId channel
    closingTxid := closing
    closeType := ← closeType channel closing
    remotePubkey := ← peerOf channel
    capacity := ← satsField channel "total_msat"
    settledBalance := ← satsField channel "final_to_us_msat"
    openInitiator := ← initiator channel "opener"
    closeInitiator := ← initiator channel "closer" }

/-- A closed channel, if its funding and its closing are known; a missing closing is logged. -/
def findClosed (closings : Table Key Value) (channel : Value) :
    Action (Option ClosedChannel) := do
  match ← fundingOutpoint channel with
  | none => return none
  | some channelPoint =>
    let closing := (closings.get? (.text channelPoint)).getD .null
    if !closing.truthy then
      Action.log .warn
        ("closing transaction unknown for channel " ++ (← channelId channel).display)
      return none
    return some (← readClosed channel channelPoint closing)

/-- The closed channels of the node. -/
def closedChannels : Action (List ClosedChannel) := do
  let closings ← closings
  return (← (← closed).mapM (findClosed closings)).filterMap id

end NodeLedger.Channel
