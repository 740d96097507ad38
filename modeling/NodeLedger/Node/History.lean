import NodeLedger.Node.Block
import NodeLedger.Node.Channel

/-!
The transactions of a wallet, and which of them sweep outputs of channels.  If the bookkeeper
answers its events tell; or else both are rebuilt from the transactions and outputs that the wallet
knows.
-/

namespace NodeLedger.History

/-! ## Sweeps from the wallet -/

/-- The transactions that closed the closed channels. -/
def closesOf (closings : Table Key Value) (channels : List Value) : Except Failure (List Key) := do
  let outpoints := (← channels.mapM Channel.fundingOutpoint).filterMap id
  (outpoints.filterMap fun outpoint => closings.get? (.text outpoint)).mapM fun txid => txid.key

/-- Whether a transaction spends an output of one of some transactions. -/
def spendsFrom (closes : List Key) (tx : Value) : Except Failure Bool := do
  (← Wallet.inputsOf tx).anyM fun input => do
    return (← (← input.required "txid").key) ∈ closes

/-- Whether a transaction pays to an output of the wallet. -/
def paysWallet (outputs : Table String Int) (tx : WalletTransaction) : Except Failure Bool := do
  (← Wallet.itemsOf tx.content "outputs").anyM fun output => do
    return (outputs.get? (← Wallet.outpointOf tx.hash output)).isSome

/-- Whether a transaction sweeps an output of one that closed a channel. -/
def isSweep (closes : List Key) (outputs : Table String Int) (entry : Key × WalletTransaction) :
    Except Failure Bool := do
  if entry.1 ∈ closes then return false
  let spends ← spendsFrom closes entry.2.content
  let pays ← paysWallet outputs entry.2
  return spends && pays

/-- The transactions that sweep outputs of those that closed channels. -/
def sweepsAmong (closes : List Key) (outputs : Table String Int)
    (txs : Table Key WalletTransaction) : Except Failure (Table Key WalletTransaction) :=
  txs.filterM (isSweep closes outputs)

/-- The transactions of the wallet that sweep outputs of closed channels. -/
def walletSweeps : Action (Table Key WalletTransaction) := do
  let closings ← Channel.closings
  let outputs ← Wallet.outputs
  let closes ← closesOf closings (← Channel.closed)
  sweepsAmong closes outputs (← Wallet.transactions)

/-- The sweeps of the node. -/
def sweeps : Action (List Value) := do
  if ← Bookkeeper.available then Bookkeeper.sweeps (← Bookkeeper.events)
  else return (← walletSweeps).map (·.2.hash)

/-! ## Transactions from the wallet -/

/-- What a transaction pays to outputs of the wallet. -/
def received (outputs : Table String Int) (tx : WalletTransaction) : Except Failure Int := do
  let amounts ← (← Wallet.itemsOf tx.content "outputs").mapM fun output => do
    return (outputs.get? (← Wallet.outpointOf tx.hash output)).getD 0
  return Amount.total amounts

/-- What a transaction spends of the outputs of the wallet. -/
def spent (outputs : Table String Int) (tx : WalletTransaction) : Except Failure Int := do
  let amounts ← (← Wallet.inputsOf tx.content).mapM fun input => do
    return (outputs.get? (← Wallet.spentOutpoint input)).getD 0
  return Amount.total amounts

/-- The height of the block of a transaction, zero if it is in none. -/
def heightOf (tx : Value) : Except Failure Int := do
  ((← tx.field "blockheight").orElse (.int 0)).toInteger

/-- A transaction rebuilt: what it pays to the wallet less what it spends of it.  The fee is known
only if the wallet funds the transaction or if it is a sweep. -/
def rebuild (outputs : Table String Int) (sweeps : Table Key WalletTransaction)
    (entry : Key × WalletTransaction) : Action Transaction := do
  let (key, tx) := entry
  let received ← received outputs tx
  let spent ← spent outputs tx
  let fee ← if spent ≠ 0 ∨ (sweeps.get? key).isSome then Wallet.fee tx.hash else pure 0
  let height ← heightOf tx.content
  let timestamp ← if height = 0 then pure 0 else Block.time height
  return {
    txid := tx.hash
    amount := Amount.sats (received - spent)
    fee
    timestamp
    confirmations := if height = 0 then 0 else 1 }

/-- The transactions of the wallet, rebuilt. -/
def walletTransactions : Action (List Transaction) := do
  let outputs ← Wallet.outputs
  let sweeps ← walletSweeps
  let txs ← (← Wallet.transactions).mapM (rebuild outputs sweeps)
  Action.log .debug ("Rebuilt: " ++ toString txs.length ++ " transactions from wallet history")
  return txs

/-- The transactions of the node's wallet. -/
def transactions : Action (List Transaction) := do
  if ← Bookkeeper.available then Bookkeeper.transactions (← Bookkeeper.events)
  else walletTransactions

/-! ## Fees -/

/-- The fee of a transaction as the bookkeeper recorded it. -/
def recordedFee (txid : Value) : Action Int := do
  Bookkeeper.fee txid (← Bookkeeper.events)

/-- A way to look up fees: those recorded, or else those that follow from what is spent. -/
def feeLookup : Action (Option (Value → Action Int)) := do
  if ← Bookkeeper.available then return some recordedFee else return some Wallet.fee

end NodeLedger.History
