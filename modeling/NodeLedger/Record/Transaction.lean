import NodeLedger.Period
import NodeLedger.Value.Access

/-!
Transactions of the wallet, and which of them belong to a period.

The amount of a transaction is the net change of the wallet, so that of a send includes the fee
paid.  The ledger writes fees by themselves; a selected transaction therefore has its fee taken out
of its amount.
-/

namespace NodeLedger

/-- A transaction of the wallet.  The amount is the net change of the wallet in satoshis, negative
for a send; the fee is in satoshis too. -/
structure Transaction where
  txid : Value
  amount : Int
  fee : Int
  timestamp : Int
  confirmations : Int := 1
  label : Value := .text ""
  deriving Repr

namespace Transaction

/-- A transaction with the time that counts for it: an unconfirmed one has none of its own and is
left out, unless it is to be given one. -/
def dated? (unconfirmedAt : Option Int) (tx : Transaction) : Option Transaction :=
  if tx.confirmations = 0 then unconfirmedAt.map fun now => { tx with timestamp := now }
  else some tx

/-- A transaction whose amount does not include its fee.  A receive has no fee, unless it sweeps an
output of a channel and pays for that out of the output. -/
def withoutFee (sweeps : List Key) (tx : Transaction) : Except Failure Transaction := do
  if tx.amount < 0 then return { tx with amount := tx.amount + tx.fee.natAbs }
  else if tx.amount = 0 ∨ tx.fee = 0 then return tx
  else if (← tx.txid.key) ∈ sweeps then return tx
  else throw (.data (.receiveWithFee tx.txid.display))

/-- The transactions of a period with the times that count for them, in the order given. -/
def during (period : Period) (unconfirmedAt : Option Int) (txs : List Transaction) :
    List Transaction :=
  (txs.filterMap (dated? unconfirmedAt)).filter fun tx => period.contains tx.timestamp

/-- The transactions of a period, without fees in their amounts and in the order given. -/
def select (period : Period) (unconfirmedAt : Option Int) (sweeps : List Key)
    (txs : List Transaction) : Except Failure (List Transaction) :=
  (during period unconfirmedAt txs).mapM (withoutFee sweeps)

end Transaction

end NodeLedger
