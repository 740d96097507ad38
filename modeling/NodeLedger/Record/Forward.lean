import NodeLedger.Amount

/-!
Forwards: payments of others that pass through the node.
-/

namespace NodeLedger

/-- A payment passed on from one channel to another for a fee. -/
structure Forward where
  timestamp : Int
  channelIn : Value
  channelOut : Value
  amountIn : Amount
  amountOut : Amount
  fee : Amount
  deriving Repr

end NodeLedger
