import NodeLedger.Amount
import NodeLedger.Decimal.Arithmetic

/-!
The fee of a transaction: what the outputs that it spends are worth, less what its own outputs are
worth.  A transaction is given in decoded form, an object with inputs `vin` and outputs `vout`; an
input names the transaction and the place of the output that it spends.

* `Fee.satsOfBtc` reads a value in bitcoin as whole satoshis.
* `Fee.ofTransaction` is the fee of a transaction, given a way to look up transactions.
-/

namespace NodeLedger.Fee

/-- The satoshis of a bitcoin. -/
def satsPerBtc : Decimal := .finite false 100000000 0

/-- A value in bitcoin as whole satoshis. -/
def satsOfBtc (value : Value) : Except Failure Int := do
  match (← value.toDecimal).mul satsPerBtc with
  | .error fault => throw (.decimal fault)
  | .ok (.finite negative c e) =>
    if Decimal.isWhole c e then return Decimal.truncate negative c e
    else throw (.value (.bitcoinAmount value.display))
  | .ok (.infinite _) => throw (.oversize .infiniteDecimal)
  | .ok (.nan _ _ _) => throw (.value (.bitcoinAmount value.display))

/-- A transaction id: 64 characters that make up a hexadecimal numeral. -/
def checkTxid (txid : Value) : Except Failure String := do
  if (← txid.size) ≠ 64 then throw (.value (.txid txid.display))
  match txid with
  | .text s =>
    match Numeral.readInteger .hexadecimal s with
    | .ok _ => return s
    | .error _ => throw (.value (.integer .hexadecimal s))
  | _ => throw (.shape .notTextWithBase)

variable {m : Type → Type} [Monad m] [MonadExceptOf Failure m]

/-- Continue with a result, or fail with it. -/
def lift {α : Type} (result : Except Failure α) : m α :=
  match result with
  | .ok a => pure a
  | .error failure => throw failure

/-- What the output that an input spends is worth. -/
def spent (lookup : String → m Value) (input : Value) : m Int := do
  let txid ← lift (do checkTxid (← input.required "txid"))
  let source ← lookup txid
  lift do
    let outputs ← source.required "vout"
    let output ← outputs.item (← input.required "vout")
    satsOfBtc (← output.required "value")

/-- What an output is worth. -/
def worth (output : Value) : Except Failure Int := do
  satsOfBtc (← output.required "value")

/-- The fee of a transaction in satoshis. -/
def ofTransaction (lookup : String → m Value) (txid : Value) : m Int := do
  let txid ← lift (checkTxid txid)
  let tx ← lookup txid
  let inputs ← lift (do (← tx.fieldD "vin" (.list [])).parts)
  let received ← inputs.mapM (spent lookup)
  let paid ← lift (do (← (← tx.fieldD "vout" (.list [])).parts).mapM worth)
  return Amount.total received - Amount.total paid

end NodeLedger.Fee
