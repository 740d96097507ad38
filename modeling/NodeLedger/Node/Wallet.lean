import NodeLedger.Amount
import NodeLedger.Fee
import NodeLedger.Session

/-!
The transactions and outputs that the wallet knows.

* `Wallet.transactions` and `Wallet.outputs` fetch them, at most once.
* `Wallet.details` gives a transaction in decoded form, and `Wallet.fee` its fee from that.
-/

namespace NodeLedger.Wallet

/-- The items in a field of an answer, none if it is not there. -/
def itemsOf (v : Value) (key : String) : Except Failure (List Value) := do
  (← v.fieldD key (.list [])).parts

/-- The name of an output: its transaction and its place there. -/
def outpoint (txid index : String) : String :=
  txid ++ ":" ++ index

/-! ## Transactions -/

/-- Add a transaction under its hash.  Of two with one hash the later one is known, under the name
of the earlier one. -/
def addTransaction (txs : Table Key WalletTransaction) (tx : Value) :
    Except Failure (Table Key WalletTransaction) := do
  let hash ← tx.required "hash"
  return txs.alter (← hash.key) fun before => ⟨(before.map (·.hash)).getD hash, tx⟩

/-- The transactions of an answer by their hashes. -/
def readTransactions (result : Value) : Except Failure (Table Key WalletTransaction) := do
  (← itemsOf result "transactions").foldlM addTransaction []

/-- Ask the node for the transactions of the wallet, and remember them. -/
def fetchTransactions : Action (Table Key WalletTransaction) := do
  let txs ← readTransactions (← Rpc.ask "listtransactions")
  NodeCache.update fun cache => { cache with transactions := some txs }
  return txs

/-- The transactions of the wallet, fetched at most once. -/
def transactions : Action (Table Key WalletTransaction) := do
  match (← NodeCache.current).transactions with
  | some txs => return txs
  | none => fetchTransactions

/-- The outputs that a transaction spends. -/
def inputsOf (tx : Value) : Except Failure (List Value) :=
  itemsOf tx "inputs"

/-- The outpoint that an input spends. -/
def spentOutpoint (input : Value) : Except Failure String := do
  return outpoint (← input.required "txid").display (← input.required "index").display

/-- The place of an output in its transaction. -/
def indexOf (output : Value) : Except Failure Value :=
  output.fieldD "index" (.int 0)

/-- The outpoint of an output of a transaction. -/
def outpointOf (txid : Value) (output : Value) : Except Failure String := do
  return outpoint txid.display (← indexOf output).display

/-! ## Outputs of the wallet -/

/-- The amount of an output under its outpoint. -/
def readOutput (output : Value) : Except Failure (String × Int) := do
  let txid ← output.required "txid"
  let index ← output.required "output"
  return (outpoint txid.display index.display, (← Amount.field output "amount_msat").count)

/-- The amounts of the outputs of an answer by their outpoints. -/
def readOutputs (result : Value) : Except Failure (Table String Int) := do
  return Table.ofList (← (← itemsOf result "outputs").mapM readOutput)

/-- Ask the node for the outputs of the wallet, spent or not, and remember them. -/
def fetchOutputs : Action (Table String Int) := do
  let outputs ← readOutputs (← Rpc.call "listfunds" (.object [("spent", .bool true)]))
  NodeCache.update fun cache => { cache with outputs := some outputs }
  return outputs

/-- The amounts of the outputs of the wallet, fetched at most once. -/
def outputs : Action (Table String Int) := do
  match (← NodeCache.current).outputs with
  | some outputs => return outputs
  | none => fetchOutputs

/-! ## Fees -/

mutual

/-- Whether one place comes before another.  Numbers and texts come in their order, and so do lists
by the first of their items that differ.  Places of different kinds have no order. -/
def precedes : Value → Value → Except Failure Bool
  | .list items, .list others => itemsPrecede items others
  | a, b =>
    match a.key?.bind fun key => b.key?.bind key.precedes? with
    | some before => .ok before
    | none => .error (.shape (.unordered a.kind b.kind))

/-- Whether the items of one list come before those of another; a list comes before those that go on
where it ends. -/
def itemsPrecede : List Value → List Value → Except Failure Bool
  | _, [] => .ok false
  | [], _ :: _ => .ok true
  | item :: rest, other :: others =>
    if item.same other then itemsPrecede rest others else precedes item other

end

/-- Put an output in its place among outputs in order, behind those of the same place. -/
def place (placed : List (Value × Value)) (new : Value × Value) :
    Except Failure (List (Value × Value)) :=
  match placed with
  | [] => .ok [new]
  | old :: rest => do
    if ← precedes new.1 old.1 then return new :: old :: rest
    else return old :: (← place rest new)

/-- Values in the order of their places. -/
def arranged (keyed : List (Value × Value)) : Except Failure (List Value) := do
  return (← keyed.foldlM place []).map (·.2)

/-- Outputs in the order of their places. -/
def inOrder (outputs : List Value) : Except Failure (List Value) := do
  arranged (← outputs.mapM fun output => do return (← indexOf output, output))

/-- An input in decoded form. -/
def decodedInput (input : Value) : Except Failure Value := do
  return .object [("txid", ← input.required "txid"), ("vout", ← input.required "index")]

/-- An output in decoded form, its value in bitcoin. -/
def decodedOutput (output : Value) : Except Failure Value := do
  let amount ← Amount.field output "amount_msat"
  match (Decimal.ofInt amount.count).div Amount.perBitcoin with
  | .ok value => return .object [("value", .decimal value), ("n", ← indexOf output)]
  | .error fault => throw (.decimal fault)

/-- A transaction in decoded form. -/
def decoded (txid tx : Value) : Except Failure Value := do
  let outputs ← inOrder (← itemsOf tx "outputs")
  let vin ← (← inputsOf tx).mapM decodedInput
  let vout ← outputs.mapM decodedOutput
  return .object [("txid", txid), ("vin", .list vin), ("vout", .list vout)]

/-- A transaction of the wallet in decoded form. -/
def details (txid : Value) : Action Value := do
  let txs ← transactions
  match txs.get? (← txid.key) with
  | some tx => decoded txid tx.content
  | none => throw (.data (.unknownTransaction txid.display))

/-- The fee of a transaction of the wallet in satoshis, from what it spends. -/
def fee (txid : Value) : Action Int :=
  Fee.ofTransaction (fun txid => details (.text txid)) txid

end NodeLedger.Wallet
