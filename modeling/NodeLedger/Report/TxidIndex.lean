import NodeLedger.Value.Access

/-!
Channels by the transactions that funded or closed them.  A transaction may belong to several
channels at once; then it cannot be accounted for.

* `TxidIndex.channels_put` says which channels are found after one has been added.
-/

namespace NodeLedger

/-- Channels with their transactions, in the order of their arrival. -/
structure TxidIndex (α : Type) where
  entries : List (Key × α) := []
  deriving Repr

namespace TxidIndex

variable {α : Type}

/-- An index with one more channel under a key. -/
def put (index : TxidIndex α) (key : Key) (channel : α) : TxidIndex α :=
  ⟨index.entries ++ [(key, channel)]⟩

/-- An index with one more channel. -/
def add (index : TxidIndex α) (txid : Value) (channel : α) : Except Failure (TxidIndex α) :=
  return index.put (← txid.key) channel

/-- The channels that belong to a transaction. -/
def channels (index : TxidIndex α) (key : Key) : List α :=
  (index.entries.filter (·.1 == key)).map (·.2)

/-- The channel that belongs to a transaction, if there is one. -/
def lookup (index : TxidIndex α) (txid : Value) : Except Failure (Option α) := do
  match index.channels (← txid.key) with
  | [] => return none
  | [channel] => return some channel
  | _ => throw (.data (.batchedTransaction txid.display))

/-- The number of transactions in an index. -/
def size (index : TxidIndex α) : Nat :=
  (index.entries.map (·.1)).eraseDups.length

/-- A channel is found under its transaction, behind those that are there already. -/
theorem channels_put (index : TxidIndex α) (key other : Key) (channel : α) :
    (index.put key channel).channels other =
      index.channels other ++ if key == other then [channel] else [] := by
  by_cases h : (key == other) = true <;> simp [put, channels, List.filter_append, h]

end TxidIndex

end NodeLedger
