/-!
Tables: values under keys, in the order in which the keys came.  A table has one value for a key; a
later value takes the place of an earlier one.

* `Table.get?_alter` says what is found after the value under a key has been changed, and
  `Table.get?_insert` what is found after a value has been put in.
-/

namespace NodeLedger

/-- Values with their keys. -/
abbrev Table (κ α : Type) := List (κ × α)

namespace Table

variable {κ α : Type} [DecidableEq κ]

/-- The value under a key. -/
def get? (table : Table κ α) (key : κ) : Option α :=
  (table.find? (·.1 == key)).map (·.2)

/-- The table with the value under a key changed, in the place of the one that is there. -/
def alter (table : Table κ α) (key : κ) (change : Option α → α) : Table κ α :=
  match table with
  | [] => [(key, change none)]
  | (k, v) :: rest =>
    if k == key then (key, change (some v)) :: rest else (k, v) :: alter rest key change

/-- The table with a value put under a key, in the place of the one that is there. -/
def insert (table : Table κ α) (key : κ) (value : α) : Table κ α :=
  table.alter key fun _ => value

/-- A table of keys and values that come one after the other. -/
def ofList (entries : List (κ × α)) : Table κ α :=
  entries.foldl (fun table entry => table.insert entry.1 entry.2) []

/-- Under a key that is changed there is the changed value, under other keys what was there. -/
theorem get?_alter (table : Table κ α) (key other : κ) (change : Option α → α) :
    (table.alter key change).get? other =
      if key = other then some (change (table.get? key)) else table.get? other := by
  induction table with
  | nil => by_cases h : key = other <;> simp [alter, get?, h]
  | cons entry rest ih =>
    obtain ⟨k, v⟩ := entry
    simp only [get?] at ih ⊢
    by_cases hk : k = key <;> by_cases ho : k = other <;> by_cases h : key = other <;>
      simp_all [alter]

/-- Under the key of the value put in there is that value, under other keys what was there. -/
theorem get?_insert (table : Table κ α) (key other : κ) (value : α) :
    (table.insert key value).get? other = if key = other then some value else table.get? other :=
  get?_alter table key other fun _ => value

end Table

end NodeLedger
