import NodeLedger.Decimal.Reader
import NodeLedger.Failure
import NodeLedger.Table
import NodeLedger.Value.Key

/-!
Taking values apart.  Each operation fails with the fault of a value that does not support it.
-/

namespace NodeLedger.Value

open NodeLedger.Numeral NodeLedger.Text

/-! ## Parts -/

/-- A field of an object, if it is there. -/
def field? (v : Value) (key : String) : Except Failure (Option Value) :=
  match v with
  | object fields => .ok (Table.get? fields key)
  | v => .error (.shape (.missingMember v.kind "get"))

/-- A field of an object, null if it is not there. -/
def field (v : Value) (key : String) : Except Failure Value :=
  return (← v.field? key).getD null

/-- A field of an object, or a substitute if it is not there. -/
def fieldD (v : Value) (key : String) (substitute : Value) : Except Failure Value :=
  return (← v.field? key).getD substitute

/-- A field that has to be there. -/
def required (v : Value) (key : String) : Except Failure Value :=
  match v with
  | object fields =>
    match Table.get? fields key with
    | some x => .ok x
    | none => .error (.shape (.missingKey key))
  | text _ => .error (.shape (.textKey "str"))
  | list _ => .error (.shape (.listKey "str"))
  | v => .error (.shape (.notSubscriptable v.kind))

/-- The parts of a value one by one: items, characters or keys. -/
def parts (v : Value) : Except Failure (List Value) :=
  match v with
  | list items => .ok items
  | text s => .ok (s.toList.map fun c => text (String.singleton c))
  | object fields => .ok (fields.map fun f => text f.1)
  | v => .error (.shape (.notIterable v.kind))

/-- The number of parts of a value. -/
def size (v : Value) : Except Failure Nat :=
  match v with
  | list items => .ok items.length
  | text s => .ok s.length
  | object fields => .ok fields.length
  | v => .error (.shape (.noLength v.kind))

/-- The part of a list at an index, which counts from the end if it is negative. -/
def atIndex {α : Type} (items : List α) (i : Int) : Option α :=
  let n := if i < 0 then i + items.length else i
  if n < 0 then none else items[n.toNat]?

/-- The part of a value at an index. -/
def part (v : Value) (i : Int) : Except Failure Value :=
  match v with
  | list items => pick (atIndex items i)
  | text s => pick ((atIndex s.toList i).map fun c => text (String.singleton c))
  | object _ => .error (.shape (.missingKey (toString i)))
  | v => .error (.shape (.notSubscriptable v.kind))
where
  /-- A part that has to be there. -/
  pick : Option Value → Except Failure Value
    | some x => .ok x
    | none => .error (.shape .indexOutOfRange)

/-- The key that a value is, which has to be one. -/
def key (v : Value) : Except Failure Key :=
  match v.key? with
  | some key => .ok key
  | none => .error (.shape (.unhashable v.kind))

/-- Where a value has to be a key, it is the key that it is. -/
theorem key_eq_ok_iff {v : Value} {k : Key} : v.key = .ok k ↔ v.key? = some k := by
  unfold key
  cases v.key? <;> simp

/-- The part of a value that another value selects: by its place, or by its key. -/
def item (v selector : Value) : Except Failure Value :=
  match v, selector with
  | list _, int i => v.part i
  | list _, bool b => v.part (if b then 1 else 0)
  | list _, w => .error (.shape (.listKey w.kind))
  | text _, int i => v.part i
  | text _, bool b => v.part (if b then 1 else 0)
  | text _, w => .error (.shape (.textKey w.kind))
  | object _, text key => v.required key
  | object _, w => do
    let _ ← w.key
    throw (.shape (.missingKey w.display))
  | v, _ => .error (.shape (.notSubscriptable v.kind))

/-- The first of two values that counts as true, or else the second. -/
def orElse (v w : Value) : Value :=
  if v.truthy then v else w

/-! ## Numbers and texts -/

/-- A value as an integer: the integer part of a number, or a text that is a numeral. -/
def toInteger (v : Value) : Except Failure Int :=
  match v with
  | int n => .ok n
  | bool b => .ok (if b then 1 else 0)
  | float x =>
    match x.truncate? with
    | some n => .ok n
    | none => if x == .nan then .error (.value (.nanInteger "float ")) else
        .error (.oversize .infiniteFloat)
  | decimal (.finite negative c e) => .ok (Decimal.truncate negative c e)
  | decimal (.infinite _) => .error (.oversize .infiniteDecimal)
  | decimal (.nan _ _ _) => .error (.value (.nanInteger ""))
  | text s =>
    match readInteger .decimal s with
    | .ok n => .ok n
    | .error .malformed => .error (.value (.integer .decimal s))
    | .error (.tooManyDigits count) => .error (.value (.integerTooLong count))
  | v => .error (.shape (.notInteger v.kind))

/-- A value as a floating point number. -/
def toFloat (v : Value) : Except Failure Binary64 :=
  match v with
  | int n => ofInteger n
  | bool b => ofInteger (if b then 1 else 0)
  | float x => .ok x
  | decimal (.finite negative c e) => .ok (Binary64.ofDecimal negative c e)
  | decimal (.infinite negative) => .ok (.infinite negative)
  | decimal (.nan _ _ _) => .ok .nan
  | text s =>
    match Binary64.read? s with
    | some x => .ok x
    | none => .error (.value (.float s))
  | v => .error (.shape (.notFloat v.kind))
where
  /-- An integer as a floating point number. -/
  ofInteger (n : Int) : Except Failure Binary64 :=
    match Binary64.ofInt? n with
    | some x => .ok x
    | none => .error (.oversize .integerForFloat)

/-- The decimal that the text of a value spells. -/
def toDecimal (v : Value) : Except Failure Decimal :=
  match Decimal.read v.display with
  | .ok d => .ok d
  | .error fault => .error (.decimal fault)

/-- A value to remember: null is none. -/
def kept : Value → Option Value
  | null => none
  | v => some v

end NodeLedger.Value
