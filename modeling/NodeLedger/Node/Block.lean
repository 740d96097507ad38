import NodeLedger.Session
import NodeLedger.Text.Digit
import NodeLedger.Value.Access

/-!
Times of blocks.  The header of a block holds its time in four bytes, the least significant one
first; blocks are given in hexadecimal digits.

* `Block.hexBytes` reads bytes from digits; blanks between bytes are skipped.
* `Block.headerTime` is the time in the header of a block.
-/

namespace NodeLedger.Block

open NodeLedger.Text

/-- Whether a character is a blank between bytes. -/
def isSpacing (c : Char) : Bool :=
  c == ' ' || ('\t' ≤ c && c ≤ '\r')

/-- The bytes that digits give, the first of which stands at a position. -/
def bytesFrom (position : Nat) : List Char → Except ValueFault (List Nat)
  | [] => .ok []
  | [c] =>
    if isSpacing c then .ok []
    else if (hexDigit? c).isNone then .error (.hexDigit position)
    else .error (.hexDigit (position + 1))
  | c :: d :: rest =>
    if isSpacing c then bytesFrom (position + 1) (d :: rest)
    else match hexDigit? c, hexDigit? d with
      | some high, some low => do return (16 * high + low) :: (← bytesFrom (position + 2) rest)
      | none, _ => .error (.hexDigit position)
      | _, none => .error (.hexDigit (position + 1))

/-- The bytes that digits give, all of them ASCII. -/
def hexBytes (digits : List Char) : Except ValueFault (List Nat) :=
  let plain := digits.takeWhile fun c => decide (c.toNat < 128)
  if plain.length < digits.length then .error (.hexDigit plain.length) else bytesFrom 0 digits

/-- The number that bytes give, the least significant one first. -/
def littleEndian (bytes : List Nat) : Nat :=
  bytes.foldr (fun byte rest => byte + 256 * rest) 0

/-- Where the digits of the time stand in a block. -/
def timeStart : Nat := 136

/-- How many digits the time has. -/
def timeLength : Nat := 8

/-- The time in the header of a block. -/
def headerTime (block : String) : Except ValueFault Nat :=
  littleEndian <$> hexBytes ((block.toList.drop timeStart).take timeLength)

/-- A block as the node gives it. -/
def readBlock (height : Int) (block : Value) : Except Failure Int :=
  if !block.truthy then .error (.data (.blockUnavailable height))
  else match block with
    | .text digits =>
      match headerTime digits with
      | .ok time => .ok time
      | .error fault => .error (.value fault)
    -- A part of a list is a list, and no part of an object is found by a range of places.
    | .list items => .error (.shape (.notHexText (Value.list items).kind))
    | .object _ => .error (.shape (.unhashable "slice"))
    | v => .error (.shape (.notSubscriptable v.kind))

/-- Ask the node for the time of a block, and remember it. -/
def fetchTime (height : Int) : Action Int := do
  let result ← Rpc.call "getrawblockbyheight" (.object [("height", .int height)])
  let time ← readBlock height (← result.field "block")
  NodeCache.update fun cache => { cache with blockTimes := cache.blockTimes ++ [(height, time)] }
  return time

/-- The time of a block, fetched at most once. -/
def time (height : Int) : Action Int := do
  match (← NodeCache.current).blockTimes.lookup height with
  | some time => return time
  | none => fetchTime height

end NodeLedger.Block
