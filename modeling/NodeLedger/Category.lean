import NodeLedger.Pattern.Matcher
import NodeLedger.Pattern.Parser
import NodeLedger.Value.Access

/-!
Categories of ledger entries.  A category is a name with patterns, and applies to entries on chain,
off chain or both.  An entry belongs to the first category that has a pattern found in its label.

* `Category.nameOf` gives the category of a label, which is a text unless there are no patterns.
* `Category.parse` reads a list of categories and refuses one in which an entry could belong to two
  categories by one pattern.
-/

namespace NodeLedger

/-- A named set of patterns. -/
structure Category where
  name : Value
  patterns : List Pattern := []
  onChain : Bool := false
  offChain : Bool := false
  deriving Inhabited

namespace Category

/-- Whether a label belongs to a category. -/
def holds (category : Category) (label : String) : Bool :=
  category.patterns.any fun pattern => pattern.occursIn label

/-- The name of the first category to which a text belongs, empty if there is none. -/
def nameOfText (categories : List Category) (label : String) : Value :=
  ((categories.find? fun category => category.holds label).map (·.name)).getD (.text "")

/-- The name of the category of a label.  No pattern can be sought in a label that is no text. -/
def nameOf (categories : List Category) : Value → Except Failure Value
  | .text label => .ok (nameOfText categories label)
  | v =>
    if categories.all (·.patterns.isEmpty) then .ok (.text "")
    else .error (.shape (.notAText v.kind))

/-- The categories of entries on chain, and those of entries off chain. -/
def split (categories : List Category) : List Category × List Category :=
  (categories.filter (·.onChain), categories.filter (·.offChain))

/-! ## Compiling -/

/-- Compile a pattern of the category with the given name. -/
def compilePattern [Text.CharacterNames] (name : Value) (text : String) : Except Failure Pattern :=
  match Pattern.parse text with
  | .ok pattern => .ok pattern
  | .error .repetitionTooLarge => .error (.oversize .repetition)
  | .error .conflictingAlphabets => .error (.value .alphabets)
  | .error fault =>
    .error (.request (.category (.invalidPattern name.display text (fault.message text))))

/-- A category with the given patterns. -/
def compile [Text.CharacterNames] (name : Value) (patterns : List String)
    (onChain offChain : Bool) : Except Failure Category :=
  return { name, patterns := ← patterns.mapM (compilePattern name), onChain, offChain }

/-! ## Reading a list of categories -/

/-- The patterns of a category as it is given; none if the field is missing or empty. -/
def givenPatterns (given : Value) : Except Failure (List Value) :=
  return ← ((← given.field "label_patterns").orElse (.list [])).parts

/-- A pattern as it is given. -/
def givenPattern : Value → Except Failure String
  | .text s => .ok s
  | .list _ => .error (.shape (.unhashable "list"))
  | .object _ => .error (.shape (.unhashable "dict"))
  | _ => .error (.shape .notAPattern)

/-- The names so far, and the patterns so far with the categories they stand in. -/
structure Seen where
  names : List Key := []
  patterns : Table String Value := []

namespace Seen

/-- Check a pattern of the category with the given name, and remember it. -/
def addPattern [Text.CharacterNames] (name : Value) (seen : Seen) (given : Value) :
    Except Failure Seen := do
  let text ← givenPattern given
  let _ ← compilePattern name text
  match seen.patterns.get? text with
  | some other =>
    throw (.request (.category (.duplicatePattern text other.display name.display)))
  | none => return { seen with patterns := seen.patterns.insert text name }

/-- Check a name, and remember it. -/
def addName (seen : Seen) (name : Value) : Except Failure Seen := do
  if !name.truthy then throw (.request (.category .nameRequired))
  let key ← name.key
  if key ∈ seen.names then throw (.request (.category (.duplicateName name.display)))
  return { seen with names := key :: seen.names }

/-- Check a category, and remember its name and its patterns. -/
def add [Text.CharacterNames] (seen : Seen) (given : Value) : Except Failure Seen := do
  let name ← given.field "name"
  let seen ← seen.addName name
  let onChain ← given.field "on_chain"
  let offChain ← given.field "off_chain"
  if !onChain.truthy && !offChain.truthy then
    throw (.request (.category (.appliesToNothing name.display)))
  (← givenPatterns given).foldlM (addPattern name) seen

end Seen

/-- A category as it is given, compiled. -/
def ofValue [Text.CharacterNames] (given : Value) : Except Failure Category := do
  let name ← given.required "name"
  let patterns ← (← givenPatterns given).mapM givenPattern
  compile name patterns (← given.field "on_chain").truthy
    (← given.field "off_chain").truthy

/-- Read a list of categories: each has a name of its own, applies to something, and has patterns
that stand nowhere else in the list. -/
def parse [Text.CharacterNames] (given : Value) : Except Failure (List Category) := do
  if !given.truthy then return []
  let items ← given.parts
  let _ ← items.foldlM Seen.add {}
  items.mapM ofValue

end Category

end NodeLedger
