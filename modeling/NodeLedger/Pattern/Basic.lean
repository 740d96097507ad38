/-!
Patterns: the regular expressions that categories match labels with, as trees.

A pattern's options can change inside a group, so a node says how they change and the matcher
carries the current ones.
-/

namespace NodeLedger.Pattern

/-- The options under which a pattern is matched. -/
structure Options where
  ignoreCase : Bool := false
  multiLine : Bool := false
  dotAll : Bool := false
  verbose : Bool := false
  ascii : Bool := false
  deriving DecidableEq, Repr, Inhabited

namespace Options

/-- All options that are set in one of two. -/
def union (a b : Options) : Options :=
  ⟨a.ignoreCase || b.ignoreCase, a.multiLine || b.multiLine, a.dotAll || b.dotAll,
    a.verbose || b.verbose, a.ascii || b.ascii⟩

/-- The options that are set in one but not in the other. -/
def without (a b : Options) : Options :=
  ⟨a.ignoreCase && !b.ignoreCase, a.multiLine && !b.multiLine, a.dotAll && !b.dotAll,
    a.verbose && !b.verbose, a.ascii && !b.ascii⟩

/-- Whether two have an option in common. -/
def overlaps (a b : Options) : Bool :=
  (a.ignoreCase && b.ignoreCase) || (a.multiLine && b.multiLine) || (a.dotAll && b.dotAll) ||
    (a.verbose && b.verbose) || (a.ascii && b.ascii)

end Options

/-- A change of options for a group; the alphabet is ASCII, all of Unicode, or left as it was. -/
structure OptionChange where
  add : Options := {}
  remove : Options := {}
  unicode : Bool := false
  deriving DecidableEq, Repr, Inhabited

namespace OptionChange

/-- The options inside a group. -/
def apply (change : OptionChange) (options : Options) : Options :=
  let kept := if change.unicode then { options with ascii := false } else options
  (kept.union change.add).without change.remove

end OptionChange

/-- A named class of characters. -/
inductive CharKind where
  | digit
  | space
  | word
  deriving DecidableEq, Repr

/-- A member of a set of characters, with characters given by code point. -/
inductive SetItem where
  | char (code : Nat)
  | range (low high : Nat)
  | kind (kind : CharKind) (negated : Bool)
  deriving DecidableEq, Repr

/-- A set of characters, or the complement of one. -/
structure CharSet where
  negated : Bool
  items : List SetItem
  deriving DecidableEq, Repr

/-- A place in the text. -/
inductive Anchor where
  /-- The beginning, of each line if the pattern is matched line by line. -/
  | start
  /-- The end or the last line end, or each line end if the pattern is matched line by line. -/
  | stop
  | textStart
  | textStop
  | boundary
  | noBoundary
  deriving DecidableEq, Repr

/-- The order in which the numbers of repetitions are tried. -/
inductive Greed where
  /-- The most first. -/
  | greedy
  /-- The fewest first. -/
  | lazy
  /-- As many as possible and no other number. -/
  | possessive
  deriving DecidableEq, Repr

/-- The least and the greatest length of what a pattern matches. -/
structure Width where
  low : Nat
  high : Nat
  deriving DecidableEq, Repr, Inhabited

/-- A pattern. -/
inductive Node where
  | empty
  | any
  | set (chars : CharSet)
  | anchor (place : Anchor)
  | seq (first second : Node)
  | alt (first second : Node)
  | repeated (greed : Greed) (least : Nat) (most : Option Nat) (body : Node)
  | group (index : Nat) (body : Node)
  | withOptions (change : OptionChange) (body : Node)
  | atomic (body : Node)
  /-- What a group matched last; its width is kept for look-behinds. -/
  | reference (index : Nat) (width : Width)
  | look (behind negated : Bool) (body : Node)
  | conditional (index : Nat) (yes no : Node)
  deriving Repr, Inhabited

/-- Whether two patterns are one and the same character, set, place or reference. -/
def Node.sameUnit : Node → Node → Bool
  | any, any => true
  | set a, set b => a == b
  | anchor a, anchor b => a == b
  | reference a _, reference b _ => a == b
  | _, _ => false

/-- Above this, a width counts as unbounded. -/
def unbounded : Nat := Nat.pow 2 64

namespace Node

/-- The least and the greatest length of a match. -/
def width : Node → Width
  | empty => ⟨0, 0⟩
  | any => ⟨1, 1⟩
  | set _ => ⟨1, 1⟩
  | anchor _ => ⟨0, 0⟩
  | seq a b => cap ⟨a.width.low + b.width.low, a.width.high + b.width.high⟩
  | alt a b => ⟨min a.width.low b.width.low, max a.width.high b.width.high⟩
  | repeated _ least most body =>
    let w := body.width
    cap ⟨w.low * least,
      match most with
      | some n => w.high * n
      | none => if w.high = 0 then 0 else unbounded⟩
  | group _ body => body.width
  | withOptions _ body => body.width
  | atomic body => body.width
  | reference _ w => w
  | look _ _ _ => ⟨0, 0⟩
  | conditional _ yes no =>
    ⟨min yes.width.low no.width.low, max yes.width.high no.width.high⟩
where
  /-- A width with its bounds kept below the unbounded one. -/
  cap (w : Width) : Width :=
    ⟨min w.low unbounded, min w.high unbounded⟩

end Node

end NodeLedger.Pattern

namespace NodeLedger

/-- A pattern that can be matched: its text, its tree and its options. -/
structure Pattern where
  text : String
  node : Pattern.Node
  options : Pattern.Options
  deriving Repr, Inhabited

end NodeLedger
