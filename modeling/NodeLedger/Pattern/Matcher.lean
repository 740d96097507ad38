import NodeLedger.Pattern.Basic
import NodeLedger.Text.Blank
import NodeLedger.Text.CaseMapping
import NodeLedger.Text.Digit
import NodeLedger.Text.Word

/-!
Matching by backtracking.  A matcher gets what remains to be matched behind its pattern as a
continuation, so that a choice is taken back when what follows it fails.  A repetition that has its
least number of matches tries another one only if the last one moved on, which bounds it by the
length of the text.

* `Pattern.occursIn` tells whether a pattern is found anywhere in a text.
-/

namespace NodeLedger.Pattern

open NodeLedger.Text

/-! ## Characters -/

/-- A character in ASCII lower case. -/
def asciiLower (c : Char) : Char :=
  if 'A' ≤ c ∧ c ≤ 'Z' then Char.ofNat (c.toNat + 32) else c

namespace CharKind

/-- Whether a character is of a kind, in ASCII or in all of Unicode. -/
def contains (ascii : Bool) (kind : CharKind) (c : Char) : Bool :=
  (!ascii || c.toNat < 128) && match kind with
    | .digit => isDigit c
    | .space => if ascii then c == ' ' || (9 ≤ c.toNat && c.toNat ≤ 13) else isBlank c
    | .word => isWord c

end CharKind

/-- The lower case character by which a character is compared. -/
def folded (ascii : Bool) (c : Char) : Char :=
  if ascii then asciiLower c else lowerChar c

/-- All characters that are the given folded character but for case. -/
def caseVariants (ascii : Bool) (c : Char) : List Char :=
  if ascii then
    if 'a' ≤ c ∧ c ≤ 'z' then [c, Char.ofNat (c.toNat - 32)] else [c]
  else (c :: lowerSiblings c).flatMap fun x => x :: lowerSources x

/-- Whether a character changes with its case. -/
def isCased (ascii : Bool) (c : Char) : Bool :=
  if ascii then (caseVariants true (asciiLower c)).length != 1
  else lowerChar c != c || upperFirst c != c

/-- The last code point of the basic plane. -/
def basicPlaneEnd : Nat := 0xffff

namespace SetItem

/-- Whether a character is covered by an item. -/
def contains (ascii : Bool) (c : Char) : SetItem → Bool
  | .char code => c.toNat == code
  | .range low high => low ≤ c.toNat && c.toNat ≤ high
  | .kind k negated => k.contains ascii c != negated

/-- Whether a folded character is covered by one of several items when case does not count.  In the
basic plane an item covers all that differs from its characters only in case.  Beyond it a character
stands for itself, and a range covers what it contains in lower or upper case. -/
def containsFolded (ascii : Bool) (c : Char) : SetItem → Bool
  | .char code =>
    if basicPlaneEnd < code then c.toNat == code
    else (caseVariants ascii c).any (·.toNat == code)
  | .range low high =>
    let within (x : Char) : Bool := low ≤ x.toNat && x.toNat ≤ high
    (caseVariants ascii c).any (fun x => x.toNat ≤ basicPlaneEnd && within x) ||
      (basicPlaneEnd < high && (within c || within (upperFirst c)))
  | .kind k negated => k.contains ascii c != negated

/-- Whether no character of an item changes with its case.  A range beyond the basic plane is taken
to have one that does. -/
def isCaseless (ascii : Bool) : SetItem → Bool
  | .char code => !isCased ascii (Char.ofNat code)
  | .range low high =>
    high ≤ basicPlaneEnd && (List.range' low (high + 1 - low)).all fun code =>
      !isCased ascii (Char.ofNat code)
  | .kind _ _ => true

/-- Whether an item is a named class. -/
def isKind : SetItem → Bool
  | .kind _ _ => true
  | _ => false

end SetItem

namespace CharSet

/-- Whether a character is in a set when case does not count.  A set of one character covers all
that differs from it only in case, in all planes. -/
def containsFolded (ascii : Bool) (set : CharSet) (c : Char) : Bool :=
  match set.items with
  | [.char code] => (caseVariants ascii (folded ascii c)).any (·.toNat == code)
  | items => items.any (·.containsFolded ascii (folded ascii c))

/-- Whether a character is in a set. -/
def contains (options : Options) (set : CharSet) (c : Char) : Bool :=
  let found :=
    if options.ignoreCase then set.containsFolded options.ascii c
    else set.items.any (·.contains options.ascii c)
  found != set.negated

end CharSet

/-- Whether two characters are the same, or the same but for case. -/
def sameChar (options : Options) (a b : Char) : Bool :=
  if options.ignoreCase then folded options.ascii a == folded options.ascii b else a == b

/-! ## Places -/

/-- A position in the text and what the groups have matched, the latest match first. -/
structure Place where
  position : Nat
  captures : List (Nat × Nat × Nat)
  deriving Repr

namespace Place

/-- Where the latest match of a group begins and ends. -/
def capture? (p : Place) (index : Nat) : Option (Nat × Nat) :=
  (p.captures.find? (·.1 == index)).map (·.2)

/-- The place so many characters on. -/
def forward (p : Place) (n : Nat) : Place :=
  { p with position := p.position + n }

end Place

/-- Whether a position is between a word character and one that is none; an empty text has no such
position. -/
def atBoundary (options : Options) (chars : Array Char) (i : Nat) : Bool :=
  let word (c : Option Char) : Bool := c.any (CharKind.word.contains options.ascii ·)
  word (if i = 0 then none else chars[i - 1]?) != word chars[i]?

/-- Whether a position is a place of the given kind. -/
def holds (options : Options) (chars : Array Char) (i : Nat) : Anchor → Bool
  | .start => i == 0 || (options.multiLine && chars[i - 1]? == some '\n')
  | .stop => i == chars.size || (chars[i]? == some '\n' &&
      (options.multiLine || i + 1 == chars.size))
  | .textStart => i == 0
  | .textStop => i == chars.size
  | .boundary => chars.size != 0 && atBoundary options chars i
  | .noBoundary => chars.size != 0 && !atBoundary options chars i

/-! ## Matching -/

/-- What remains to be matched: from a place on, the final place if it can be. -/
abbrev Continuation := Place → Option Place

/-- Whether another repetition is allowed after so many. -/
def mayRepeat (most : Option Nat) (count : Nat) : Bool :=
  match most with
  | some n => count < n
  | none => true

/-- Repeat with the most repetitions tried first.  `last` is where the last optional repetition
began. -/
def greedyLoop (body : Continuation → Continuation) (least : Nat) (most : Option Nat)
    (k : Continuation) : Nat → Nat → Option Nat → Continuation
  | 0, _, _, _ => none
  | fuel + 1, count, last, p =>
    if count < least then body (greedyLoop body least most k fuel (count + 1) last) p
    else
      let longer :=
        if mayRepeat most count && last != some p.position then
          body (greedyLoop body least most k fuel (count + 1) (some p.position)) p
        else none
      longer.orElse fun _ => k p

/-- Repeat with the fewest repetitions tried first. -/
def lazyLoop (body : Continuation → Continuation) (least : Nat) (most : Option Nat)
    (k : Continuation) : Nat → Nat → Option Nat → Continuation
  | 0, _, _, _ => none
  | fuel + 1, count, last, p =>
    if count < least then body (lazyLoop body least most k fuel (count + 1) last) p
    else
      (k p).orElse fun _ =>
        if mayRepeat most count && last != some p.position then
          body (lazyLoop body least most k fuel (count + 1) (some p.position)) p
        else none

/-- Repeat as often as possible, and take nothing back. -/
def possessiveLoop (body : Continuation → Continuation) (least : Nat) (most : Option Nat) :
    Nat → Nat → Option Nat → Continuation
  | 0, _, _, _ => none
  | fuel + 1, count, last, p =>
    if count < least then
      (body some p).bind (possessiveLoop body least most fuel (count + 1) last)
    else if mayRepeat most count && last != some p.position then
      match body some p with
      | some q => possessiveLoop body least most fuel (count + 1) (some p.position) q
      | none => some p
    else some p

/-- The final place of a match of a pattern and of what remains behind it. -/
def run (chars : Array Char) : Node → Options → Continuation → Continuation
  | .empty, _, k, p => k p
  | .any, options, k, p =>
    match chars[p.position]? with
    | some c => if c != '\n' || options.dotAll then k (p.forward 1) else none
    | none => none
  | .set s, options, k, p =>
    match chars[p.position]? with
    | some c => if s.contains options c then k (p.forward 1) else none
    | none => none
  | .anchor place, options, k, p => if holds options chars p.position place then k p else none
  | .seq a b, options, k, p => run chars a options (run chars b options k) p
  | .alt a b, options, k, p =>
    (run chars a options k p).orElse fun _ => run chars b options k p
  | .repeated greed least most body, options, k, p =>
    let fuel := least + chars.size + 2
    match greed with
    | .greedy => greedyLoop (run chars body options) least most k fuel 0 none p
    | .lazy => lazyLoop (run chars body options) least most k fuel 0 none p
    | .possessive =>
      (possessiveLoop (run chars body options) least most fuel 0 none p).bind k
  | .group index body, options, k, p =>
    run chars body options
      (fun q => k { q with captures := (index, p.position, q.position) :: q.captures }) p
  | .withOptions change body, options, k, p => run chars body (change.apply options) k p
  | .atomic body, options, k, p => (run chars body options some p).bind k
  | .reference index _, options, k, p =>
    match p.capture? index with
    | none => none
    | some (start, stop) =>
      let same := (List.range (stop - start)).all fun i =>
        match chars[start + i]?, chars[p.position + i]? with
        | some a, some b => sameChar options a b
        | _, _ => false
      if same then k (p.forward (stop - start)) else none
  | .look behind negated body, options, k, p =>
    let back := if behind then body.width.low else 0
    let found :=
      if p.position < back then none
      else run chars body options some { p with position := p.position - back }
    match found, negated with
    | some q, false => k { q with position := p.position }
    | none, true => k p
    | _, _ => none
  | .conditional index yes no, options, k, p =>
    if (p.capture? index).isSome then run chars yes options k p else run chars no options k p

/-! ## Searching -/

/-- The set with which a pattern begins, with the options at its place. -/
def leadingSet? (options : Options) : Node → Option (CharSet × Options)
  | .set s => some (s, options)
  | .seq first _ => leadingSet? options first
  | .group _ body => leadingSet? options body
  | .withOptions change body => leadingSet? (change.apply options) body
  | _ => none

/-- Whether a match may begin with a character.  A named class at the beginning is looked for in the
alphabet of the whole pattern too, unless the set depends on case. -/
def mayBegin (pattern : Pattern) (c : Char) : Bool :=
  match leadingSet? pattern.options pattern.node with
  | none => true
  | some (s, inner) =>
    inner.ascii == pattern.options.ascii || !s.items.any SetItem.isKind ||
      (inner.ignoreCase && !s.items.all (SetItem.isCaseless inner.ascii)) ||
      s.contains { pattern.options with ignoreCase := false } c

/-- Whether a pattern is found in a text. -/
def occursIn (pattern : Pattern) (text : String) : Bool :=
  let chars := text.toList.toArray
  (List.range (chars.size + 1)).any fun i =>
    chars[i]?.all pattern.mayBegin &&
      (run chars pattern.node pattern.options some ⟨i, []⟩).isSome

end NodeLedger.Pattern
