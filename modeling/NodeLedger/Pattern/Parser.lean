import NodeLedger.Failure
import NodeLedger.Pattern.Basic
import NodeLedger.Text.CharacterName
import NodeLedger.Text.Name

/-!
Reading patterns.  A pattern is first cut into tokens, a token being a character or a backslash with
the character behind it; the parser then goes along the tokens, and a fault is placed by the
position at which it stands.

* `Pattern.parse` reads a pattern or tells what is wrong with it and where.
-/

namespace NodeLedger.Pattern

open NodeLedger.Text NodeLedger.Numeral

/-- Why a text is no pattern. -/
inductive Fault where
  | malformed (reason : String) (position : Option Nat)
  | repetitionTooLarge
  | conflictingAlphabets
  deriving DecidableEq, Repr

/-- A character, or a backslash and the character behind it, with its position. -/
structure Token where
  chars : List Char
  position : Nat
  deriving DecidableEq, Repr

/-- What the parser knows: the tokens that are left, the length of the pattern, the widths of the
groups opened so far (none while a group is open), their names, the number of groups in front of the
look-behind it is in, the groups that conditions refer to, the options of the whole pattern, and the
characters that have names.  A template is a pattern without repetitions. -/
structure Reader where
  rest : List Token
  length : Nat
  widths : List (Option Width) := []
  names : List (String × Nat) := []
  behind : Option Nat := none
  conditions : List (Nat × Nat) := []
  options : Options := {}
  unicode : Bool := false
  template : Bool := false
  characterNamed? : String → Option Nat

/-- A step of the parser. -/
abbrev Parser := StateT Reader (Except Fault)

/-- The repetition that stands for no bound. -/
def maxRepetition : Nat := 4294967295

/-- No group has a number as great as this. -/
def maxGroup : Nat := 1073741823

/-! ## Tokens -/

/-- The tokens of a pattern; a backslash at its end stands alone. -/
def tokens (position : Nat) : List Char → List Token
  | [] => []
  | '\\' :: c :: rest => ⟨['\\', c], position⟩ :: tokens (position + 2) rest
  | c :: rest => ⟨[c], position⟩ :: tokens (position + 1) rest

/-- The position of the next token. -/
def position : Parser Nat := do
  let r ← get
  return match r.rest with
    | [] => r.length
    | t :: _ => t.position

/-- A fault so many characters before the next token. -/
def fault {α : Type} (reason : String) (back : Nat) : Parser α := do
  throw (.malformed reason (some ((← position) - back)))

/-- The characters of the next token. -/
def peek : Parser (Option (List Char)) := do
  return (← get).rest.head?.map (·.chars)

/-- Refuse a backslash at the end of the pattern as soon as it is next. -/
def checkNext : Parser Unit := do
  match (← get).rest with
  | [t] => if t.chars = ['\\'] then fault "bad escape (end of pattern)" 0
  | _ => pure ()

/-- Take the next token. -/
def take : Parser (Option (List Char)) := do
  let r ← get
  match r.rest with
  | [] => return none
  | t :: rest =>
    set { r with rest }
    checkNext
    return some t.chars

/-- Take the next token if it is the given character. -/
def accept (c : Char) : Parser Bool := do
  if (← peek) = some [c] then
    discard take
    return true
  else return false

/-- Take up to `n` tokens that are characters of a class. -/
def takeSome (n : Nat) (cls : Char → Bool) : Parser (List Char) :=
  match n with
  | 0 => return []
  | n + 1 => do
    match ← peek with
    | some [c] =>
      if cls c then
        discard take
        return c :: (← takeSome n cls)
      else return []
    | _ => return []

/-- Take the characters up to a closing character, which is taken too; there has to be one. -/
def takeName (close : Char) (what : String) (fuel : Nat) (done : List Char) : Parser (List Char) :=
  match fuel with
  | 0 => return done
  | fuel + 1 => do
    match ← take with
    | none =>
      if done.isEmpty then fault ("missing " ++ what) 0
      else fault ("missing " ++ String.singleton close ++ ", unterminated name") done.length
    | some cs =>
      if cs = [close] then
        if done.isEmpty then fault ("missing " ++ what) 1 else return done
      else takeName close what fuel (done ++ cs)

/-- The text of some characters. -/
def textOf (cs : List Char) : String :=
  String.ofList cs

/-! ## Names and groups -/

/-- A name in front of the next token and its closing character has to be one. -/
def checkName (name : List Char) : Parser Unit := do
  if !isName name then
    fault ("bad character in group name " ++ quoted (textOf name)) (name.length + 1)

/-- The width of a group that is closed. -/
def closedWidth? (r : Reader) (index : Nat) : Option Width :=
  if index = 0 then none else (r.widths[index - 1]?).join

/-- A reference inside a look-behind has to be to a group closed in front of it. -/
def checkBehind (index : Nat) : Parser Unit := do
  let r ← get
  match r.behind with
  | none => pure ()
  | some count =>
    if (closedWidth? r index).isNone then fault "cannot refer to an open group" 0
    if count ≤ index then
      fault "cannot refer to group defined in the same lookbehind subpattern" 0

/-- A reference to a group that has been opened, with a fault so many characters back if it is still
open. -/
def reference (index back : Nat) : Parser Node := do
  match closedWidth? (← get) index with
  | none => fault "cannot refer to an open group" back
  | some w =>
    checkBehind index
    return .reference index w

/-- Open a group, with or without a name. -/
def openGroup (name : Option (List Char)) : Parser Nat := do
  let r ← get
  let index := r.widths.length + 1
  match name with
  | none => set { r with widths := r.widths ++ [none] }
  | some cs =>
    match r.names.find? (·.1 == textOf cs) with
    | some (_, old) =>
      set { r with widths := r.widths ++ [none] }
      fault ("redefinition of group name " ++ quoted (textOf cs) ++ " as group " ++
        toString index ++ "; was group " ++ toString old) (cs.length + 1)
    | none =>
      set { r with widths := r.widths ++ [none], names := r.names ++ [(textOf cs, index)] }
  return index

/-- Close a group whose width is known. -/
def closeGroup (index : Nat) (width : Width) : Parser Unit :=
  modify fun r => { r with widths := r.widths.set (index - 1) (some width) }

/-! ## Escapes -/

/-- A set of one character. -/
def single (code : Nat) : Node :=
  .set ⟨false, [.char code]⟩

/-- Whether a character is an octal digit. -/
def isOctal (c : Char) : Bool :=
  '0' ≤ c && c ≤ '7'

/-- The value of octal digits. -/
def octalValue (cs : List Char) : Nat :=
  cs.foldl (fun n c => n * 8 + (c.toNat - 48)) 0

/-- The value of hexadecimal digits. -/
def hexValue (cs : List Char) : Nat :=
  cs.foldl (fun n c => n * 16 + (hexDigit? c).getD 0) 0

/-- The value of decimal digits. -/
def decimalValue (cs : List Char) : Nat :=
  cs.foldl (fun n c => n * 10 + (c.toNat - 48)) 0

/-- Whether a character is an ASCII letter. -/
def isAsciiLetter (c : Char) : Bool :=
  ('a' ≤ c && c ≤ 'z') || ('A' ≤ c && c ≤ 'Z')

/-- The class of characters behind a backslash. -/
def kindEscape? : Char → Option SetItem
  | 'd' => some (.kind .digit false)
  | 'D' => some (.kind .digit true)
  | 's' => some (.kind .space false)
  | 'S' => some (.kind .space true)
  | 'w' => some (.kind .word false)
  | 'W' => some (.kind .word true)
  | _ => none

/-- The place behind a backslash. -/
def anchorEscape? : Char → Option Anchor
  | 'A' => some .textStart
  | 'Z' => some .textStop
  | 'b' => some .boundary
  | 'B' => some .noBoundary
  | _ => none

/-- The control character behind a backslash. -/
def controlEscape? : Char → Option Nat
  | 'a' => some 7
  | 'b' => some 8
  | 'f' => some 12
  | 'n' => some 10
  | 'r' => some 13
  | 't' => some 9
  | 'v' => some 11
  | '\\' => some 92
  | _ => none

/-- A character given by so many hexadecimal digits behind a letter. -/
def hexEscape (letter : Char) (digits : Nat) : Parser Nat := do
  let cs ← takeSome digits (fun c => (hexDigit? c).isSome)
  let escape := '\\' :: letter :: cs
  if cs.length < digits then fault ("incomplete escape " ++ textOf escape) escape.length
  else if 0x10ffff < hexValue cs then fault ("bad escape " ++ textOf escape) escape.length
  else return hexValue cs

/-- A character given by name. -/
def namedEscape : Parser Nat := do
  if ← accept '\x7b' then
    let name ← takeName '\x7d' "character name" ((← get).rest.length + 1) []
    match (← get).characterNamed? (textOf name) with
    | some code => return code
    | none => fault ("undefined character name " ++ quoted (textOf name)) (name.length + 4)
  else fault "missing \x7b" 0

/-- An octal number that has to be that of a character of one byte. -/
def octalEscape (digits : List Char) : Parser Nat := do
  if 0o377 < octalValue digits then
    let escape := '\\' :: digits
    fault ("octal escape value " ++ textOf escape ++ " outside of range 0-0o377") escape.length
  else return octalValue digits

/-- A character that has a hexadecimal number or a name behind its letter, or stands for itself. -/
def plainEscape (c : Char) : Parser Nat := do
  if c == 'x' then hexEscape c 2
  else if c == 'u' then hexEscape c 4
  else if c == 'U' then hexEscape c 8
  else if c == 'N' then namedEscape
  else if isAsciiLetter c || isAsciiDigit c then fault ("bad escape \\" ++ String.singleton c) 2
  else return c.toNat

/-- What a backslash and a character stand for inside a set. -/
def setEscape (c : Char) : Parser SetItem := do
  match controlEscape? c, kindEscape? c with
  | some code, _ => return .char code
  | none, some item => return item
  | none, none =>
    if isOctal c then return .char (← octalEscape (c :: (← takeSome 2 isOctal)))
    else return .char (← plainEscape c)

/-- A number behind a backslash: up to three octal digits for a character, or a group. -/
def numberEscape (c : Char) : Parser Node := do
  let second ← takeSome 1 isAsciiDigit
  let octal ← match second with
    | [d] => if isOctal c && isOctal d then takeSome 1 isOctal else pure []
    | _ => pure []
  let digits := c :: second ++ octal
  if !octal.isEmpty then return single (← octalEscape digits)
  else
    let index := decimalValue digits
    if index ≤ (← get).widths.length then reference index (digits.length + 1)
    else fault ("invalid group reference " ++ toString index) digits.length

/-- What a backslash and a character stand for, and whether it is a place. -/
def escape (c : Char) : Parser Node := do
  match kindEscape? c, anchorEscape? c, controlEscape? c with
  | some item, _, _ => return .set ⟨false, [item]⟩
  | none, some place, _ => return .anchor place
  | none, none, some code => return single code
  | none, none, none =>
    if c == '0' then return single (octalValue (← takeSome 2 isOctal))
    else if isAsciiDigit c then numberEscape c
    else return single (← plainEscape c)

/-! ## Sets -/

/-- What a token stands for inside a set. -/
def setMember (token : List Char) : Parser SetItem :=
  match token with
  | ['\\', c] => setEscape c
  | c :: _ => return .char c.toNat
  | [] => return .char 0

/-- A range between two members of a set. -/
def setRange (first second : List Char) (low high : SetItem) : Parser SetItem := do
  let bad {α : Type} : Parser α :=
    fault ("bad character range " ++ textOf first ++ "-" ++ textOf second)
      (first.length + 1 + second.length)
  match low, high with
  | .char a, .char b => if b < a then bad else return .range a b
  | _, _ => bad

/-- The members of a set from the next token on, up to the closing bracket.  `opened` is the
position of the opening one. -/
def setItems (fuel opened : Nat) (done : List SetItem) : Parser (List SetItem) :=
  match fuel with
  | 0 => return done
  | fuel + 1 => do
    let unterminated {α : Type} : Parser α := do
      fault "unterminated character set" ((← position) - opened)
    match ← take with
    | none => unterminated
    | some first =>
      if first = [']'] && !done.isEmpty then return done
      let low ← setMember first
      if ← accept '-' then
        match ← take with
        | none => unterminated
        | some [']'] => return done ++ [low, .char 45]
        | some second =>
          let high ← setMember second
          setItems fuel opened (done ++ [← setRange first second low high])
      else setItems fuel opened (done ++ [low])

/-- A set behind its opening bracket, each member once. -/
def charSet : Parser Node := do
  let opened := (← position) - 1
  let negated ← accept '^'
  return .set ⟨negated, (← setItems ((← get).rest.length + 1) opened []).eraseDups⟩

/-! ## Repetitions -/

/-- A bound of a repetition. -/
def bound (digits : List Char) : Parser Nat := do
  let n := decimalValue digits
  if maxRepetition ≤ n then throw .repetitionTooLarge else return n

/-- The bounds behind an opening brace, none if it stands for itself. -/
def bounds? : Parser (Option (Nat × Option Nat)) := do
  let before ← get
  let here ← position
  let count := before.rest.length
  if (← peek) = some ['\x7d'] then return none
  let low ← takeSome count isAsciiDigit
  let high ← if ← accept ',' then takeSome count isAsciiDigit else pure low
  if ← accept '\x7d' then
    let least ← if low.isEmpty then pure 0 else bound low
    if high.isEmpty then return some (least, none)
    let most ← bound high
    if most < least then fault "min repeat greater than max repeat" ((← position) - here)
    return some (least, some most)
  else
    set before
    return none

/-- What an element of a sequence is to a repetition behind it. -/
inductive Repeatability where
  | place
  | repeated
  | single
  deriving DecidableEq, Repr

/-- An element of a sequence.  A group without a number is one element with all that is in it. -/
structure Element where
  nodes : List Node
  repeatability : Repeatability := .single

/-- The pattern of a sequence. -/
def sequenceOf : List Node → Node
  | [] => .empty
  | [node] => node
  | node :: rest => .seq node (sequenceOf rest)

/-- Repeat the last element.  `start` is the position of the repetition. -/
def repeatLast (done : List Element) (start : Nat) (least : Nat) (most : Option Nat) :
    Parser (List Element) := do
  let fail {α : Type} (reason : String) : Parser α := do fault reason ((← position) - start)
  match done.getLast? with
  | none => fail "nothing to repeat"
  | some last =>
    match last.repeatability with
    | .place => fail "nothing to repeat"
    | .repeated => fail "multiple repeat"
    | .single =>
      let greed ← match ← peek with
        | some ['?'] => do discard take; pure Greed.lazy
        | some ['+'] => do discard take; pure Greed.possessive
        | _ => pure Greed.greedy
      return done.dropLast ++ [⟨[.repeated greed least most (sequenceOf last.nodes)], .repeated⟩]

/-! ## Options -/

/-- What an option letter sets. -/
inductive OptionLetter where
  | option (o : Options)
  | ascii
  | unicode
  | locale
  | template
  deriving DecidableEq, Repr

/-- The option with a letter. -/
def optionLetter? : Char → Option OptionLetter
  | 'i' => some (.option { ignoreCase := true })
  | 'm' => some (.option { multiLine := true })
  | 's' => some (.option { dotAll := true })
  | 'x' => some (.option { verbose := true })
  | 'a' => some .ascii
  | 'u' => some .unicode
  | 'L' => some .locale
  | 't' => some .template
  | _ => none

/-- Options collected from letters. -/
structure Collected where
  options : Options := {}
  unicode : Bool := false
  template : Bool := false

/-- A letter that is no option, among letters or in their place. -/
def badLetter {α : Type} (cs : List Char) (missing : String) : Parser α :=
  match cs with
  | [c] =>
    if isLetter c then fault "unknown flag" 1 else fault missing 1
  | cs => fault missing cs.length

/-- The options from a letter on that is already taken, up to a character that ends them. -/
def addedOptions (fuel : Nat) (letter : OptionLetter) (done : Collected) :
    Parser (Collected × Char) :=
  match fuel with
  | 0 => return (done, ')')
  | fuel + 1 => do
    let mixed {α : Type} : Parser α :=
      fault "bad inline flags: flags 'a', 'u' and 'L' are incompatible" 0
    let done ← match letter with
      | .locale => fault "bad inline flags: cannot use 'L' flag with a str pattern" 0
      | .ascii =>
        if done.unicode then mixed
        else pure { done with options := { done.options with ascii := true } }
      | .unicode => if done.options.ascii then mixed else pure { done with unicode := true }
      | .template => pure { done with template := true }
      | .option o => pure { done with options := done.options.union o }
    match ← take with
    | none => fault "missing -, : or )" 0
    | some cs =>
      match cs with
      | [')'] => return (done, ')')
      | ['-'] => return (done, '-')
      | [':'] => return (done, ':')
      | _ =>
        match cs with
        | [c] =>
          match optionLetter? c with
          | some next => addedOptions fuel next done
          | none => badLetter cs "missing -, : or )"
        | _ => badLetter cs "missing -, : or )"

/-- The options to remove, from a letter on that is already taken, up to a colon. -/
def removedOptions (fuel : Nat) (letter : OptionLetter) (done : Collected) : Parser Collected :=
  match fuel with
  | 0 => return done
  | fuel + 1 => do
    let done ← match letter with
      | .option o => pure { done with options := done.options.union o }
      | .template => pure { done with template := true }
      | _ => fault "bad inline flags: cannot turn off flags 'a', 'u' and 'L'" 0
    match ← take with
    | none => fault "missing :" 0
    | some [':'] => return done
    | some cs =>
      match cs with
      | [c] =>
        match optionLetter? c with
        | some next => removedOptions fuel next done
        | none => badLetter cs "missing :"
      | _ => badLetter cs "missing :"

/-- The change of options in front of a colon; none if the options are those of the whole pattern,
which they then become. -/
def optionChange? (first : Char) : Parser (Option OptionChange) := do
  let fuel := (← get).rest.length + 1
  let (added, close) ← match optionLetter? first with
    | some letter => addedOptions fuel letter {}
    | none => pure ({}, '-')
  if close == ')' then
    modify fun r => { r with
      options := r.options.union added.options
      unicode := r.unicode || added.unicode
      template := r.template || added.template }
    return none
  if added.template then fault "bad inline flags: cannot turn on global flag" 1
  let removed ← if close == '-' then
      match ← take with
      | none => fault "missing flag" 0
      | some [c] =>
        match optionLetter? c with
        | some letter => removedOptions fuel letter {}
        | none => badLetter [c] "missing flag"
      | some cs => badLetter cs "missing flag"
    else pure {}
  if removed.template then fault "bad inline flags: cannot turn off global flag" 1
  if added.options.overlaps removed.options then
    fault "bad inline flags: flag turned on and off" 1
  return some ⟨added.options, removed.options, added.unicode⟩

/-! ## Groups -/

/-- What stands behind an opening parenthesis. -/
inductive Opening where
  | capture (name : Option (List Char))
  | plain
  | atomic
  | withOptions (change : OptionChange)
  | look (behind negated : Bool)
  | conditional (index : Nat)
  /-- The element is complete, up to its closing parenthesis. -/
  | done (element : Option Element)
  /-- Options of the whole pattern. -/
  | global

/-- Skip a comment up to its closing parenthesis. -/
def skipComment (fuel start : Nat) : Parser Unit :=
  match fuel with
  | 0 => return ()
  | fuel + 1 => do
    match ← peek with
    | none => fault "missing ), unterminated comment" ((← position) - start)
    | some cs =>
      discard take
      if cs = [')'] then return () else skipComment fuel start

/-- The end of the pattern where more is needed. -/
def unexpectedEnd {α : Type} : Parser α :=
  fault "unexpected end of pattern" 0

/-- The group that a condition refers to, by name or by number. -/
def conditionGroup : Parser Nat := do
  let name ← takeName ')' "group name" ((← get).rest.length + 1) []
  let back := name.length + 1
  let bad {α : Type} : Parser α :=
    fault ("bad character in group name " ++ quoted (textOf name)) back
  let index ←
    if isName name then
      match (← get).names.find? (·.1 == textOf name) with
      | some (_, index) => pure index
      | none => fault ("unknown group name " ++ quoted (textOf name)) back
    else
      match readInteger .decimal (textOf name) with
      | .error _ => bad
      | .ok n =>
        if n < 0 then bad
        if n = 0 then fault "bad group number" back
        if (maxGroup : Int) ≤ n then fault ("invalid group reference " ++ toString n) back
        let here ← position
        modify fun r => { r with
          conditions := if r.conditions.any (·.1 == n.toNat) then r.conditions
            else r.conditions ++ [(n.toNat, here - back)] }
        pure n.toNat
  checkBehind index
  return index

/-- A named group or a reference by name. -/
def namedOpening : Parser Opening := do
  let fuel := (← get).rest.length + 1
  match ← take with
  | none => unexpectedEnd
  | some ['<'] =>
    let name ← takeName '>' "group name" fuel []
    checkName name
    return .capture (some name)
  | some ['='] =>
    let name ← takeName ')' "group name" fuel []
    checkName name
    match (← get).names.find? (·.1 == textOf name) with
    | none => fault ("unknown group name " ++ quoted (textOf name)) (name.length + 1)
    | some (_, index) => return .done (some ⟨[← reference index (name.length + 1)], .single⟩)
  | some cs => fault ("unknown extension ?P" ++ textOf cs) (cs.length + 2)

/-- What a question mark behind an opening parenthesis introduces.  `start` is the position of the
parenthesis. -/
def extendedOpening (start : Nat) : Parser Opening := do
  match ← take with
  | none => unexpectedEnd
  | some ['P'] => namedOpening
  | some [':'] => return .plain
  | some ['#'] =>
    skipComment ((← get).rest.length + 1) start
    return .done none
  | some ['='] => return .look false false
  | some ['!'] => return .look false true
  | some ['<'] =>
    match ← take with
    | none => unexpectedEnd
    | some ['='] => return .look true false
    | some ['!'] => return .look true true
    | some cs => fault ("unknown extension ?<" ++ textOf cs) (cs.length + 2)
  | some ['('] => return .conditional (← conditionGroup)
  | some ['>'] => return .atomic
  | some [c] =>
    if (optionLetter? c).isSome || c == '-' then
      match ← optionChange? c with
      | none => return .global
      | some change => return .withOptions change
    else fault ("unknown extension ?" ++ String.singleton c) 2
  | some cs => fault ("unknown extension ?" ++ textOf cs) (cs.length + 1)

/-- What an opening parenthesis introduces. -/
def opening (start : Nat) : Parser Opening := do
  if ← accept '?' then extendedOpening start else return .capture none

/-- The closing parenthesis of what was opened at a position. -/
def close (start : Nat) : Parser Unit := do
  if !(← accept ')') then
    fault "missing ), unterminated subpattern" ((← position) - start)

/-! ## Sequences and alternatives -/

/-- Skip the rest of a line. -/
def skipLine (fuel : Nat) : Parser Unit :=
  match fuel with
  | 0 => return ()
  | fuel + 1 => do
    match ← take with
    | none => return ()
    | some cs => if cs = ['\n'] then return () else skipLine fuel

/-- Whether a token is blank where spaces count for nothing. -/
def isLayout : List Char → Bool
  | [c] => c == ' ' || (9 ≤ c.toNat && c.toNat ≤ 13)
  | _ => false

/-- What a sequence and some others all begin with, and what remains of them behind that. -/
def splitCommon : List Node → List (List Node) → List Node × List Node × List (List Node)
  | [], others => ([], [], others)
  | head :: tail, others =>
    if others.all fun other => other.head?.any head.sameUnit then
      let (common, rest, others) := splitCommon tail (others.map List.tail)
      (head :: common, rest, others)
    else ([], head :: tail, others)

/-- The members of some sets, none if there is anything else. -/
def membersOf (alternatives : List (List Node)) : Option (List SetItem) :=
  List.flatten <$> alternatives.mapM fun
    | [.set ⟨false, items⟩] => some items
    | _ => none

/-- The sequence that stands for some alternatives.  What they all begin with is taken out of them;
if only single characters and sets remain they are one set. -/
def joined (first : List Node) (others : List (List Node)) : List Node :=
  if others.isEmpty then first
  else
    let (common, first, others) := splitCommon first others
    match membersOf (first :: others) with
    | some items => common ++ [.set ⟨false, items.eraseDups⟩]
    | none => common ++ [branches first others]
where
  /-- Alternatives one behind the other. -/
  branches (first : List Node) : List (List Node) → Node
    | [] => sequenceOf first
    | second :: rest => .alt (sequenceOf first) (branches second rest)

/-- All that stands in some elements. -/
def nodesOf (elements : List Element) : List Node :=
  elements.flatMap (·.nodes)

mutual

/-- Alternatives up to the end of the group or of the pattern, as one sequence. -/
def alternatives (fuel : Nat) (verbose : Bool) : Parser (List Node) :=
  match fuel with
  | 0 => return []
  | fuel + 1 => do
    let first ← sequence fuel verbose false []
    return joined first (← furtherAlternatives fuel (some verbose))

/-- The alternatives behind the first one.  Whether layout counts for nothing is given, or else an
option of the whole pattern. -/
def furtherAlternatives (fuel : Nat) (verbose : Option Bool) : Parser (List (List Node)) :=
  match fuel with
  | 0 => return []
  | fuel + 1 => do
    if ← accept '|' then
      let next ← sequence fuel (verbose.getD (← get).options.verbose) false []
      return next :: (← furtherAlternatives fuel verbose)
    else return []

/-- A sequence of elements up to the end of the alternative.  `global` tells whether options of the
whole pattern may stand here. -/
def sequence (fuel : Nat) (verbose global : Bool) (done : List Element) : Parser (List Node) :=
  match fuel with
  | 0 => return nodesOf done
  | fuel + 1 => do
    let start ← position
    let more (e : Element) : Parser (List Node) := sequence fuel verbose global (done ++ [e])
    match ← peek with
    | none => return nodesOf done
    | some ['|'] => return nodesOf done
    | some [')'] => return nodesOf done
    | some token =>
      discard take
      if verbose && isLayout token then sequence fuel verbose global done
      else if verbose && token = ['#'] then
        skipLine ((← get).rest.length + 1)
        sequence fuel verbose global done
      else
        match token with
        | ['\\', c] =>
          let node ← escape c
          more ⟨[node], match node with | .anchor _ => .place | _ => .single⟩
        | ['['] => more ⟨[← charSet], .single⟩
        | ['.'] => more ⟨[.any], .single⟩
        | ['^'] => more ⟨[.anchor .start], .place⟩
        | ['$'] => more ⟨[.anchor .stop], .place⟩
        | ['?'] => sequence fuel verbose global (← repeatLast done start 0 (some 1))
        | ['*'] => sequence fuel verbose global (← repeatLast done start 0 none)
        | ['+'] => sequence fuel verbose global (← repeatLast done start 1 none)
        | ['\x7b'] =>
          match ← bounds? with
          | none => more ⟨[single 0x7b], .single⟩
          | some (least, most) =>
            sequence fuel verbose global (← repeatLast done start least most)
        | ['('] =>
          match ← opening start with
          | .done none => sequence fuel verbose global done
          | .done (some e) => more e
          | .global =>
            if !global || !done.isEmpty then
              fault "global flags not at the start of the expression" ((← position) - start)
            let r ← get
            sequence fuel r.options.verbose global done
          | .capture name =>
            let index ← openGroup name
            let body := sequenceOf (← alternatives fuel verbose)
            close start
            closeGroup index body.width
            more ⟨[.group index body], .single⟩
          | .plain =>
            let body ← alternatives fuel verbose
            close start
            more ⟨body, .single⟩
          | .atomic =>
            let body ← alternatives fuel verbose
            close start
            more ⟨[.atomic (sequenceOf body)], .single⟩
          | .withOptions change =>
            let inner := (verbose || change.add.verbose) && !change.remove.verbose
            let body ← alternatives fuel inner
            close start
            more ⟨[.withOptions change (sequenceOf body)], .single⟩
          | .look behind negated =>
            let outer := (← get).behind
            if behind && outer.isNone then
              modify fun r => { r with behind := some (r.widths.length + 1) }
            let body ← alternatives fuel verbose
            if behind && outer.isNone then modify fun r => { r with behind := none }
            close start
            more ⟨[.look behind negated (sequenceOf body)], .single⟩
          | .conditional index =>
            let yes ← sequence fuel verbose false []
            let no ← if ← accept '|' then
                let no ← sequence fuel verbose false []
                if (← peek) = some ['|'] then
                  fault "conditional backref with more than two branches" 0
                pure no
              else pure []
            close start
            more ⟨[.conditional index (sequenceOf yes) (sequenceOf no)], .single⟩
        | [c] => more ⟨[single c.toNat], .single⟩
        | _ => sequence fuel verbose global done

end

/-! ## Whole patterns -/

/-- The name of a way to repeat. -/
def Greed.name : Greed → String
  | greedy => "MAX_REPEAT"
  | lazy => "MIN_REPEAT"
  | possessive => "POSSESSIVE_REPEAT"

/-- The first fault of a pattern that has been read: a look-behind has to be of one width, and a
template has no repetitions. -/
def lateFault? (template : Bool) : Node → Option Fault
  | .seq a b => (lateFault? template a).orElse fun _ => lateFault? template b
  | .alt a b => (lateFault? template a).orElse fun _ => lateFault? template b
  | .repeated greed _ _ body =>
    if template then
      some (.malformed ("internal: unsupported template operator " ++ greed.name) none)
    else lateFault? template body
  | .group _ body => lateFault? template body
  | .withOptions _ body => lateFault? template body
  | .atomic body => lateFault? template body
  | .look behind _ body =>
    if behind && decide (maxRepetition < body.width.low) then
      some (.malformed "looks too much behind" none)
    else if behind && body.width.low != body.width.high then
      some (.malformed "look-behind requires fixed-width pattern" none)
    else lateFault? template body
  | .conditional _ yes no => (lateFault? template yes).orElse fun _ => lateFault? template no
  | _ => none

/-- A whole pattern. -/
def document : Parser Node := do
  checkNext
  let fuel := 3 * (← get).rest.length + 3
  let first ← sequence fuel false true []
  let node := sequenceOf (joined first (← furtherAlternatives fuel none))
  let r ← get
  if r.unicode && r.options.ascii then throw .conflictingAlphabets
  if !r.rest.isEmpty then fault "unbalanced parenthesis" 0
  match r.conditions.find? fun c => r.widths.length < c.1 with
  | some (index, place) =>
    throw (.malformed ("invalid group reference " ++ toString index) (some place))
  | none => return node

/-- Read a pattern. -/
def parse [CharacterNames] (text : String) : Except Fault Pattern := do
  let cs := text.toList
  let start : Reader :=
    { rest := tokens 0 cs, length := cs.length, characterNamed? := CharacterNames.find? }
  let (node, r) ← document.run start
  match lateFault? r.template node with
  | some f => throw f
  | none => return ⟨text, node, r.options⟩

/-- The text of a fault in a pattern, with its line and column if the pattern has several lines. -/
def Fault.message (text : String) : Fault → String
  | .malformed reason none => reason
  | .malformed reason (some place) =>
    let cs := text.toList
    let before := cs.take place
    let line := before.count '\n' + 1
    let column := (before.reverse.takeWhile (· != '\n')).length + 1
    reason ++ " at position " ++ toString place ++
      if cs.contains '\n' then
        " (line " ++ toString line ++ ", column " ++ toString column ++ ")"
      else ""
  | .repetitionTooLarge => Oversize.message .repetition
  | .conflictingAlphabets => ValueFault.message .alphabets

end NodeLedger.Pattern
