import Wikitext.Pattern.ClassName
import Wikitext.Pattern.Written
import Wikitext.Text.Number

/-!
# Reading written patterns

Two notations share one grammar. The plain one has no extras and reserves more
escapes; the extended one adds look-around, committed parts and references to
groups, and takes a brace that begins no count for itself. Flags in
parentheses hold to the end of their group.
-/

namespace Wikitext.Pattern

/-- Why a written pattern has no meaning. -/
inductive ReadError
  | tooDeep
  | unclosedGroup
  | unopenedGroup
  | unclosedClass
  | badClassRange
  | nothingToRepeat
  | badCount
  | badEscape
  | badCodePoint
  | badFlag
  | badGroupName
  | unknownClass
  | unknownGroup
  | unboundedLookBehind
  deriving DecidableEq, Repr

structure Flags where
  caseless : Bool := false
  multiline : Bool := false
  dotAll : Bool := false
  swapGreed : Bool := false
  verbose : Bool := false

/-- The state of reading: the text still to be read, the flags in force, the number of groups
opened so far and those that have names. -/
structure Reading where
  rest : Text
  flags : Flags := {}
  groups : Nat := 0
  names : List (Text × Nat) := []
  /-- A group was referred to by a bare number. -/
  numbered : Bool := false
  /-- How many parentheses are open. -/
  depth : Nat := 0

abbrev Read (α : Type) := StateT Reading (Except ReadError) α

namespace Read

def peek? : Read (Option Char) := return (← get).rest.head?

def skip (n : Nat) : Read Unit := modify fun s => { s with rest := s.rest.drop n }

def sees (piece : String) : Read Bool := return Text.startsWith (← get).rest piece.toList

/-- Passes over `piece` if it comes next. -/
def accept (piece : String) : Read Bool := do
  if ← sees piece then
    skip piece.length
    return true
  else return false

def flags : Read Flags := return (← get).flags

def setFlags (flags : Flags) : Read Unit := modify fun s => { s with flags }

end Read

open Read

-- -----------------------------------------------------------------------------------------
-- Space and comments
-- -----------------------------------------------------------------------------------------

/-- The text after a comment in parentheses, from after its opening. -/
def dropComment? : Text → Option Text
  | [] | ['\\'] => none
  | ')' :: t => some t
  | '\\' :: _ :: t => dropComment? t
  | _ :: t => dropComment? t

def isInsignificant (extended : Bool) (c : Char) : Bool :=
  if extended then " \t\r\n".toList.contains c else Chars.isBlank c

/-- The text after comments and, under the verbose flag, white space and the comments that end
with their line. -/
def dropSpace (extended verbose : Bool) : Nat → Text → Except ReadError Text
  | 0, t => .ok t
  | n + 1, t =>
    match t with
    | '(' :: '?' :: '#' :: cs =>
      if extended then
        match dropComment? cs with
        | some rest => dropSpace extended verbose n rest
        | none => .error .unclosedGroup
      else .ok t
    | c :: cs =>
      if verbose && c == '#' then dropSpace extended verbose n (cs.dropWhile (· != '\n'))
      else if verbose && isInsignificant extended c then dropSpace extended verbose n cs
      else .ok t
    | [] => .ok []

def skipSpace (extended : Bool) : Read Unit := do
  let rest := (← get).rest
  let rest ← dropSpace extended (← flags).verbose rest.length rest
  modify fun s => { s with rest }

-- -----------------------------------------------------------------------------------------
-- Numbers and characters
-- -----------------------------------------------------------------------------------------

def readDecimal? : Read (Option Nat) := do
  let digits := (← get).rest.takeWhile Chars.isAsciiDigit
  skip digits.length
  return Text.number? 10 digits

/-- The extended notation takes no more digits in braces than eight. -/
def readHex (extended : Bool) (width : Nat) : Read Char := do
  let rest := (← get).rest
  let digits ←
    if ← accept "\x7b" then
      let inner := (← get).rest.takeWhile (· != '\x7d')
      skip inner.length
      unless ← accept "\x7d" do throw .badCodePoint
      if inner.isEmpty || (extended && 8 < inner.length) then throw .badCodePoint
      pure inner
    else
      skip width
      if rest.length < width then throw .badCodePoint
      pure (rest.take width)
  match Text.number? 16 digits with
  | none => throw .badCodePoint
  | some n => if n.isValidChar then return Char.ofNat n else throw .badCodePoint

-- -----------------------------------------------------------------------------------------
-- Classes by name
-- -----------------------------------------------------------------------------------------

def closeCase (caseless : Bool) (accepts : Char → Bool) : Char → Bool :=
  if caseless then anyCase accepts else accepts

/-- The class named after `\p`. A class of a property is closed under case before its
complement is taken. -/
def readProperty (negative : Bool) : Read (Char → Bool) := do
  let name ←
    if ← accept "\x7b" then
      let inner := (← get).rest.takeWhile (· != '\x7d')
      skip inner.length
      unless ← accept "\x7d" do throw .unknownClass
      pure inner
    else
      let name := (← get).rest.take 1
      skip 1
      pure name
  match namedClass? name with
  | some accepts =>
    let accepts := closeCase (← flags).caseless accepts
    return fun c => accepts c != negative
  | none => throw .unknownClass

-- -----------------------------------------------------------------------------------------
-- Escapes
-- -----------------------------------------------------------------------------------------

/-- What a backslash and what follows it stand for. -/
inductive Escape
  | char (c : Char)
  | set (accepts : Char → Bool)
  | anchor (a : Anchor)
  | endBeforeLineFeeds
  | backReference (index : Nat)

/-- A group can be referred to from its start on. -/
def referTo (index : Nat) : Read Escape := do
  if (← get).groups < index then throw .unknownGroup
  return .backReference index

def readNamedReference (close : Char) : Read Escape := do
  let name := (← get).rest.takeWhile (· != close)
  skip (name.length + 1)
  match (← get).names.lookup name with
  | some index => return .backReference index
  | none =>
    if !name.isEmpty && name.all Chars.isAsciiDigit then referTo (Text.numberOfDigits 10 name)
    else throw .unknownGroup

/-- The word boundaries that are written with a name in braces. -/
def readBoundaryName? : Read (Option Anchor) := do
  if ← accept "\x7bstart\x7d" then return some .wordStart
  else if ← accept "\x7bend\x7d" then return some .wordEnd
  else return none

def readEscape (extended inClass : Bool) : Read Escape := do
  let some c ← peek? | throw .badEscape
  skip 1
  match c with
  | 'd' => return .set Chars.isDigit
  | 'D' => return .set fun c => !Chars.isDigit c
  | 's' => return .set Chars.isBlank
  | 'S' => return .set fun c => !Chars.isBlank c
  | 'w' => return .set Chars.isWord
  | 'W' => return .set fun c => !Chars.isWord c
  | 'p' => return .set (← readProperty false)
  | 'P' => return .set (← readProperty true)
  | 'x' => return .char (← readHex extended 2)
  | 'u' => return .char (← readHex extended 4)
  | 'U' => return .char (← readHex extended 8)
  | 'a' => return .char '\x07'
  | 'f' => return .char '\x0C'
  | 'n' => return .char '\n'
  | 'r' => return .char '\r'
  | 't' => return .char '\t'
  | 'v' => return .char '\x0B'
  | _ =>
    if Chars.isAsciiDigit c then
      if extended && !inClass then
        let digits := c :: (← get).rest.takeWhile Chars.isAsciiDigit
        skip (digits.length - 1)
        modify fun s => { s with numbered := true }
        referTo (Text.numberOfDigits 10 digits)
      else throw .badEscape
    else if !inClass && c == 'A' then return .anchor .textStart
    else if !inClass && c == 'z' then return .anchor .textEnd
    else if !inClass && c == 'b' then
      if ← sees "\x7b" then
        if extended then throw .badEscape
        match ← readBoundaryName? with
        | some a => return .anchor a
        | none => return .anchor .wordBoundary
      else return .anchor .wordBoundary
    else if !inClass && c == 'B' then
      if extended && (← sees "\x7b") then throw .badEscape
      return .anchor .insideWord
    else if !inClass && c == '<' then return .anchor .wordStart
    else if !inClass && c == '>' then return .anchor .wordEnd
    else if extended then
      if c == 'e' then return .char '\x1B'
      else if c == 'h' then return .set fun c => Chars.isHexDigit c
      else if c == 'H' then return .set fun c => !Chars.isHexDigit c
      else if !inClass && c == 'Z' then return .endBeforeLineFeeds
      else if !inClass && c == 'k' then
        if ← accept "<" then readNamedReference '>'
        else if ← accept "'" then readNamedReference '\''
        else throw .badGroupName
      else if Chars.isAsciiLetter c then throw .badEscape
      else return .char c
    else if c.toNat < 0x80 && !Chars.isAsciiAlphanumeric c && c != '<' && c != '>' then
      return .char c
    else throw .badEscape

-- -----------------------------------------------------------------------------------------
-- Bracketed classes
-- -----------------------------------------------------------------------------------------

/-- One part of a bracketed class: a character, which can begin a range, or a set. -/
inductive ClassItem
  | char (c : Char)
  | set (accepts : Char → Bool)

def ClassItem.accepts : ClassItem → Char → Bool
  | .char x => (· == x)
  | .set accepts => accepts

/-- A class written between brackets and colons, if one comes next. -/
def readAsciiClass? : Read (Option (Char → Bool)) := do
  let s ← get
  unless ← accept "[:" do return none
  let negative ← accept "^"
  let name := (← get).rest.takeWhile (fun c => c != ':' && c != ']')
  skip name.length
  if ← accept ":]" then
    match asciiClass? (String.ofList name) with
    | some accepts =>
      let accepts := closeCase (← flags).caseless accepts
      return some fun c => accepts c != negative
    | none => set s; return none
  else set s; return none

def classSpace (extended : Bool) : Read Unit := if extended then pure () else skipSpace false

def isClassOperator : Read Bool := return (← sees "&&") || (← sees "--") || (← sees "~~")

/-- How an operator joins what stands on its two sides. -/
def classOperation? : Read (Option ((Char → Bool) → (Char → Bool) → Char → Bool)) := do
  if ← accept "&&" then return some fun a b c => a c && b c
  else if ← accept "--" then return some fun a b c => a c && !b c
  else if ← accept "~~" then return some fun a b c => a c != b c
  else return none

mutual

/-- A class from after its opening bracket to its closing one. -/
def readClass (extended : Bool) : Nat → Read (Char → Bool)
  | 0 => throw .tooDeep
  | fuel + 1 => do
    classSpace extended
    let negative ← accept "^"
    classSpace extended
    let dashes := (← get).rest.takeWhile (· == '-')
    skip dashes.length
    classSpace extended
    let bracket ← if dashes.isEmpty then accept "]" else pure false
    let first : Char → Bool := fun c => (!dashes.isEmpty && c == '-') || (bracket && c == ']')
    let union ← readUnion extended fuel first
    let whole ← readOperations extended fuel union
    let whole := closeCase (← flags).caseless whole
    return fun c => whole c != negative

/-- The items up to an operator or the end of the class, joined to `sofar`. -/
def readUnion (extended : Bool) : Nat → (Char → Bool) → Read (Char → Bool)
  | 0, _ => throw .tooDeep
  | fuel + 1, sofar => do
    classSpace extended
    match ← peek? with
    | none => throw .unclosedClass
    | some ']' => return sofar
    | some _ =>
      if ← isClassOperator then return sofar
      let item ← readItem extended fuel
      classSpace extended
      let rest := (← get).rest
      let isRange := match rest with
        | '-' :: c :: _ => c != ']' && c != '-'
        | _ => false
      if isRange then
        skip 1
        classSpace extended
        let last ← readItem extended fuel
        match item, last with
        | .char a, .char b =>
          if b < a then throw .badClassRange
          readUnion extended fuel fun c => sofar c || (a ≤ c && c ≤ b)
        | _, _ => throw .badClassRange
      else readUnion extended fuel fun c => sofar c || item.accepts c

/-- Operators apply from left to right, each to all that stands before it. -/
def readOperations (extended : Bool) : Nat → (Char → Bool) → Read (Char → Bool)
  | 0, _ => throw .tooDeep
  | fuel + 1, left => do
    if ← accept "]" then return left
    match ← classOperation? with
    | some operation =>
      let caseless := (← flags).caseless
      let right ← readUnion extended fuel fun _ => false
      readOperations extended fuel
        (operation (closeCase caseless left) (closeCase caseless right))
    | none => throw .unclosedClass

def readItem (extended : Bool) : Nat → Read ClassItem
  | 0 => throw .tooDeep
  | fuel + 1 => do
    if let some accepts ← readAsciiClass? then return .set accepts
    if ← accept "[" then return .set (← readClass extended fuel)
    if ← accept "\\" then
      match ← readEscape extended true with
      | .char c => return .char c
      | .set accepts => return .set accepts
      | _ => throw .badEscape
    match ← peek? with
    | none => throw .unclosedClass
    | some c =>
      skip 1
      return .char c

end

-- -----------------------------------------------------------------------------------------
-- Groups, repetition and sequences
-- -----------------------------------------------------------------------------------------

def isNameChar (c : Char) : Bool := Chars.isAlphanumeric c || c == '_'

def readGroupName : Read Text := do
  let name := (← get).rest.takeWhile isNameChar
  skip name.length
  if name.isEmpty then throw .badGroupName
  unless ← accept ">" do throw .badGroupName
  return name

def openGroup : Read Nat := do
  let index := (← get).groups + 1
  modify fun s => { s with groups := index }
  return index

def flag? (c : Char) (on : Bool) (flags : Flags) : Option Flags :=
  match c with
  | 'i' => some { flags with caseless := on }
  | 'm' => some { flags with multiline := on }
  | 's' => some { flags with dotAll := on }
  | 'U' => some { flags with swapGreed := on }
  | 'x' => some { flags with verbose := on }
  | 'u' => if on then some flags else none
  | _ => none

/-- Flags up to a closing parenthesis or a colon; says whether a group of their own follows.
`seen` has the letters read so far, the last one first. The plain notation takes no letter
twice and no minus sign before nothing. -/
def readFlags (extended : Bool) : Nat → Text → Flags → Read Bool
  | 0, _, _ => throw .tooDeep
  | fuel + 1, seen, flags => do
    if extended then skipSpace true
    let dangling := if extended then seen == ['-'] else seen.head? == some '-'
    let some c ← peek? | throw .unclosedGroup
    skip 1
    match c with
    | ')' =>
      if seen.isEmpty || dangling then throw .badFlag
      setFlags flags
      return false
    | ':' =>
      if dangling then throw .badFlag
      setFlags flags
      return true
    | '-' =>
      if seen.contains '-' then throw .badFlag
      else readFlags extended fuel ('-' :: seen) flags
    | c =>
      if !extended && seen.contains c then throw .badFlag
      match flag? c (!seen.contains '-') flags with
      | some flags => readFlags extended fuel (c :: seen) flags
      | none => throw .badFlag

/-- The least and most number of times written in braces. -/
def readCount (extended : Bool) : Read (Nat × Option Nat) := do
  skipSpace extended
  let least ← readDecimal?
  skipSpace extended
  let least ← match least with
    | some n => pure n
    | none => if extended && (← sees ",") then pure 0 else throw .badCount
  if ← accept "\x7d" then return (least, some least)
  unless ← accept "," do throw .badCount
  skipSpace extended
  let most ← readDecimal?
  skipSpace extended
  unless ← accept "\x7d" do throw .badCount
  return (least, most)

/-- A repetition sign, if one comes next. -/
def readRepetition? (extended : Bool) : Read (Option (Nat × Option Nat)) := do
  if ← accept "?" then return some (0, some 1)
  else if ← accept "*" then return some (0, none)
  else if ← accept "+" then return some (1, none)
  else if ← sees "\x7b" then
    let s ← get
    skip 1
    if extended then
      match (readCount extended).run (← get) with
      | .ok (count, s') => set s'; return some count
      | .error _ => set s; return none
    else return some (← readCount extended)
  else return none

def isRepeatable (extended : Bool) : Written → Bool
  | .empty => false
  | .look .. => false
  | .anchor _ => !extended
  | _ => true

/-- Repetition signs after `w`, each repeating all before it. -/
def readRepetitions (extended : Bool) : Nat → Written → Read Written
  | 0, w => return w
  | fuel + 1, w => do
    skipSpace extended
    match ← readRepetition? extended with
    | none => return w
    | some (least, most) =>
      unless isRepeatable extended w do throw .nothingToRepeat
      if most.any (· < least) then throw .badCount
      skipSpace extended
      let lazy ← accept "?"
      let greedy := (!lazy) != (← flags).swapGreed
      let w := Written.times least most greedy w
      if extended then
        -- A plus commits to the repetition; another sign would have nothing to repeat.
        return if ← accept "+" then .commit w else w
      else readRepetitions extended fuel w

def readDot : Read Written := do
  if (← flags).dotAll then return .char fun _ => true
  else return .char notLineFeed

def readLiteral (c : Char) : Read Written := do
  return .char (closeCase (← flags).caseless (· == c))

def lineFeedsToEnd : Written :=
  .look true true (.seq (.times 0 none true (.char (· == '\n'))) (.anchor .textEnd))

/-- How many parentheses may not be open at once in the extended notation. -/
def maxDepth : Nat := 64

mutual

def readAlternatives (extended : Bool) : Nat → Read Written
  | 0 => throw .tooDeep
  | fuel + 1 => do
    let first ← readSequence extended fuel
    if ← sees "|" then readOthers extended fuel first
    else
      let s ← get
      if s.numbered && !s.names.isEmpty then throw .badGroupName
      return first

/-- The alternatives that follow `first`. -/
def readOthers (extended : Bool) : Nat → Written → Read Written
  | 0, _ => throw .tooDeep
  | fuel + 1, first => do
    if ← accept "|" then
      let next ← readSequence extended fuel
      return .alt first (← readOthers extended fuel next)
    else return first

def readSequence (extended : Bool) : Nat → Read Written
  | 0 => throw .tooDeep
  | fuel + 1 => do
    skipSpace extended
    match ← peek? with
    | none | some '|' | some ')' => return .empty
    | some _ =>
      let atom ← readAtom extended fuel
      let piece ← readRepetitions extended fuel atom
      return piece.followedBy (← readSequence extended fuel)

def readAtom (extended : Bool) : Nat → Read Written
  | 0 => throw .tooDeep
  | fuel + 1 => do
    let some c ← peek? | throw .nothingToRepeat
    match c with
    | '.' => skip 1; readDot
    | '^' =>
      skip 1
      return .anchor (if (← flags).multiline then .lineStart else .textStart)
    | '$' =>
      skip 1
      return .anchor (if (← flags).multiline then .lineEnd else .textEnd)
    | '(' => skip 1; readGroup extended fuel
    | '[' =>
      skip 1
      return .char (← readClass extended fuel)
    | '\\' =>
      skip 1
      match ← readEscape extended false with
      | .char c => readLiteral c
      | .set accepts => return .char (closeCase (← flags).caseless accepts)
      | .anchor a => return .anchor a
      | .endBeforeLineFeeds => return lineFeedsToEnd
      | .backReference index => return .backReference index
    | '?' | '*' | '+' => throw .nothingToRepeat
    | '\x7b' => if extended then skip 1; readLiteral c else throw .nothingToRepeat
    | c => skip 1; readLiteral c

/-- A group from after its opening parenthesis. -/
def readGroup (extended : Bool) : Nat → Read Written
  | 0 => throw .tooDeep
  | fuel + 1 => do
    let outer ← flags
    let depth := (← get).depth + 1
    if extended && maxDepth ≤ depth then throw .tooDeep
    modify fun s => { s with depth }
    let close (wrap : Written → Written) : Read Written := do
      let inner ← readAlternatives extended fuel
      unless ← accept ")" do throw .unclosedGroup
      modify fun s => { s with flags := outer, depth := depth - 1 }
      return wrap inner
    skipSpace extended
    if extended && (← accept "?=") then close (.look true true)
    else if extended && (← accept "?!") then close (.look true false)
    else if extended && (← accept "?<=") then close (.look false true)
    else if extended && (← accept "?<!") then close (.look false false)
    else if extended && (← accept "?>") then close .commit
    else if extended && (← accept "?P=") then
      match ← readNamedReference ')' with
      | .backReference index =>
        modify fun s => { s with depth := depth - 1 }
        return .backReference index
      | _ => throw .unknownGroup
    else if (← accept "?P<") || (← accept "?<") then
      let index ← openGroup
      let name ← readGroupName
      if !extended && ((← get).names.lookup name).isSome then throw .badGroupName
      modify fun s => { s with names := (name, index) :: s.names }
      close (.capture index)
    else if ← accept "?" then
      if ← readFlags extended fuel [] outer then
        close fun w => if extended then w else .seq .empty w
      else
        modify fun s => { s with depth := depth - 1 }
        return .empty
    else
      let index ← openGroup
      close (.capture index)

end

/-- A pattern that was read, with the number of its groups and the names of some. -/
structure ReadPattern where
  tree : Written
  groups : Nat
  names : List (Text × Nat)

/-- Reads a whole text as a pattern. -/
def read (extended : Bool) (t : Text) : Except ReadError ReadPattern := do
  let (tree, s) ← (readAlternatives extended (4 * t.length + 8)).run { rest := t }
  unless s.rest.isEmpty do throw .unopenedGroup
  return { tree, groups := s.groups, names := s.names }

/-- Reads a pattern of the plain notation. -/
def readPlain (t : Text) : Except ReadError Regex := do
  let read ← read false t
  match read.tree.pattern? with
  | some p => return p.compile
  | none => throw .badEscape

end Wikitext.Pattern
