import Wikitext.Calendar
import Wikitext.Text.Basic
import Wikitext.Text.Number

/-!
# TOML values and their parts

Tables can be written in several ways, and which one was used decides what may
be added to a table later. Numbers, truth values and times have to be well
written but nobody asks for them.

Each reader gives what stands at the start of a text and what follows it.
-/

namespace Wikitext.Toml

-- -----------------------------------------------------------------------------------------
-- Values
-- -----------------------------------------------------------------------------------------

/-- How a table came to be. -/
inductive Form
  /-- Written in braces; it is complete. -/
  | inlined
  /-- Named in front of the last dot of a key. -/
  | dotted
  /-- Named in front of the last dot of a header only. -/
  | implied
  /-- The document itself, or a table with a header. -/
  | defined
  deriving DecidableEq, Repr

inductive Value
  | string (t : Text)
  | scalar
  | array (items : List Value)
  | table (form : Form) (entries : List (Text × Value))
  /-- Tables with one header in double brackets. -/
  | tables (items : List (List (Text × Value)))

abbrev Entries := List (Text × Value)

/-- Sets the value of a key. -/
def Entries.set (entries : Entries) (key : Text) (v : Value) : Entries :=
  if (entries.lookup key).isSome then
    entries.map fun (k, old) => if k == key then (k, v) else (k, old)
  else entries ++ [(key, v)]

/-- Changes the table that a path leads to. Tables on the way that do not exist are made. A
path in a key (`dotted`) must not lead through tables that have a header. -/
def descend (dotted : Bool) (change : Form → Entries → Option Entries) (form : Form) :
    List Text → Entries → Option Entries
  | [], entries => change form entries
  | key :: path, entries =>
    match entries.lookup key with
    | none => do
      let form := if dotted then .dotted else .implied
      return entries.set key (.table form (← descend dotted change form path []))
    | some (.table form inner) =>
      if form == .inlined || (dotted && form == .defined) then none
      else do return entries.set key (.table form (← descend dotted change form path inner))
    | some (.tables items) => do
      let last ← descend dotted change .defined path (items.getLastD [])
      return entries.set key (.tables (items.dropLast ++ [last]))
    | some _ => none

/-- Adds a value under a new key. -/
def insert (form : Form) (entries : Entries) (path : List Text) (key : Text) (v : Value) :
    Option Entries :=
  descend true
    (fun form entries =>
      if (form == .dotted) == path.isEmpty || (entries.lookup key).isSome then none
      else some (entries ++ [(key, v)]))
    form path entries

-- -----------------------------------------------------------------------------------------
-- White space and line breaks
-- -----------------------------------------------------------------------------------------

def isSpace (c : Char) : Bool := c == ' ' || c == '\t'

def skipSpace (t : Text) : Text := t.dropWhile isSpace

/-- A character that may stand in strings and comments, line breaks apart. -/
def isPrintable (c : Char) : Bool := c == '\t' || (0x20 ≤ c.toNat && c.toNat != 0x7F)

/-- What follows a line break. -/
def afterBreak? : Text → Option Text
  | '\n' :: t => some t
  | '\r' :: '\n' :: t => some t
  | _ => none

/-- What follows a comment, which goes to the end of the line. -/
def afterComment (t : Text) : Text := t.dropWhile fun c => isPrintable c || c.toNat == 0x7F

/-- What follows the rest of a line that may hold a comment only. -/
def afterLine? (t : Text) : Option Text :=
  let t := match skipSpace t with
    | '#' :: t => afterComment t
    | t => t
  if t.isEmpty then some [] else afterBreak? t

-- -----------------------------------------------------------------------------------------
-- Strings
-- -----------------------------------------------------------------------------------------

def escapes : List (Char × Char) :=
  [('b', '\x08'), ('f', '\x0c'), ('n', '\n'), ('r', '\r'), ('t', '\t'), ('\x22', '\x22'),
    ('\\', '\\')]

/-- The character with a code point of `width` hexadecimal digits. -/
def codePoint? (width : Nat) (t : Text) : Option (Char × Text) :=
  let digits := t.take width
  let n := Text.numberOfDigits 16 digits
  if digits.length == width && digits.all Chars.isHexDigit && n.isValidChar then
    some (Char.ofNat n, t.drop width)
  else none

/-- The character that is escaped, read behind the backslash. -/
def escaped? : Text → Option (Char × Text)
  | 'u' :: t => codePoint? 4 t
  | 'U' :: t => codePoint? 8 t
  | c :: t => (escapes.lookup c).map (·, t)
  | [] => none

/-- A string of one line behind its opening quote. The first argument bounds its length. -/
def lineString? (quote : Char) : Nat → Text → Option (Text × Text)
  | 0, _ => none
  | _ + 1, [] => none
  | n + 1, c :: t =>
    if c == quote then some ([], t)
    else if c == '\\' && quote == '\x22' then do
      let (x, t) ← escaped? t
      let (s, rest) ← lineString? quote n t
      return (x :: s, rest)
    else if isPrintable c then do
      let (s, rest) ← lineString? quote n t
      return (c :: s, rest)
    else none

/-- What follows blanks and line breaks, of which there is one on the first line. -/
def afterFolding? (t : Text) : Option Text :=
  (afterBreak? (skipSpace t)).map skipLines
where
  skipLines : Text → Text
    | '\r' :: '\n' :: t => skipLines t
    | c :: t => if isSpace c || c == '\n' then skipLines t else c :: t
    | [] => []

/-- A string of several lines behind its three opening quotes. Up to two quotes may stand
before the closing ones. -/
def blockString? (quote : Char) : Nat → Text → Option (Text × Text)
  | 0, _ => none
  | n + 1, t =>
    let run := (t.takeWhile (· == quote)).length
    if 3 ≤ run then
      let kept := min (run - 3) 2
      some (List.replicate kept quote, t.drop (3 + kept))
    else
      match afterBreak? t, t with
      | some t, _ => continueWith n '\n' t
      | none, [] => none
      | none, c :: t =>
        if c == '\\' && quote == '\x22' then
          match afterFolding? t with
          | some t => blockString? quote n t
          | none => do
            let (x, t) ← escaped? t
            continueWith n x t
        else if isPrintable c then continueWith n c t
        else none
where
  continueWith (n : Nat) (c : Char) (t : Text) : Option (Text × Text) :=
    (blockString? quote n t).map fun (s, rest) => (c :: s, rest)

/-- A string of either kind; the line break after three opening quotes does not count. -/
def string? (t : Text) : Option (Text × Text) :=
  match t with
  | a :: b :: c :: t' =>
    if isQuote a && a == b && b == c then
      blockString? a (t.length + 1) ((afterBreak? t').getD t')
    else short? t
  | t => short? t
where
  isQuote (c : Char) : Bool := c == '\x22' || c == '\x27'
  short? : Text → Option (Text × Text)
    | q :: t => if isQuote q then lineString? q (t.length + 1) t else none
    | [] => none

-- -----------------------------------------------------------------------------------------
-- Keys
-- -----------------------------------------------------------------------------------------

def isKeyChar (c : Char) : Bool := Chars.isAsciiAlphanumeric c || c == '_' || c == '-'

def simpleKey? (t : Text) : Option (Text × Text) :=
  match string?.short? t with
  | some found => some found
  | none =>
    let key := t.takeWhile isKeyChar
    if key.isEmpty then none else some (key, t.drop key.length)

/-- How many keys may be joined by dots, and how deeply values may be nested. -/
def limit : Nat := 80

/-- Keys joined by dots, with blanks around them. -/
def keysFrom? : Nat → Text → Option (List Text × Text)
  | 0, _ => none
  | n + 1, t => do
    let (key, t) ← simpleKey? (skipSpace t)
    match skipSpace t with
    | '.' :: t =>
      let (keys, rest) ← keysFrom? n t
      return (key :: keys, rest)
    | rest => return ([key], rest)

/-- The keys in front of the last dot, the last key, and what follows. -/
def key? (t : Text) : Option (List Text × Text × Text) := do
  let (keys, rest) ← keysFrom? (limit - 1) t
  return (keys.dropLast, ← keys.getLast?, rest)

-- -----------------------------------------------------------------------------------------
-- Numbers
-- -----------------------------------------------------------------------------------------

/-- Digits with single underscores between them, after a first one. -/
def moreDigits? (isDigit : Char → Bool) : Text → Option (Text × Text)
  | '_' :: c :: t =>
    if isDigit c then (moreDigits? isDigit t).map fun (s, rest) => (c :: s, rest) else none
  | c :: t =>
    if isDigit c then (moreDigits? isDigit t).map fun (s, rest) => (c :: s, rest)
    else if c == '_' then none
    else some ([], c :: t)
  | [] => some ([], [])

def digits? (isDigit : Char → Bool) : Text → Option (Text × Text)
  | c :: t =>
    if isDigit c then (moreDigits? isDigit t).map fun (s, rest) => (c :: s, rest) else none
  | [] => none

/-- A sign, and what follows it. -/
def sign : Text → Bool × Text
  | '-' :: t => (true, t)
  | '+' :: t => (false, t)
  | t => (false, t)

/-- Whole digits: a zero in front stands alone. -/
def wholeDigits? : Text → Option (Text × Text)
  | '0' :: t => some (['0'], t)
  | t => digits? Chars.isAsciiDigit t

/-- The largest integer of 64 bits with a sign. -/
def largestInteger : Nat := 9223372036854775807

/-- A number in another base, after its mark. -/
def baseInteger? (base : Nat) (t : Text) : Option Text := do
  let (digits, rest) ← digits? (fun c => (Chars.digitValue? base c).isSome) t
  if Text.numberOfDigits base digits ≤ largestInteger then some rest else none

def integer? : Text → Option Text
  | '0' :: 'x' :: t => baseInteger? 16 t
  | '0' :: 'o' :: t => baseInteger? 8 t
  | '0' :: 'b' :: t => baseInteger? 2 t
  | t => do
    let (negative, t) := sign t
    let (digits, rest) ← wholeDigits? t
    let n := Text.numberOfDigits 10 digits
    if n ≤ largestInteger + (if negative then 1 else 0) then some rest else none

/-- Whether a number given by its digits and a power of ten is too large to be finite: whether
it is at least halfway from the largest finite number of 64 bits to the next power of two. -/
def isInfinite (digits : Text) (exponent : Int) : Bool :=
  let n := Text.numberOfDigits 10 digits
  let bound := (Nat.pow 2 54 - 1) * Nat.pow 2 970
  let size : Int := (Text.ofNat n).length + exponent
  if n == 0 || size < 300 then false
  else if size > 320 then true
  else if 0 ≤ exponent then n * Nat.pow 10 exponent.toNat ≥ bound
  else n ≥ bound * Nat.pow 10 (-exponent).toNat

def exponent? : Text → Option (Int × Text)
  | c :: t =>
    if c == 'e' || c == 'E' then do
      let (negative, t) := sign t
      let (digits, rest) ← digits? Chars.isAsciiDigit t
      let n : Int := Text.numberOfDigits 10 digits
      return (if negative then -n else n, rest)
    else none
  | [] => none

def fraction? : Text → Option (Text × Text)
  | '.' :: t => digits? Chars.isAsciiDigit t
  | _ => none

def float? (t : Text) : Option Text := do
  let (negative, t) := sign t
  match (Text.dropPrefix? "inf".toList t).or (Text.dropPrefix? "nan".toList t) with
  | some rest => some rest
  | none =>
    let (whole, t) ← wholeDigits? t
    let (part, t, hasPart) := match fraction? t with
      | some (part, t) => (part, t, true)
      | none => ([], t, false)
    let (exponent, rest, hasExponent) := match exponent? t with
      | some (e, rest) => (e, rest, true)
      | none => (0, t, false)
    if !hasPart && !hasExponent then none
    else if !negative && isInfinite (whole ++ part) (exponent - part.length) then none
    else some rest

-- -----------------------------------------------------------------------------------------
-- Times
-- -----------------------------------------------------------------------------------------

/-- A number of exactly `width` digits. -/
def fixedNumber? (width : Nat) (t : Text) : Option (Nat × Text) :=
  let digits := t.take width
  if digits.length == width && digits.all Chars.isAsciiDigit then
    some (Text.numberOfDigits 10 digits, t.drop width)
  else none

def afterDate? (t : Text) : Option Text := do
  let (year, t) ← fixedNumber? 4 t
  let (month, t) ← fixedNumber? 2 (← Text.dropPrefix? ['-'] t)
  let (day, rest) ← fixedNumber? 2 (← Text.dropPrefix? ['-'] t)
  if isCalendarDate year month day then some rest else none

def afterTime? (t : Text) : Option Text := do
  let (hour, t) ← fixedNumber? 2 t
  let (minute, t) ← fixedNumber? 2 (← Text.dropPrefix? [':'] t)
  let (second, t) ← fixedNumber? 2 (← Text.dropPrefix? [':'] t)
  let rest := match t with
    | '.' :: c :: rest =>
      if Chars.isAsciiDigit c then rest.dropWhile Chars.isAsciiDigit else t
    | _ => t
  if hour ≤ 23 && minute ≤ 59 && second ≤ 60 then some rest else none

def afterOffset : Text → Text
  | 'Z' :: t => t
  | 'z' :: t => t
  | t =>
    let offset : Option Text := do
      let t ← (Text.dropPrefix? ['+'] t).or (Text.dropPrefix? ['-'] t)
      let (hour, t) ← fixedNumber? 2 t
      let (minute, rest) ← fixedNumber? 2 (← Text.dropPrefix? [':'] t)
      if hour ≤ 23 && minute ≤ 59 then some rest else none
    offset.getD t

/-- A date, a time or both. -/
def time? (t : Text) : Option Text :=
  match afterDate? t with
  | none => afterTime? t
  | some (c :: t) =>
    if c == 'T' || c == 't' || c == ' ' then
      match afterTime? t with
      | some t => some (afterOffset t)
      | none => some (c :: t)
    else some (c :: t)
  | some [] => some []

/-- What follows a number or a time. -/
def scalar? (t : Text) : Option Text :=
  match Text.dropPrefix? "true".toList t with
  | some rest => some rest
  | none =>
    match Text.dropPrefix? "false".toList t with
    | some rest => some rest
    | none => (time? t).or ((float? t).or (integer? t))

end Wikitext.Toml
