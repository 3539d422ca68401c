import Wikitext.Text.Number

/-!
# JSON

Values are read strictly: no commas at ends, no repeated signs, no control
characters in strings. A string can name halves of surrogate pairs that no text
can hold; it is a value all the same, and only its text is missing.
-/

namespace Wikitext.Json

inductive Value
  | null
  | bool (b : Bool)
  | number
  | string (text : Option Text)
  | array (items : List Value)
  | object (fields : List (Option Text × Value))

def skipSpace (t : Text) : Text := t.dropWhile fun c => " \t\n\r".toList.contains c

-- -----------------------------------------------------------------------------------------
-- Strings
-- -----------------------------------------------------------------------------------------

/-- A part of a written string. -/
inductive StringUnit
  | char (c : Char)
  | code (n : Nat)
  deriving DecidableEq

def escapes : List (Char × Char) :=
  [('\x22', '\x22'), ('\\', '\\'), ('/', '/'), ('b', '\x08'), ('f', '\x0c'), ('n', '\n'),
    ('r', '\r'), ('t', '\t')]

/-- The units of a string behind its opening quote, and what follows the closing one. -/
def units? : Text → Option (List StringUnit × Text)
  | [] => none
  | '\\' :: 'u' :: a :: b :: c :: d :: rest => do
    let n ← Text.number? 16 [a, b, c, d]
    let (units, rest) ← units? rest
    return (.code n :: units, rest)
  | '\\' :: c :: rest => do
    let x ← escapes.lookup c
    let (units, rest) ← units? rest
    return (.char x :: units, rest)
  | c :: rest =>
    if c == '\x22' then some ([], rest)
    else if c == '\\' || c.toNat < 0x20 then none
    else do
      let (units, rest) ← units? rest
      return (.char c :: units, rest)

def isHigh (n : Nat) : Bool := 0xD800 ≤ n && n ≤ 0xDBFF

def isLow (n : Nat) : Bool := 0xDC00 ≤ n && n ≤ 0xDFFF

/-- The text of the units; surrogates have to come in pairs. -/
def textOfUnits? : List StringUnit → Option Text
  | [] => some []
  | .char c :: rest => (textOfUnits? rest).map (c :: ·)
  | .code n :: .code m :: rest =>
    if isHigh n then
      if isLow m then
        (textOfUnits? rest).map (Char.ofNat (0x10000 + (n - 0xD800) * 0x400 + (m - 0xDC00)) :: ·)
      else none
    else if isLow n then none
    else (textOfUnits? (.code m :: rest)).map (Char.ofNat n :: ·)
  | .code n :: rest =>
    if isHigh n || isLow n then none else (textOfUnits? rest).map (Char.ofNat n :: ·)

-- -----------------------------------------------------------------------------------------
-- Numbers
-- -----------------------------------------------------------------------------------------

/-- What follows one or more digits. -/
def afterDigits? (t : Text) : Option Text :=
  match t.head? with
  | some c => if Chars.isAsciiDigit c then some (t.dropWhile Chars.isAsciiDigit) else none
  | none => none

def afterExponent? : Text → Option Text
  | c :: t =>
    if c == 'e' || c == 'E' then
      match t with
      | '+' :: t => afterDigits? t
      | '-' :: t => afterDigits? t
      | t => afterDigits? t
    else some (c :: t)
  | [] => some []

def afterFraction? : Text → Option Text
  | '.' :: t => afterDigits? t
  | t => some t

/-- What follows a number. A zero in front stands alone. -/
def afterNumber? (t : Text) : Option Text := do
  let t := match t with
    | '-' :: t => t
    | t => t
  let t ← match t with
    | '0' :: t => if t.head?.any Chars.isAsciiDigit then none else some t
    | t => afterDigits? t
  afterExponent? (← afterFraction? t)

-- -----------------------------------------------------------------------------------------
-- Values
-- -----------------------------------------------------------------------------------------

mutual

/-- The value at the start of a text, and what follows it. The first argument is more than the
number of characters. -/
def value? : Nat → Text → Option (Value × Text)
  | 0, _ => none
  | n + 1, t =>
    match skipSpace t with
    | '[' :: t =>
      match skipSpace t with
      | ']' :: rest => some (.array [], rest)
      | t => (items? n t).map fun (items, rest) => (.array items, rest)
    | '\x7b' :: t =>
      match skipSpace t with
      | '\x7d' :: rest => some (.object [], rest)
      | t => (fields? n t).map fun (fields, rest) => (.object fields, rest)
    | '\x22' :: t => (units? t).map fun (units, rest) => (.string (textOfUnits? units), rest)
    | t =>
      match Text.dropPrefix? "null".toList t with
      | some rest => some (.null, rest)
      | none =>
        match Text.dropPrefix? "true".toList t with
        | some rest => some (.bool true, rest)
        | none =>
          match Text.dropPrefix? "false".toList t with
          | some rest => some (.bool false, rest)
          | none => (afterNumber? t).map fun rest => (.number, rest)

/-- One or more values up to the end of their array. -/
def items? : Nat → Text → Option (List Value × Text)
  | 0, _ => none
  | n + 1, t => do
    let (v, t) ← value? n t
    match skipSpace t with
    | ',' :: t =>
      let (vs, rest) ← items? n t
      return (v :: vs, rest)
    | ']' :: rest => return ([v], rest)
    | _ => none

/-- One or more fields up to the end of their object. -/
def fields? : Nat → Text → Option (List (Option Text × Value) × Text)
  | 0, _ => none
  | n + 1, t => do
    match skipSpace t with
    | '\x22' :: t =>
      let (key, t) ← units? t
      match skipSpace t with
      | ':' :: t =>
        let (v, t) ← value? n t
        match skipSpace t with
        | ',' :: t =>
          let (fields, rest) ← fields? n t
          return ((textOfUnits? key, v) :: fields, rest)
        | '\x7d' :: rest => return ([(textOfUnits? key, v)], rest)
        | _ => none
      | _ => none
    | _ => none

end

/-- The value that a whole text gives. -/
def read? (t : Text) : Option Value := do
  let (v, rest) ← value? (t.length + 1) t
  if (skipSpace rest).isEmpty then some v else none

-- -----------------------------------------------------------------------------------------
-- Writing
-- -----------------------------------------------------------------------------------------

def hexDigits (width n : Nat) : Text :=
  let digits := Nat.toDigits 16 n
  List.replicate (width - digits.length) '0' ++ digits

def escapeChar (c : Char) : Text :=
  if c == '\x22' then ['\\', '\x22']
  else if c == '\\' then ['\\', '\\']
  else if 0x20 ≤ c.toNat then [c]
  else match escapes.find? (·.2 == c) with
    | some (name, _) => ['\\', name]
    | none => '\\' :: 'u' :: hexDigits 4 c.toNat

/-- A text as a string; only quotes, backslashes and control characters are escaped. -/
def quoted (t : Text) : Text := '\x22' :: t.flatMap escapeChar ++ ['\x22']

/-- An object of one line whose values are written already. -/
def objectLine (fields : List (String × Text)) : Text :=
  let written := fields.map fun (name, value) => quoted name.toList ++ ':' :: value
  '\x7b' :: Text.join [','] written ++ ['\x7d']

def boolText (b : Bool) : Text := (if b then "true" else "false").toList

end Wikitext.Json
