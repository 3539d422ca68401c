/-!
# Characters

Letters and digits of ASCII, white space, and sets of characters. A set is written as the
code points at which membership changes, in increasing order: the first starts a run, the second
ends it, and so on. A character is in the set when an odd number of boundaries is at or below it.
-/

namespace Wikitext.Chars

-- -----------------------------------------------------------------------------------------
-- ASCII
-- -----------------------------------------------------------------------------------------

def isAsciiLetter (c : Char) : Bool :=
  ('a' ≤ c && c ≤ 'z') || ('A' ≤ c && c ≤ 'Z')

def isAsciiDigit (c : Char) : Bool :=
  '0' ≤ c && c ≤ '9'

def isAsciiAlphanumeric (c : Char) : Bool :=
  isAsciiLetter c || isAsciiDigit c

/-- The value of a hexadecimal digit, whose letters may have either case. -/
def hexValue? (c : Char) : Option Nat :=
  if isAsciiDigit c then some (c.toNat - '0'.toNat)
  else if 'a' ≤ c && c ≤ 'f' then some (c.toNat - 'a'.toNat + 10)
  else if 'A' ≤ c && c ≤ 'F' then some (c.toNat - 'A'.toNat + 10)
  else none

/-- The value of a digit in a base up to sixteen. -/
def digitValue? (base : Nat) (c : Char) : Option Nat :=
  (hexValue? c).filter (· < base)

def isHexDigit (c : Char) : Bool :=
  (hexValue? c).isSome

-- -----------------------------------------------------------------------------------------
-- White space
-- -----------------------------------------------------------------------------------------

/-- Whether the character has the White_Space property. More characters have it than those of
`Char.isWhitespace`. -/
def isBlank (c : Char) : Bool :=
  let n := c.toNat
  (0x09 ≤ n && n ≤ 0x0D) || n == 0x20 || n == 0x85 || n == 0xA0 || n == 0x1680 ||
    (0x2000 ≤ n && n ≤ 0x200A) || n == 0x2028 || n == 0x2029 || n == 0x202F ||
    n == 0x205F || n == 0x3000

theorem isBlank_of_isWhitespace {c : Char} (h : c.isWhitespace = true) : isBlank c = true := by
  simp only [Char.isWhitespace, Bool.or_eq_true, decide_eq_true_eq] at h
  rcases h with ((rfl | rfl) | rfl) | rfl <;> decide

-- -----------------------------------------------------------------------------------------
-- Sets as sorted boundaries
-- -----------------------------------------------------------------------------------------

structure Ranges where
  bounds : Array Nat

/-- How many of the sorted entries from `lo` below `hi` are at most `n`, counted from zero,
found by halving the interval at most `fuel` times. -/
def Ranges.rank (bounds : Array Nat) (n : Nat) : Nat → Nat → Nat → Nat
  | 0, lo, _ => lo
  | fuel + 1, lo, hi =>
    if lo < hi then
      let mid := (lo + hi) / 2
      if bounds.getD mid 0 ≤ n then rank bounds n fuel (mid + 1) hi
      else rank bounds n fuel lo mid
    else lo

def Ranges.contains (r : Ranges) (c : Char) : Bool :=
  Ranges.rank r.bounds c.toNat (r.bounds.size.log2 + 1) 0 r.bounds.size % 2 == 1

end Wikitext.Chars
