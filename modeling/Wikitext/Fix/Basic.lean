import Wikitext.Pattern.Search

/-!
# Fixes

A fix maps the text of an article to a better one; it changed something if the
two differ. One pass can leave work behind, where matches overlap or one change
makes room for another, so passes are repeated until a pass changes nothing, up
to a fixed number of them.
-/

namespace Wikitext.Fix

open Pattern

def maxPasses : Nat := 32

/-- Applies `step` to `t` at most `n` times more, stopping when it changes nothing. -/
def settle (step : Text → Text) : Nat → Text → Text
  | 0, t => t
  | n + 1, t =>
    let next := step t
    if next == t then t else settle step n next

/-- The first iterate of `step` that it leaves unchanged, among those after one to
`maxPasses` applications; the last of them if there is none. -/
def untilStable (step : Text → Text) (t : Text) : Text := settle step (maxPasses - 1) (step t)

/-- A pattern with what is to be put in the place of its matches. -/
structure Replacement where
  regex : Regex
  newText : Match → Text

namespace Replacement

def of (p : Pattern) (newText : Match → Text) : Replacement := ⟨p.compile, newText⟩

def apply (r : Replacement) (t : Text) : Text := r.regex.replaceAll r.newText t

end Replacement

/-- One pass over the replacements, each on the result of the one before it. -/
def replaceOnce (table : List Replacement) (t : Text) : Text := table.foldl (fun t r => r.apply t) t

def replaceUntilStable (table : List Replacement) (t : Text) : Text :=
  untilStable (replaceOnce table) t

-- -----------------------------------------------------------------------------------------
-- Pieces that several fixes share
-- -----------------------------------------------------------------------------------------

def months : Pattern :=
  firstOf (["January", "February", "March", "April", "May", "June", "July", "August",
    "September", "October", "November", "December"].map lit)

/-- The characters of `s` are excluded, and so is white space. -/
def noneOfOrBlank (s : String) : Pattern :=
  let cs := s.toList
  .char fun c => !(Chars.isBlank c || cs.contains c)

def notBlank : Pattern := .char fun c => !Chars.isBlank c

/-- The scheme of a web address. -/
def scheme : Pattern := (lit "http" ++ opt (lit "s") <|> lit "ftp") ++ lit "://"

/-- Any characters of one line. -/
def inLine (c : Char) : Bool := Pattern.notLineFeed c

end Wikitext.Fix
