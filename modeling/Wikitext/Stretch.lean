import Wikitext.Pattern.Search

/-!
# Removing stretches of a text

A stretch that has its lines for itself is removed with the line break after
it, or the one before it on the last line; any other stretch is removed alone.
-/

namespace Wikitext

/-- The characters of a text from position `start` up to position `stop`. -/
structure Stretch where
  start : Nat
  stop : Nat
  deriving DecidableEq, Repr

namespace Stretch

def ofMatch (t : Text) (m : Match) : Stretch :=
  ⟨t.length - m.start.left, t.length - m.stop.left⟩

/-- Whether there is only white space beside the stretch on its lines. -/
def hasOwnLine (t : Text) (s : Stretch) : Bool :=
  Text.isBlankText (Text.slice t (Text.lineStart t s.start) s.start) &&
    Text.isBlankText ((t.drop s.stop).takeWhile (· != '\n'))

/-- The part of `t` from `last` up to the stretch that stays, and where the next part starts. -/
def removeOne (t : Text) (last : Nat) (s : Stretch) : Text × Nat :=
  if s.start < last then ([], last)
  else if !s.hasOwnLine t then (Text.slice t last s.start, s.stop)
  else
    let lineStart := Text.lineStart t s.start
    let restOfLine := (t.drop s.stop).takeWhile (· != '\n')
    if s.stop + restOfLine.length < t.length then
      (Text.slice t last (max lineStart last), s.stop + restOfLine.length + 1)
    else (Text.slice t last (max (lineStart - 1) last), t.length)

def removeFrom (t : Text) : Nat → List Stretch → Text
  | last, [] => t.drop last
  | last, s :: ss =>
    let (kept, last) := removeOne t last s
    kept ++ removeFrom t last ss

/-- Puts a stretch before the first one that does not begin before it. -/
def insert (s : Stretch) : List Stretch → List Stretch
  | [] => [s]
  | s' :: ss => if s.start ≤ s'.start then s :: s' :: ss else s' :: insert s ss

/-- The stretches by their start; those that begin together keep their order. -/
def sorted (ss : List Stretch) : List Stretch := ss.foldr insert []

/-- Removes stretches that are sorted by their start; one that overlaps an earlier one stays. -/
def removeAll (t : Text) (ss : List Stretch) : Text := removeFrom t 0 ss

end Stretch

end Wikitext
