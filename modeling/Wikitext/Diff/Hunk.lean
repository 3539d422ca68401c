import Wikitext.Diff.Matching

/-!
# Hunks

Matched positions cut two sequences into runs that agree and runs that differ,
in turn. A run that differs may be empty on one side.
-/

namespace Wikitext

/-- Half-open ranges of positions on both sides. -/
structure Hunk where
  leftStart : Nat
  leftStop : Nat
  rightStart : Nat
  rightStop : Nat
  same : Bool
  deriving DecidableEq, Repr

namespace Hunk

def leftLength (h : Hunk) : Nat := h.leftStop - h.leftStart

def rightLength (h : Hunk) : Nat := h.rightStop - h.rightStart

end Hunk

namespace Diff

/-- The length of the run at the start of the matches that continues at right position `j`. -/
def runLength (j : Nat) : List (Option Nat) → Nat
  | some k :: rest => if k = j then runLength (j + 1) rest + 1 else 0
  | _ => 0

def gapLength : List (Option Nat) → Nat
  | none :: rest => gapLength rest + 1
  | _ => 0

def sameHunk (i j n : Nat) : Hunk := ⟨i, i + n, j, j + n, true⟩

/-- The hunks from a place on that begins with no match: a differing one up to the next match
or the end, the matches that follow, and so on. -/
def changesFrom (rightLength i j : Nat) (ms : List (Option Nat)) : List Hunk :=
  if ms.isEmpty && rightLength ≤ j then []
  else
    let gap := gapLength ms
    match _h : ms.drop gap with
    | some k :: rest =>
      let n := runLength (k + 1) rest + 1
      ⟨i, i + gap, j, k, false⟩ :: sameHunk (i + gap) k n ::
        changesFrom rightLength (i + gap + n) (k + n) (rest.drop (n - 1))
    | _ => [⟨i, i + gap, j, rightLength, false⟩]
termination_by ms.length
decreasing_by
  have h := congrArg List.length _h
  simp only [List.length_drop, List.length_cons] at h ⊢
  omega

def hunksOfMatches (ms : List (Option Nat)) (rightLength : Nat) : List Hunk :=
  let n := runLength 0 ms
  (if n = 0 then [] else [sameHunk 0 0 n]) ++ changesFrom rightLength n n (ms.drop n)

def hunks {α : Type} [DecidableEq α] (left right : List α) : List Hunk :=
  hunksOfMatches (lcsMatches left right) right.length

end Diff

end Wikitext
