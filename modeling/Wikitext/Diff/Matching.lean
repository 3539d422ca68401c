/-!
# Longest common subsequences

Two sequences are compared by a longest sequence that is a subsequence of
both. What they begin and end with in common belongs to it in any case; what
is left is searched element by element of the left one. For every length the
search keeps the common subsequence of that length that ends earliest in the
right sequence.
-/

namespace Wikitext.Diff

variable {α : Type} [DecidableEq α]

/-- How many elements two sequences have in common at their start. -/
def commonPrefix : List α → List α → Nat
  | a :: left, b :: right => if a = b then commonPrefix left right + 1 else 0
  | _, _ => 0

/-- A common subsequence as pairs of a left and a right position, the last pair first. -/
structure Chain where
  left : Nat
  right : Nat
  earlier : List (Nat × Nat)
  deriving DecidableEq, Repr

def Chain.pairs (c : Chain) : List (Nat × Nat) := (c.left, c.right) :: c.earlier

/-- Adds the pair of positions `(i, j)` to the chains that are kept: it extends the longest
chain that ends before `j`, and the result takes the place of the next one if it ends earlier.
`before` is the chain in front of those given. -/
def extend (i j : Nat) (before : List (Nat × Nat)) : List Chain → List Chain
  | [] => [⟨i, j, before⟩]
  | c :: cs =>
    if c.right < j then c :: extend i j c.pairs cs
    else if j < c.right then ⟨i, j, before⟩ :: cs
    else c :: cs

/-- The positions of `a` in a sequence, in descending order. -/
def positions (a : α) (right : List α) : List Nat :=
  right.zipIdx.foldl (fun found (b, j) => if b = a then j :: found else found) []

/-- Takes the left element at position `i` into account. Its candidates are visited from right
to left, so that it is used once in a chain. -/
def visit (right : List α) (chains : List Chain) (a : α × Nat) : List Chain :=
  (positions a.1 right).foldl (fun chains j => extend a.2 j [] chains) chains

/-- The chains kept after the whole left sequence, one for each length. -/
def chains (left right : List α) : List Chain := left.zipIdx.foldl (visit right) []

def longestChain (left right : List α) : List (Nat × Nat) :=
  match (chains left right).getLast? with
  | some c => c.pairs
  | none => []

/-- For every left position the right one that it is matched with, if any. -/
def searchMatches (left right : List α) : List (Option Nat) :=
  let chain := longestChain left right
  (List.range left.length).map fun i => List.lookup i chain

/-- For every left position the right one that it is matched with in a longest common
subsequence, if any. -/
def lcsMatches (left right : List α) : List (Option Nat) :=
  let start := commonPrefix left right
  let left' := left.drop start
  let right' := right.drop start
  let stop := commonPrefix left'.reverse right'.reverse
  let inner := searchMatches (left'.take (left'.length - stop)) (right'.take (right'.length - stop))
  (List.range start).map some ++ inner.map (·.map (start + ·)) ++
    (List.range stop).map fun k => some (right.length - stop + k)

end Wikitext.Diff
