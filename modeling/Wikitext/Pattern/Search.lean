import Wikitext.Pattern.Program

/-!
# Searching and replacing

The matches of a pattern in a text are found from left to right and do not
overlap. An empty match right after another match does not count. A text is
thus cut into kept pieces and matches; joining them gives the text back, and
replacing puts something else in the place of each match.
-/

namespace Wikitext

structure Match where
  start : Cursor
  stop : Cursor
  captures : Captures

namespace Match

def text (m : Match) : Text := m.start.rest.take (m.start.left - m.stop.left)

def isEmpty (m : Match) : Bool := m.start.left == m.stop.left

/-- The text that group `i` took part with, if it did; group 0 is the whole match. -/
def group? (m : Match) (i : Nat) : Option Text :=
  if i == 0 then some m.text else m.captures.get? i

def group (m : Match) (i : Nat) : Text := (m.group? i).getD []

/-- The character before the match. -/
def before (m : Match) : Option Char := m.start.before

/-- The text after the match. -/
def after (m : Match) : Text := m.stop.rest

end Match

/-- A cut-up text. -/
inductive Piece
  | kept (t : Text)
  | hit (m : Match)

namespace Regex

/-- A match that begins at `c`. -/
def matchAt (r : Regex) (c : Cursor) (memo : Memo) : Outcome :=
  r.program.walk (fun stop captures _ => .found stop captures) c [] memo

/-- The first match at or after `c`, or what was learnt from finding none. -/
def searchFrom (r : Regex) (rest : Text) (c : Cursor) (memo : Memo) : Except Memo (Match × Memo) :=
  match r.matchAt c memo with
  | .found stop captures => .ok ({ start := c, stop, captures }, memo)
  | .failed memo =>
    match rest with
    | [] => .error memo
    | x :: rest => searchFrom r rest (c.past x rest) memo

def findFrom? (r : Regex) (c : Cursor) : Option Match :=
  match r.searchFrom c.rest c { marks := r.marks } with
  | .ok (m, _) => some m
  | .error _ => none

def find? (r : Regex) (t : Text) : Option Match := r.findFrom? (Cursor.ofText t)

def isMatch (r : Regex) (t : Text) : Bool := (r.find? t).isSome

/-- The text from one place up to another. -/
def between (a b : Cursor) : Piece := .kept (a.rest.take (a.left - b.left))

/-- The pieces from `c` on. `fresh` says that `c` is not the end of a match, so that an
empty match there counts. After an empty match, and past a refused one, the search goes on
one character later. -/
def piecesFrom (r : Regex) (c : Cursor) (fresh : Bool) (memo : Memo) : List Piece :=
  match r.searchFrom c.rest c memo with
  | .error _ => [.kept c.rest]
  | .ok (m, memo) =>
    if _h : m.stop.left < c.left ∧ ¬ m.isEmpty then
      between c m.start :: .hit m :: r.piecesFrom m.stop false memo
    else if !fresh && m.start.left == c.left then
      match c.rest with
      | [] => []
      | x :: rest =>
        let next := c.past x rest
        .kept [x] :: if _h : next.left < c.left then r.piecesFrom next true memo else []
    else
      between c m.start :: .hit m ::
        match m.stop.rest with
        | [] => []
        | x :: rest =>
          let next := m.stop.past x rest
          .kept [x] :: if _h : next.left < c.left then r.piecesFrom next true memo else []
termination_by c.left

def pieces (r : Regex) (t : Text) : List Piece :=
  r.piecesFrom (Cursor.ofText t) true { marks := r.marks }

def matches' (r : Regex) (t : Text) : List Match :=
  (r.pieces t).filterMap fun
    | .hit m => some m
    | .kept _ => none

/-- The text with every match replaced. -/
def replaceAll (r : Regex) (f : Match → Text) (t : Text) : Text :=
  (r.pieces t).flatMap fun
    | .kept t => t
    | .hit m => f m

/-- The text with every match replaced, where the replacements depend on what was seen
before them. -/
def replaceWith (r : Regex) (f : Match → σ → Text × σ) (s : σ) (t : Text) : Text × σ :=
  (r.pieces t).foldl
    (fun (acc, s) piece =>
      match piece with
      | .kept t => (acc ++ t, s)
      | .hit m => let (t, s) := f m s; (acc ++ t, s))
    ([], s)

def replaceFirst (r : Regex) (f : Match → Text) (t : Text) : Text :=
  match r.find? t with
  | none => t
  | some m => t.take (t.length - m.start.left) ++ f m ++ m.after

end Regex

/-- How many characters stand before the match in a text of the given length. -/
def Match.offset (m : Match) (length : Nat) : Nat := length - m.start.left

end Wikitext
