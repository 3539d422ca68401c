import Wikitext.Pattern.Basic

/-!
# Programs

A pattern is run in a form in which counted repetition is written out and
every choice that can be met again at the same place has a number. The search
keeps the choices that led nowhere, as pairs of number and place, and does not
try them twice, so that its length is bounded by the product of the lengths of
program and text. Leaving such a choice out changes no answer: whether a
program can be completed from a choice depends on the choice and the place
alone, not on how they were reached.

A repetition whose round may be empty ends with its first empty round, and an
empty round after the first is no match. It takes part in the search through
the count of idle rounds in the cursor, which says how many of the enclosing
rounds would end here without having consumed anything.
-/

namespace Wikitext

-- -----------------------------------------------------------------------------------------
-- Places in a text
-- -----------------------------------------------------------------------------------------

/-- A place between two characters of a text. The length of what follows is kept beside it so that
two places are compared at once. -/
structure Cursor where
  before : Option Char
  rest : Text
  left : Nat
  /-- How many rounds of enclosing repetitions have consumed nothing so far. -/
  idle : Nat := 0

namespace Cursor

def ofText (t : Text) : Cursor := { before := none, rest := t, left := t.length }

/-- The place after the next character `x`, before `rest`. Consuming ends every idle round. -/
def past (c : Cursor) (x : Char) (rest : Text) : Cursor :=
  { before := some x, rest, left := c.left - 1 }

def advance (c : Cursor) : Cursor :=
  match c.rest with
  | [] => c
  | x :: rest => c.past x rest

/-- The place `n` characters further on, or the end. -/
def skip (c : Cursor) : Nat → Cursor
  | 0 => c
  | n + 1 => c.advance.skip n

def wordBefore (c : Cursor) : Bool := c.before.any Chars.isWord

def wordAfter (c : Cursor) : Bool := c.rest.head?.any Chars.isWord

end Cursor

/-- A line ends before a line feed and at the end; it starts after one and at the start. -/
def Anchor.holds (a : Anchor) (c : Cursor) : Bool :=
  match a with
  | .textStart => c.before.isNone
  | .textEnd => c.rest.isEmpty
  | .lineStart => c.before.all (· == '\n')
  | .lineEnd => c.rest.head?.all (· == '\n')
  | .wordBoundary => c.wordBefore != c.wordAfter
  | .insideWord => c.wordBefore == c.wordAfter
  | .wordStart => !c.wordBefore && c.wordAfter
  | .wordEnd => c.wordBefore && !c.wordAfter

/-- A stretch of text between two places, held as the text from the first on. -/
structure Capture where
  index : Nat
  start : Cursor
  stop : Cursor

def Capture.text (c : Capture) : Text := c.start.rest.take (c.start.left - c.stop.left)

abbrev Captures := List Capture

/-- The last stretch recorded for a group counts. -/
def Captures.get? (cs : Captures) (index : Nat) : Option Text :=
  (cs.find? (·.index == index)).map Capture.text

-- -----------------------------------------------------------------------------------------
-- Patterns to be run
-- -----------------------------------------------------------------------------------------

inductive Program
  | empty
  | char (accepts : Char → Bool)
  | anchor (a : Anchor)
  | seq (a b : Program)
  | alt (mark : Option Nat) (a b : Program)
  | capture (index : Nat) (a : Program)
  /-- Any number of characters of one class. -/
  | run (mark : Option Nat) (greedy : Bool) (accepts : Char → Bool)
  /-- Any number of rounds, each of which consumes something. -/
  | loop (mark : Nat) (greedy nullable : Bool) (a : Program)
  /-- A first round, which may be empty; the further rounds follow only if it is not. -/
  | opening (a further : Program)

-- -----------------------------------------------------------------------------------------
-- From pattern to program
-- -----------------------------------------------------------------------------------------

namespace Program

/-- The choice made in the given order of preference. -/
def prefer (mark : Option Nat) (greedy : Bool) (go stop : Program) : Program :=
  if greedy then .alt mark go stop else .alt mark stop go

/-- What is known where a piece of a pattern is compiled: the next free number, how many
enclosing rounds may be empty, and whether the piece can be reached in several ways. -/
structure Site where
  next : Nat
  depth : Nat
  shared : Bool

/-- A number with room for every count of idle rounds, where one is needed. -/
def Site.mark (s : Site) : Option Nat := if s.shared then some s.next else none

def Site.marked (s : Site) : Site :=
  if s.shared then { s with next := s.next + s.depth + 1 } else s

/-- As many copies in a row as the number says. -/
def copies (compile : Site → Program × Site) (branches : Bool) : Nat → Site → Program × Site
  | 0, s => (.empty, s)
  | 1, s => compile s
  | n + 1, s =>
    let (first, s) := compile s
    let (others, s) := copies compile branches n { s with shared := s.shared || branches }
    (.seq first others, s)

/-- Up to `n` copies, each of them optional once the one before it is there. -/
def optionals (compile : Site → Program × Site) (greedy : Bool) : Nat → Site → Program × Site
  | 0, s => (.empty, s)
  | n + 1, s =>
    let mark := s.mark
    let (first, s) := compile s.marked
    let (others, s) := optionals compile greedy n { s with shared := true }
    (prefer mark greedy (.seq first others) .empty, s)

def rounds (compile : Site → Program × Site) (greedy nullable : Bool) (s : Site) :
    Program × Site :=
  let mark := s.next
  let depth := if nullable then s.depth + 1 else s.depth
  let (body, inner) := compile { next := s.next + s.depth + 1, depth, shared := true }
  (.loop mark greedy nullable body, { inner with depth := s.depth })

def compile : Pattern → Site → Program × Site
  | .empty, s => (.empty, s)
  | .char accepts, s => (.char accepts, s)
  | .anchor a, s => (.anchor a, s)
  | .seq a b, s =>
    let (pa, s') := compile a s
    let (pb, s'') := compile b { s' with shared := s.shared || a.branches }
    (.seq pa pb, { s'' with shared := s.shared })
  | .alt a b, s =>
    let mark := s.mark
    let (pa, s') := compile a s.marked
    let (pb, s'') := compile b { s' with shared := s.shared }
    (.alt mark pa pb, { s'' with shared := s.shared })
  | .capture i a, s =>
    let (pa, s') := compile a s
    (.capture i pa, s')
  | .times 0 none greedy (.char accepts), s => (.run s.mark greedy accepts, s.marked)
  | .times least most greedy a, s =>
    let separate := if most.isNone && a.nullable then least - 1 else least
    let (first, s') := copies (compile a) a.branches separate s
    let s' := { s' with shared := s.shared || a.branches }
    let (others, s'') := match most, a with
      | some most, _ => optionals (compile a) greedy (most - least) s'
      | none, .char accepts => (.run s'.mark greedy accepts, s'.marked)
      | none, _ =>
        if a.nullable then
          let mark := s'.mark
          let outer := if least == 0 then s'.marked else s'
          let (once, s'') := compile a { outer with depth := outer.depth + 1, shared := true }
          let (further, s'') := rounds (compile a) greedy true { s'' with depth := s'.depth }
          let whole := Program.opening once further
          (if least == 0 then prefer mark greedy whole .empty else whole, s'')
        else rounds (compile a) greedy false s'
    (.seq first others, { s'' with shared := s.shared })

end Program

/-- A compiled pattern with the number of marks it uses. -/
structure Regex where
  program : Program
  marks : Nat

def Pattern.compile (p : Pattern) : Regex :=
  let (program, site) := Program.compile p { next := 0, depth := 0, shared := false }
  { program, marks := site.next + 1 }

-- -----------------------------------------------------------------------------------------
-- Running
-- -----------------------------------------------------------------------------------------

/-- The choices that are known to lead nowhere, as a set of numbers in binary. -/
structure Memo where
  marks : Nat
  dead : Nat := 0

namespace Memo

def key (m : Memo) (mark : Nat) (c : Cursor) : Nat := c.left * m.marks + mark + c.idle

def isDead (m : Memo) (mark : Nat) (c : Cursor) : Bool := m.dead.testBit (m.key mark c)

def bury (m : Memo) (mark : Nat) (c : Cursor) : Memo :=
  { m with dead := m.dead ||| 1 <<< m.key mark c }

end Memo

inductive Outcome
  | found (stop : Cursor) (captures : Captures)
  | failed (memo : Memo)

/-- What is to be done after a piece of a program has matched. -/
abbrev Continuation := Cursor → Captures → Memo → Outcome

namespace Program

/-- Tries a choice unless it is known to fail, and notes a failure. -/
def once (mark : Option Nat) (c : Cursor) (memo : Memo) (attempt : Memo → Outcome) : Outcome :=
  match mark with
  | none => attempt memo
  | some mark =>
    if memo.isDead mark c then .failed memo
    else match attempt memo with
      | .failed memo => .failed (memo.bury mark c)
      | found => found

def orElse (first : Outcome) (second : Memo → Outcome) : Outcome :=
  match first with
  | .failed memo => second memo
  | found => found

/-- The place `c` and those reached from it by characters of the class, furthest first,
before the places `seen`. -/
def reach (accepts : Char → Bool) : Text → Cursor → List Cursor → List Cursor
  | [], c, seen => c :: seen
  | x :: rest, c, seen =>
    if accepts x then reach accepts rest (c.past x rest) (c :: seen) else c :: seen

/-- Goes on from each of the places in turn. -/
def fromEach (k : Continuation) (captures : Captures) : List Cursor → Memo → Outcome
  | [], memo => .failed memo
  | c :: cs, memo =>
    match k c captures memo with
    | .failed memo => fromEach k captures cs memo
    | found => found

/-- Goes on from `c`, or else from the places after more and more characters of the class. -/
def fromNearest (accepts : Char → Bool) (k : Continuation) (captures : Captures) :
    Text → Cursor → Memo → Outcome
  | [], c, memo => k c captures memo
  | x :: rest, c, memo =>
    match k c captures memo with
    | .failed memo =>
      if accepts x then fromNearest accepts k captures rest (c.past x rest) memo
      else .failed memo
    | found => found

/-- Rounds of `body`, then `k`. -/
def repeatRounds (body : Continuation → Continuation) (k : Continuation) (mark : Nat)
    (greedy nullable : Bool) (c : Cursor) (captures : Captures) (memo : Memo) : Outcome :=
  once (some mark) c memo fun memo =>
    let round := body fun c' captures' memo' =>
      if _h : c'.left < c.left then repeatRounds body k mark greedy nullable c' captures' memo'
      else .failed memo'
    let start := if nullable then { c with idle := c.idle + 1 } else c
    if greedy then orElse (round start captures memo) (k c captures)
    else orElse (k c captures memo) (round start captures)
termination_by c.left

def walk : Program → Continuation → Continuation
  | .empty, k => k
  | .char accepts, k => fun c captures memo =>
    match c.rest with
    | [] => .failed memo
    | x :: rest => if accepts x then k (c.past x rest) captures memo else .failed memo
  | .anchor a, k => fun c captures memo =>
    if a.holds c then k c captures memo else .failed memo
  | .seq a b, k => a.walk (b.walk k)
  | .alt mark a b, k => fun c captures memo =>
    once mark c memo fun memo => orElse (a.walk k c captures memo) (b.walk k c captures)
  | .capture index a, k => fun c captures memo =>
    a.walk (fun c' captures' => k c' (⟨index, c, c'⟩ :: captures')) c captures memo
  | .run mark greedy accepts, k => fun c captures memo =>
    once mark c memo fun memo =>
      if greedy then fromEach k captures (reach accepts c.rest c []) memo
      else fromNearest accepts k captures c.rest c memo
  | .loop mark greedy nullable a, k => repeatRounds a.walk k mark greedy nullable
  | .opening a further, k => fun c captures memo =>
    a.walk (fun c' captures' memo' =>
        if c'.left < c.left then further.walk k c' captures' memo'
        else k { c' with idle := c.idle } captures' memo')
      { c with idle := c.idle + 1 } captures memo

end Program

end Wikitext
