import Wikitext.Pattern.Reader

/-!
# Searching with look-around and back references

A pattern with extras is searched by trying one choice after the other. The
search gives up after a fixed number of choices taken back, so it can end
without an answer. Parts without extras after which nothing else has to match,
and those of fixed length at the edges of a sequence, are matched once by the
plain search and not reconsidered.
-/

namespace Wikitext

/-- How a written pattern is searched. -/
inductive Plan
  /-- The first match of a pattern without extras. -/
  | plain (r : Regex)
  | char (accepts : Char → Bool)
  | anchor (a : Anchor)
  | empty
  | seq (a b : Plan)
  | alt (a b : Plan)
  | capture (index : Nat) (a : Plan)
  | times (least : Nat) (most : Option Nat) (greedy : Bool) (a : Plan)
  | ahead (positive : Bool) (a : Plan)
  | behind (length : Nat) (positive : Bool) (a : Plan)
  | commit (a : Plan)
  | backReference (index : Nat)

namespace Plan

def inSequence : List Plan → Plan
  | [] => .empty
  | [p] => p
  | p :: ps => .seq p (inSequence ps)

def ofPlain (ws : List Written) : Plan :=
  match ws, (Written.inSequence ws).pattern? with
  | [], _ => .empty
  | _, some p => .plain p.compile
  | _, none => .empty

end Plan

namespace Written

def isPlain (w : Written) : Bool := !w.isExtended

/-- The part of a sequence that can be matched once from its start, the part that has to be
searched and the part that can be matched once to its end. `inner` says that something has to
match afterwards. -/
def portions (inner : Bool) (ws : List Written) : List Written × List Written × List Written :=
  let front := ws.takeWhile fun w => w.hasFixedLength && w.isPlain
  let others := ws.drop front.length
  let back := (others.reverse.takeWhile fun w => w.isPlain && (!inner || w.hasFixedLength)).length
  (front, others.take (others.length - back), others.drop (others.length - back))

/-- A look-behind tries one length for each of its alternatives. -/
def behind (positive : Bool) (plan : Written → Except Pattern.ReadError Plan) :
    List Written → Except Pattern.ReadError Plan
  | [] => .ok .empty
  | w :: ws => do
    unless w.hasFixedLength do throw .unboundedLookBehind
    let first := Plan.behind w.leastLength positive (← plan w)
    if ws.isEmpty then return first
    let others ← behind positive plan ws
    return if positive then .alt first others else .seq first others

/-- The plan for `w`. The first argument bounds the depth of nesting. -/
def plan : Nat → Bool → Written → Except Pattern.ReadError Plan
  | 0, _, _ => throw .tooDeep
  | fuel + 1, inner, w =>
    if !inner && w.isPlain then .ok (Plan.ofPlain [w])
    else match w with
      | .empty => .ok .empty
      | .char accepts => .ok (.char accepts)
      | .anchor a => .ok (.anchor a)
      | .seq .. => do
        let (front, middle, back) := portions inner w.parts
        let middle ← middle.mapM (plan fuel true)
        return Plan.inSequence (Plan.ofPlain front :: middle ++ [Plan.ofPlain back])
      | .alt a b => do return .alt (← plan fuel inner a) (← plan fuel inner b)
      | .capture i a => do return .capture i (← plan fuel inner a)
      | .times least most greedy a => do
        let single := least == 0 && most == some 1
        let a ← plan fuel (inner || (!single && w.isExtended)) a
        return .times least most greedy a
      | .look true positive a => do return .ahead positive (← plan fuel false a)
      | .look false positive a =>
        behind positive (plan fuel false) (if a.hasFixedLength then [a] else a.choices)
      | .commit a => do return .commit (← plan fuel false a)
      | .backReference i => .ok (.backReference i)

end Written

-- -----------------------------------------------------------------------------------------
-- Running
-- -----------------------------------------------------------------------------------------

namespace Plan

/-- How many choices may be taken back in the search for one match. -/
def patience : Nat := 1000000

/-- The number counts the choices taken back. -/
inductive Trial
  | found (stop : Cursor) (captures : Captures) (used : Nat)
  | failed (used : Nat)
  | exhausted

abbrev Next := Cursor → Captures → Nat → Trial

/-- Takes back the first choice if it failed. -/
def retry (first : Trial) (second : Nat → Trial) : Trial :=
  match first with
  | .failed used => if used < patience then second (used + 1) else .exhausted
  | other => other

/-- One way or the other, in the order of preference. -/
def choose (greedy : Bool) (go stop : Nat → Trial) (used : Nat) : Trial :=
  if greedy then retry (go used) stop else retry (stop used) go

/-- Rounds of `body`, then `k`. -/
def rounds (body : Next → Next) (k : Next) (greedy : Bool) (c : Cursor) (captures : Captures)
    (used : Nat) : Trial :=
  let round := body fun c' captures' used' =>
    if _h : c'.left < c.left then rounds body k greedy c' captures' used' else .failed used'
  choose greedy (round c captures) (k c captures) used
termination_by c.left

/-- Up to `n` rounds of `body`, then `k`. -/
def upTo (body : Next → Next) (k : Next) (greedy : Bool) : Nat → Next
  | 0 => k
  | n + 1 => fun c captures used =>
    choose greedy (body (upTo body k greedy n) c captures) (k c captures) used

/-- Exactly `n` rounds of `body`, then `k`. -/
def exactly (body : Next → Next) (k : Next) : Nat → Next
  | 0 => k
  | n + 1 => body (exactly body k n)

/-- Whether `a` matches at `c`, and with what captures. -/
def probe (walk : Next → Next) (c : Cursor) (captures : Captures) (used : Nat) : Trial :=
  walk (fun stop captures used => .found stop captures used) c captures used

/-- The place `n` characters before `c` in the text that begins at `origin`. -/
def stepBack? (origin c : Cursor) (n : Nat) : Option Cursor :=
  if c.left + n ≤ origin.left then some (origin.skip (origin.left - (c.left + n))) else none

def walk (origin : Cursor) : Plan → Next → Next
  | .plain r, k => fun c captures used =>
    match r.matchAt { c with idle := 0 } { marks := r.marks } with
    | .found stop more => k stop (more ++ captures) used
    | .failed _ => .failed used
  | .char accepts, k => fun c captures used =>
    match c.rest with
    | [] => .failed used
    | x :: rest => if accepts x then k (c.past x rest) captures used else .failed used
  | .anchor a, k => fun c captures used =>
    if a.holds c then k c captures used else .failed used
  | .empty, k => k
  | .seq a b, k => a.walk origin (b.walk origin k)
  | .alt a b, k => fun c captures used =>
    retry (a.walk origin k c captures used) (b.walk origin k c captures)
  | .capture index a, k => fun c captures used =>
    a.walk origin (fun c' captures' => k c' (⟨index, c, c'⟩ :: captures')) c captures used
  | .times least most greedy a, k =>
    let body := a.walk origin
    let further := match most with
      | some most => upTo body k greedy (most - least)
      | none => rounds body k greedy
    exactly body further least
  | .ahead positive a, k => fun c captures used =>
    if positive then a.walk origin (fun _ captures used => k c captures used) c captures used
    else match probe (a.walk origin) c captures used with
      | .found _ _ used => .failed used
      | .failed used => if used < patience then k c captures (used + 1) else .exhausted
      | .exhausted => .exhausted
  | .behind length positive a, k => fun c captures used =>
    let goOn (used : Nat) := if used < patience then k c captures (used + 1) else .exhausted
    match stepBack? origin c length with
    | none => if positive then .failed used else goOn used
    | some start =>
      if positive then
        a.walk origin (fun c' captures used =>
          if c'.left == c.left then k c captures used else .failed used) start captures used
      else match probe (a.walk origin) start captures used with
        | .found _ _ used => .failed used
        | .failed used => goOn used
        | .exhausted => .exhausted
  | .commit a, k => fun c captures used =>
    match probe (a.walk origin) c captures used with
    | .found stop captures used => k stop captures used
    | other => other
  | .backReference index, k => fun c captures used =>
    match captures.get? index with
    | none => .failed used
    | some t =>
      if Text.startsWith c.rest t then k (c.skip t.length) captures used else .failed used

/-- The first match at or after a place, or none, or no answer. -/
def searchFrom (p : Plan) (origin : Cursor) : Text → Cursor → Nat → Option (Option Match)
  | rest, c, used =>
    match probe (p.walk origin) c [] used with
    | .found stop captures _ => some (some { start := c, stop, captures })
    | .exhausted => none
    | .failed used =>
      match rest with
      | [] => some none
      | x :: rest =>
        if used < patience then p.searchFrom origin rest (c.past x rest) (used + 1) else none

/-- The pieces from `c` on, or nothing if a search gives up; see `Regex.piecesFrom`. -/
def piecesFrom? (p : Plan) (origin c : Cursor) (fresh : Bool) : Option (List Piece) :=
  match p.searchFrom origin c.rest c 0 with
  | none => none
  | some none => some [.kept c.rest]
  | some (some m) =>
    if _h : m.stop.left < c.left ∧ ¬ m.isEmpty then
      (p.piecesFrom? origin m.stop false).map fun pieces =>
        Regex.between c m.start :: .hit m :: pieces
    else if !fresh && m.start.left == c.left then
      match c.rest with
      | [] => some []
      | x :: rest =>
        let next := c.past x rest
        if _h : next.left < c.left then
          (p.piecesFrom? origin next true).map (.kept [x] :: ·)
        else some [.kept [x]]
    else
      match m.stop.rest with
      | [] => some [Regex.between c m.start, .hit m]
      | x :: rest =>
        let next := m.stop.past x rest
        if _h : next.left < c.left then
          (p.piecesFrom? origin next true).map fun pieces =>
            Regex.between c m.start :: .hit m :: .kept [x] :: pieces
        else some [Regex.between c m.start, .hit m, .kept [x]]
termination_by c.left

end Plan

-- -----------------------------------------------------------------------------------------
-- Both kinds of search
-- -----------------------------------------------------------------------------------------

inductive Searcher
  | plain (r : Regex)
  | extended (p : Plan)

/-- A pattern of the extended notation made ready for searching. -/
structure Expression where
  searcher : Searcher
  names : List (Text × Nat)

namespace Expression

def read (t : Text) : Except Pattern.ReadError Expression := do
  let read ← Pattern.read true t
  match read.tree.pattern? with
  | some p => return { searcher := .plain p.compile, names := read.names }
  | none =>
    let plan ← read.tree.plan (t.length + 1) true
    return { searcher := .extended plan, names := read.names }

/-- The text cut up by the matches; nothing if the search gives up. -/
def pieces? (e : Expression) (t : Text) : Option (List Piece) :=
  match e.searcher with
  | .plain r => some (r.pieces t)
  | .extended p => p.piecesFrom? (Cursor.ofText t) (Cursor.ofText t) true

end Expression

end Wikitext
