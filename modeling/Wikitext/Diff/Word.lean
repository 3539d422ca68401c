import Wikitext.Diff.Hunk
import Wikitext.Text.Basic

/-!
# Lines as words

A word is a body with the blanks that follow it. Letters and digits form runs;
punctuation and characters of scripts without spaces stand alone. Blanks at
the start of a line are a word of their own. Words are compared by their
bodies, so different spacing makes no word differ.
-/

namespace Wikitext

structure Word where
  body : Text
  trailing : Text
  deriving DecidableEq, Repr

inductive CharClass
  | running
  | blank
  | single
  deriving DecidableEq, Repr

namespace CharClass

def within (ranges : List (Nat × Nat)) (c : Char) : Bool :=
  ranges.any fun (first, last) => first ≤ c.toNat && c.toNat ≤ last

/-- Thai, Chinese, Japanese and Korean characters. -/
def unspacedScripts : List (Nat × Nat) := [
  (0x0E00, 0x0E7F), (0x2E80, 0x2FDF), (0x3040, 0x31FF), (0x3400, 0x4DBF), (0x4E00, 0x9FFF),
  (0xAC00, 0xD7AF), (0xF900, 0xFAFF), (0x20000, 0x2FA1F)]

def punctuation : List (Nat × Nat) := [
  (0x00A0, 0x00BF), (0x00D7, 0x00D7), (0x00F7, 0x00F7), (0x2000, 0x206F), (0x2190, 0x23FF),
  (0x3000, 0x303F), (0xFF00, 0xFF0F), (0xFF1A, 0xFF20), (0xFF3B, 0xFF40), (0xFF5B, 0xFF65)]

def of (c : Char) : CharClass :=
  if c == ' ' || c == '\t' then .blank
  else if c.isAlphanum || c == '_' then .running
  else if c.toNat < 0x80 then .single
  else if within unspacedScripts c || within punctuation c then .single
  else .running

end CharClass

namespace Word

def text (w : Word) : Text := w.body ++ w.trailing

def isBlank (c : Char) : Bool := CharClass.of c == .blank

def isRunning (c : Char) : Bool := CharClass.of c == .running

/-- The words of a text without blanks at its start. -/
def split : Text → List Word
  | [] => []
  | c :: cs =>
    let body := if isRunning c then cs.takeWhile isRunning else []
    let rest := cs.drop body.length
    ⟨c :: body, rest.takeWhile isBlank⟩ :: split (rest.dropWhile isBlank)
termination_by t => t.length
decreasing_by
  refine Nat.lt_succ_of_le (Nat.le_trans (List.dropWhile_suffix _).length_le ?_)
  simp only [List.length_drop]
  omega

def ofLine (line : Text) : List Word :=
  let indent := line.takeWhile isBlank
  (if indent.isEmpty then [] else [⟨indent, []⟩]) ++ split (line.dropWhile isBlank)

end Word

/-- Two lines compared word by word. -/
structure WordDiff where
  left : List Word
  right : List Word
  hunks : List Hunk
  deriving DecidableEq, Repr

def WordDiff.ofLines (left right : Text) : WordDiff :=
  let left := Word.ofLine left
  let right := Word.ofLine right
  { left, right, hunks := Diff.hunks (left.map (·.body)) (right.map (·.body)) }

end Wikitext
