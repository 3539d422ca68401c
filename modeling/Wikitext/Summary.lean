import Wikitext.Text.Number

/-!
# Edit summaries

A summary is a list of fragments without blank or repeated ones. Replacing and
removing are summarised apart from each other.
-/

namespace Wikitext

structure EditSummary where
  fragments : List Text := []
  deriving DecidableEq, Repr

namespace EditSummary

/-- The length in characters that a summary may have on a wiki. -/
def maxLength : Nat := 500

def arrow : Text := " → ".toList

def isEmpty (s : EditSummary) : Bool := s.fragments.isEmpty

/-- Adds a fragment, trimmed, unless it is blank or already there. -/
def push (s : EditSummary) (fragment : Text) : EditSummary :=
  let fragment := Text.trim fragment
  if fragment.isEmpty || s.fragments.contains fragment then s
  else { fragments := s.fragments ++ [fragment] }

def extend (s other : EditSummary) : EditSummary := other.fragments.foldl push s

def text (s : EditSummary) : Text := Text.join ", ".toList s.fragments

/-- The text if it has at most `limit` characters, else a beginning of it with an ellipsis. -/
def truncated (s : EditSummary) (limit : Nat) : Text :=
  if s.text.length ≤ limit then s.text else s.text.take (limit - 1) ++ ['…']

end EditSummary

structure ReplacementSummary where
  replaced : EditSummary := {}
  removed : EditSummary := {}
  deriving DecidableEq, Repr

namespace ReplacementSummary

def countSuffix (count : Nat) : Text :=
  if count > 1 then " (".toList ++ Text.ofNat count ++ ")".toList else []

def pushReplaced (s : ReplacementSummary) (before after : Text) (count : Nat) :
    ReplacementSummary :=
  { s with replaced := s.replaced.push (before ++ EditSummary.arrow ++ after ++ countSuffix count) }

def pushRemoved (s : ReplacementSummary) (before : Text) (count : Nat) : ReplacementSummary :=
  { s with removed := s.removed.push (before ++ countSuffix count) }

def isEmpty (s : ReplacementSummary) : Bool := s.replaced.isEmpty && s.removed.isEmpty

def text (s : ReplacementSummary) : Text :=
  Text.join ", ".toList
    ((if s.replaced.isEmpty then [] else ["replaced: ".toList ++ s.replaced.text]) ++
      (if s.removed.isEmpty then [] else ["removed: ".toList ++ s.removed.text]))

end ReplacementSummary

end Wikitext
