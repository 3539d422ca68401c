import Wikitext.Brackets
import Wikitext.Rule.List

/-!
# Articles

An article holds its text as it was and as it is. The text changes only
together with an entry in the log, so the log explains every difference
between the two.
-/

namespace Wikitext

/-- Who changed a text. -/
inductive Actor
  | generalFixes
  | findAndReplace
  | categories
  | images
  | operator
  deriving DecidableEq, Repr

def Actor.name : Actor → String
  | .generalFixes => "general fixes"
  | .findAndReplace => "find and replace"
  | .categories => "categories"
  | .images => "images"
  | .operator => "operator"

structure LogEntry where
  reason : Text
  actor : Actor
  deriving DecidableEq, Repr

structure Article where
  title : Text
  initial : Text
  text : Text
  summary : EditSummary
  log : List LogEntry
  skipReason : Option Text
  /-- What the general fixes made of the text, if they alone have changed it. -/
  afterFixes : Option Text
  fixesCausedChange : Bool
  /-- A fix that counts as significant changed the text. -/
  significantChange : Bool
  /-- Something other than insignificant fixes and minor rules changed the text. -/
  majorChange : Bool
  ruleErrors : List RuleError
  deriving DecidableEq, Repr

namespace Article

def ofText (title t : Text) : Article where
  title
  initial := t
  text := t
  summary := {}
  log := []
  skipReason := none
  afterFixes := none
  fixesCausedChange := false
  significantChange := false
  majorChange := false
  ruleErrors := []

def isSkipped (a : Article) : Bool := a.skipReason.isSome

def isUnchanged (a : Article) : Bool := a.text == a.initial

def onlyFixesChanged (a : Article) : Bool := a.fixesCausedChange && a.afterFixes == some a.text

def onlyMinorFixesChanged (a : Article) : Bool := a.onlyFixesChanged && !a.significantChange

def unbalancedBracket? (a : Article) : Option UnbalancedBracket :=
  Wikitext.unbalancedBracket? a.text

/-- Puts another text in place and logs why; the same text again is not logged. -/
def changeText (a : Article) (t reason : Text) (actor : Actor) : Article :=
  if t == a.text then a else { a with text := t, log := a.log ++ [{ reason, actor }] }

/-- Asks for the article to be skipped. The first reason counts. -/
def skip (a : Article) (reason : Text) : Article :=
  { a with skipReason := a.skipReason.or (some reason) }

def skipIf (a : Article) (condition : Bool) (reason : String) : Article :=
  if condition then a.skip reason.toList else a

-- -----------------------------------------------------------------------------------------
-- Rules
-- -----------------------------------------------------------------------------------------

/-- Runs the rules of a phase. -/
def findAndReplace (a : Article) (rules : RuleList) (phase : Phase) : Except MaskError Article := do
  let o ← rules.apply phase a.title a.text
  let a := { a with ruleErrors := a.ruleErrors ++ o.errors }
  if o.text == a.text then return a
  let a := a.changeText o.text "find and replace".toList .findAndReplace
  return { a with
    majorChange := a.majorChange || o.majorChange
    summary :=
      if rules.appendSummary && !o.summary.isEmpty then a.summary.push o.summary.text
      else a.summary }

end Article

end Wikitext
