import Wikitext.Mask.Basic
import Wikitext.Rule.Basic
import Wikitext.Summary

/-!
# Lists of rules

Rules run in the order of the list, each on the result of the one before it. A
rule that cannot be read or cannot be searched is reported and leaves no other
trace. The regions that the rules must not touch are hidden from all of them.
-/

namespace Wikitext

structure RuleList where
  profile : Profile
  rules : List Rule := []
  /-- Hides web addresses, images and unformatted regions from the rules. -/
  ignoreLinks : Bool := false
  /-- Also hides templates, headings, references and links. -/
  ignoreMore : Bool := false
  /-- Whether the edit summary says what was replaced and removed. -/
  appendSummary : Bool := true

/-- What the rules of one phase did. -/
structure RulesOutcome where
  text : Text
  /-- The first match of some rule was changed. -/
  changed : Bool := false
  /-- So was that of a rule that is not minor. -/
  majorChange : Bool := false
  summary : ReplacementSummary := {}
  errors : List RuleError := []
  deriving DecidableEq, Repr

namespace RulesOutcome

/-- Records that `rule` had this effect. -/
def record (o : RulesOutcome) (rule : Rule) (effect : RuleEffect) : RulesOutcome :=
  match effect.first with
  | none => { o with text := effect.text }
  | some (before, after) =>
    if before == after then { o with text := effect.text }
    else
      { o with
        text := effect.text
        changed := true
        majorChange := o.majorChange || !rule.minor
        summary :=
          if after.isEmpty then o.summary.pushRemoved before effect.count
          else o.summary.pushReplaced before after effect.count }

end RulesOutcome

namespace RuleList

def hasRulesFor (l : RuleList) (phase : Phase) : Bool := l.rules.any (·.runsIn phase)

/-- One rule with its number. -/
def step (l : RuleList) (title : Text) (o : RulesOutcome) (rule : Rule × Nat) : RulesOutcome :=
  match rule.1.run l.profile rule.2 title o.text with
  | .ok effect => o.record rule.1 effect
  | .error e => { o with errors := o.errors ++ [e] }

/-- Runs the rules of a phase on a text in which nothing has to be hidden. -/
def runAll (l : RuleList) (phase : Phase) (title t : Text) : RulesOutcome :=
  (l.rules.zipIdx.filter fun r => r.1.runsIn phase).foldl (l.step title) { text := t }

def mask (l : RuleList) : Mask := Mask.ofProfile l.profile { externalLinks := true }

/-- Runs the rules of a phase. -/
def apply (l : RuleList) (phase : Phase) (title t : Text) : Except MaskError RulesOutcome :=
  if !l.hasRulesFor phase then .ok { text := t }
  else if l.ignoreMore then do
    let (hidden, mask) ← l.mask.hideMore false t
    let o := l.runAll phase title hidden
    return { o with text := ← (mask.addBackMore o.text).1 }
  else if l.ignoreLinks then do
    let (hidden, mask) ← l.mask.hide t
    let o := l.runAll phase title hidden
    return { o with text := ← (mask.addBack o.text).1 }
  else .ok (l.runAll phase title t)

end RuleList

end Wikitext
