import Wikitext.Article.Fixes
import Wikitext.Article.Operation

/-!
# Jobs

A job says what is to be done to every page: rules, operations on categories
and images, the general fixes and rules again. In the end the skip options
decide whether a page is to be left alone.
-/

namespace Wikitext

structure Job where
  vocabulary : Vocabulary
  rules : RuleList
  options : FixOptions := {}
  skip : SkipOptions := {}
  categoryOperations : List CategoryOperation := []
  imageOperations : List ImageOperation := []
  generalFixes : Bool := true

/-- Why a page could not be processed. -/
structure JobError where
  title : Text
  cause : MaskError
  deriving DecidableEq, Repr

def JobError.message (e : JobError) : String :=
  "could not process page " ++ String.ofList e.title ++ ": " ++ e.cause.message

/-- What the caller needs to save or to skip a page. -/
structure Processed where
  title : Text
  text : Text
  summary : Text
  skipReason : Option Text
  changed : Bool
  majorChange : Bool
  fixesCausedChange : Bool
  unbalancedBracket : Option UnbalancedBracket
  ruleErrors : List RuleError
  log : List LogEntry
  deriving DecidableEq, Repr

def Processed.ofArticle (a : Article) : Processed where
  title := a.title
  text := a.text
  summary := a.summary.truncated EditSummary.maxLength
  skipReason := a.skipReason
  changed := !a.isUnchanged
  majorChange := a.majorChange
  fixesCausedChange := a.fixesCausedChange
  unbalancedBracket := a.unbalancedBracket?
  ruleErrors := a.ruleErrors
  log := a.log

namespace Job

/-- Images and references stay visible, as the fixes change them. -/
def mask (j : Job) : Mask := Mask.ofProfile j.vocabulary.profile { images := false }

def applySkipOptions (j : Job) (a : Article) : Article :=
  let a := a.skipIf (j.skip.noChange && a.isUnchanged) "no change"
  let a := a.skipIf (j.skip.onlyFixes && a.onlyFixesChanged) "only general fixes changed"
  a.skipIf (j.skip.onlyMinorChanges && !a.isUnchanged && !a.majorChange) "only minor changes"

def operate (j : Job) (a : Article) : Article :=
  let v := j.vocabulary
  let a := j.categoryOperations.foldl (·.changeCategory v · j.skip.noCategory) a
  j.imageOperations.foldl (·.changeImage v · j.skip.noImage) a

def fix (j : Job) (a : Article) : Except MaskError Article :=
  if j.generalFixes then
    match a.performFixes j.vocabulary j.mask j.skip j.options with
    | (none, a, _) => .ok a
    | (some e, _, _) => .error e
  else .ok a

def run (j : Job) (title t : Text) : Except MaskError Article := do
  let a ← (Article.ofText title t).findAndReplace j.rules .beforeFixes
  let a ← j.fix (j.operate a)
  let a ← a.findAndReplace j.rules .afterFixes
  return j.applySkipOptions a

def process (j : Job) (title t : Text) : Except JobError Processed :=
  match j.run title t with
  | .ok a => .ok (Processed.ofArticle a)
  | .error cause => .error { title, cause }

end Job

end Wikitext
