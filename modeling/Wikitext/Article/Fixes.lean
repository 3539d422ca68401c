import Wikitext.Article.Basic
import Wikitext.Fix.BoldTitle
import Wikitext.Fix.Characters
import Wikitext.Fix.Citations
import Wikitext.Fix.Dates
import Wikitext.Fix.Headings
import Wikitext.Fix.Links
import Wikitext.Fix.References
import Wikitext.Fix.Syntax
import Wikitext.Fix.Typography
import Wikitext.Image
import Wikitext.Metadata
import Wikitext.ReferenceList

/-!
# The general fixes

All fixes in their fixed order. Dates are fixed in the open; most other fixes
see a masked text, and so does the sorting of metadata, which would otherwise
move categories out of comments. If masking fails on the way, what the fixes
have done by then is taken back.
-/

namespace Wikitext

/-- What the caller wants of the general fixes. -/
structure FixOptions where
  /-- Puts a template in the place of tags that display the references. -/
  replaceReferenceTags : Bool := false
  /-- Adds default sort keys to biographies only. -/
  restrictDefaultSort : Bool := false
  /-- Leaves out the fixes of dashes, non-breaking spaces and ordinals in dates. -/
  noStyleFixes : Bool := false
  deriving DecidableEq, Repr

/-- When an article is to be skipped. -/
structure SkipOptions where
  noChange : Bool := false
  onlyFixes : Bool := false
  onlyMinorChanges : Bool := false
  noHeading : Bool := false
  noBadLink : Bool := false
  noBulletedLink : Bool := false
  noBoldTitle : Bool := false
  noCharacters : Bool := false
  noDefaultSort : Bool := false
  noCategory : Bool := false
  noImage : Bool := false
  deriving DecidableEq, Repr

/-- A fix with its entry in the log. -/
structure FixStep where
  reason : String
  /-- A significant fix makes the change a major one. -/
  significant : Bool
  fix : Text → Text
  /-- The reason to skip an article in which the fix changes nothing, if that is wanted. -/
  skipReason : Option String := none

namespace FixStep

def minor (reason : String) (fix : Text → Text) : FixStep := { reason, significant := false, fix }

def major (reason : String) (fix : Text → Text) : FixStep := { reason, significant := true, fix }

def skipUnless (s : FixStep) (wanted : Bool) (reason : String) : FixStep :=
  if wanted then { s with skipReason := some reason } else s

end FixStep

namespace Article

def runFix (a : Article) (s : FixStep) : Article :=
  let t := s.fix a.text
  if t == a.text then
    match s.skipReason with
    | some reason => a.skip reason.toList
    | none => a
  else
    let a := a.changeText t s.reason.toList .generalFixes
    { a with significantChange := a.significantChange || s.significant }

def runFixes (a : Article) (steps : List FixStep) : Article := steps.foldl runFix a

/-- What is done to the whole text. -/
def openFixes : List FixStep := [
  .minor "fixed dates" Fix.dates,
  .minor "trimmed text" Text.trim]

def styleFixes (v : Vocabulary) (title : Text) : List FixStep :=
  [.minor "fixed non-breaking spaces" Fix.nonBreakingSpaces] ++
    (if v.profile.isMainspace title then [.minor "fixed dashes" Fix.dashes] else []) ++
    [.minor "fixed date ordinals" (Fix.dateOrdinals title)]

/-- What is done to the masked text. -/
def maskedFixes (v : Vocabulary) (title : Text) (skip : SkipOptions) (options : FixOptions) :
    List FixStep :=
  [(FixStep.minor "unicodified" Fix.characters).skipUnless skip.noCharacters "no unicodification",
    .minor "fixed categories" (Category.fixAll v),
    .minor "fixed images" (Image.fixPrefixes v),
    .major "fixed syntax" (Fix.markup v),
    .minor "collapsed line breaks" Fix.lineBreakRuns,
    .minor "fixed temperatures" Fix.temperatures,
    .minor "fixed main article" Fix.hatnotes,
    .minor "removed empty links and templates" Fix.emptyConstructs,
    .minor "fixed link whitespace" (Fix.linkSpaces title),
    (FixStep.major "fixed links" (Fix.links title)).skipUnless skip.noBadLink "no bad link",
    (FixStep.minor "bulleted external links" Fix.bulletedLinks).skipUnless skip.noBulletedLink
      "no bulleted external link",
    (FixStep.major "fixed headings" (Fix.headings title)).skipUnless skip.noHeading
      "no header error"] ++
  (if options.noStyleFixes then [] else styleFixes v title) ++
  [.major "fixed citation templates" Fix.citations,
    .major "fixed reference tags" Fix.referenceTags,
    .major "simplified reference tags" Fix.simplifiedTags,
    .major "fixed reference list tags" (ReferenceList.fixTags v options.replaceReferenceTags),
    .major "named duplicate references" Fix.mergeUnnamed,
    .major "merged duplicate references" Fix.mergeNamed,
    .major "moved references after punctuation" Fix.punctuationBeforeRefs,
    .major "added missing reference list" (ReferenceList.addMissing v),
    .minor "simplified links" Fix.simplifyLinks,
    .minor "made links sticky" Fix.stickyLinks]

def boldFixes (v : Vocabulary) (title : Text) (skip : SkipOptions) : List FixStep :=
  if v.profile.isMainspace title then
    [(FixStep.minor "emboldened title" (Fix.boldTitle title)).skipUnless skip.noBoldTitle
      "no title boldened"]
  else []

/-- The sort key counts as missing for the skip options unless it was added. -/
def fixDefaultSort (a : Article) (v : Vocabulary) (skip : SkipOptions) (options : FixOptions) :
    Article :=
  let change := Metadata.fixDefaultSort v a.title options.restrictDefaultSort a.text
  (a.runFix (.minor "changed DEFAULTSORT" fun _ => change.text)).skipIf
    (skip.noDefaultSort && !change.added) "no DEFAULTSORT added"

/-- What is done to the end of the text. -/
def metadataFixes (v : Vocabulary) (title : Text) : List FixStep := [
  .minor "sorted metadata" (Metadata.sort v title),
  .minor "removed whitespace" Fix.whiteSpace]

/-- Takes stock after the fixes; `before` is the article as it was. -/
def settleFixes (before a : Article) : Article :=
  let caused := before.isUnchanged && !a.isUnchanged
  { a with
    fixesCausedChange := caused
    afterFixes := if caused then some a.text else a.afterFixes
    summary := if a.text == before.text then a.summary else a.summary.push "general fixes".toList
    majorChange := a.majorChange || (a.text != before.text && a.significantChange) }

end Article

-- -----------------------------------------------------------------------------------------
-- Fixes that may have to be given up
-- -----------------------------------------------------------------------------------------

/-- An article under repair, with the mask that hides parts of its text. -/
structure Repair where
  article : Article
  mask : Mask

/-- Repair work. If it has to be given up, what was done until then stays done. -/
abbrev Repairing := ExceptT MaskError (StateM Repair)

namespace Repairing

def edit (f : Article → Article) : Repairing Unit := modify fun r => { r with article := f r.article }

def setText (t : Text) : Repairing Unit := edit ({ · with text := t })

/-- Puts the masked text in the place of the text. This is no change, and not logged. -/
def hide : Repairing Unit := do
  let r ← get
  let (hidden, mask) ← r.mask.hide r.article.text
  set { r with mask }
  setText hidden

/-- Puts the restored text in the place of the masked one. The mask forgets the stretches also if
they cannot be put back. -/
def addBack : Repairing Unit := do
  let r ← get
  let (restored, mask) := r.mask.addBack r.article.text
  set { r with mask }
  setText (← restored)

def generalFixes (v : Vocabulary) (skip : SkipOptions) (options : FixOptions) : Repairing Unit := do
  let before := (← get).article
  let title := before.title
  edit (·.runFixes Article.openFixes)
  hide
  edit (·.runFixes (Article.maskedFixes v title skip options))
  addBack
  edit fun a => (a.runFixes (Article.boldFixes v title skip)).fixDefaultSort v skip options
  -- Categories that are commented out must not move with the others.
  hide
  edit (·.runFixes (Article.metadataFixes v title))
  addBack
  edit (Article.settleFixes before)

end Repairing

namespace Article

/-- Takes back what was done to `before` by fixes that had to be given up: the text, the entries
in the log, the skip reason and the flags are as they were. -/
def rollBack (a before : Article) : Article :=
  { a with
    text := before.text
    log := a.log.take before.log.length
    skipReason := before.skipReason
    significantChange := before.significantChange
    majorChange := before.majorChange }

/-- Applies the general fixes. If masking fails, the error is reported, the article is rolled back
and the mask forgets everything. -/
def performFixes (a : Article) (v : Vocabulary) (mask : Mask) (skip : SkipOptions)
    (options : FixOptions) : Option MaskError × Article × Mask :=
  match (Repairing.generalFixes v skip options).run { article := a, mask } with
  | (.ok (), r) => (none, r.article, r.mask)
  | (.error e, r) => (some e, r.article.rollBack a, r.mask.reset)

end Article

end Wikitext
