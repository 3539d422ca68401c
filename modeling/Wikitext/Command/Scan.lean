import Wikitext.Dump.Pages
import Wikitext.Job
import Wikitext.Json.Basic

/-!
# Scanning dumps

A scan processes the pages of a dump and reports those that it would change,
each as one line of JSON. Pages without text, pages that are to be skipped and
pages that cannot be processed are passed over.
-/

namespace Wikitext

/-- What a scan says of a page. -/
structure PageReport where
  title : Text
  summary : Text
  major : Bool
  fixesOnly : Bool
  /-- The position of a bracket that is left without a partner. -/
  unbalancedBracket : Option Nat
  deriving DecidableEq, Repr

namespace PageReport

def ofProcessed (p : Processed) : PageReport where
  title := p.title
  summary := p.summary
  major := p.majorChange
  fixesOnly := p.fixesCausedChange && !p.majorChange
  unbalancedBracket := p.unbalancedBracket.map (·.position)

/-- The report as JSON, with its fields in alphabetical order. -/
def line (r : PageReport) : Text :=
  Json.objectLine [
    ("general_fixes_only", Json.boolText r.fixesOnly),
    ("major", Json.boolText r.major),
    ("summary", Json.quoted r.summary),
    ("title", Json.quoted r.title),
    ("unbalanced_bracket", (r.unbalancedBracket.map Text.ofNat).getD "null".toList)]

end PageReport

namespace Job

/-- The report on a page that the job would change. -/
def report? (j : Job) (title t : Text) : Option PageReport :=
  match j.process title t with
  | .ok p => if p.skipReason.isSome then none else some (PageReport.ofProcessed p)
  | .error _ => none

def reportPage? (j : Job) (allNamespaces : Bool) (p : Page) : Option PageReport :=
  if allNamespaces || p.namespaceId == 0 then p.text?.bind (j.report? p.title) else none

def scan (j : Job) (allNamespaces : Bool) (pages : List Page) : List PageReport :=
  pages.filterMap (j.reportPage? allNamespaces)

end Job

end Wikitext
