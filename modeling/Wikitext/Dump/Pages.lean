import Wikitext.Dump.Element

/-!
# Reading a dump

The site information comes first and ends with its element.

A page ends with its element; whatever was read outside of pages before it is
forgotten then. A revision needs its number, its time and a text, which may be
empty; a strict reader stops at one that lacks them, a lenient one passes over
it.
-/

namespace Wikitext.Dump

-- -----------------------------------------------------------------------------------------
-- The site information
-- -----------------------------------------------------------------------------------------

/-- Where the reading stands: the open elements and what was learnt about the site. -/
structure SiteState where
  path : Path := []
  info : SiteInfo := {}

namespace SiteState

def readText (s : SiteState) (t : Text) : SiteState :=
  match s.path with
  | [.dbname, .siteinfo, .mediawiki] => { s with info := { s.info with database := t } }
  | [.namespaceEntry key, .namespaces, .siteinfo, .mediawiki] =>
    match namespaceId? key with
    | some id => { s with info := s.info.setNamespace id t }
    | none => s
  | _ => s

/-- An empty element may name a namespace wherever it stands. -/
def readEmpty (s : SiteState) : Element → SiteState
  | .namespaceEntry key =>
    match namespaceId? key with
    | some id => { s with info := s.info.setNamespace id [] }
    | none => s
  | _ => s

def step (strict : Bool) (s : SiteState) : Xml.Event → Except DumpError SiteState
  | .start tag => do return { s with path := (← Element.ofTag strict tag) :: s.path }
  | .empty tag => do return s.readEmpty (← Element.ofTag strict tag)
  | .text raw => do return s.readText (← textOf raw)
  | .stop _ => .ok { s with path := s.path.drop 1 }
  | _ => .ok s

/-- Whether the event ends the site information. -/
def isLast (s : SiteState) : Xml.Event → Bool
  | .stop _ => s.path.head? == some .siteinfo
  | _ => false

end SiteState

/-- Reads up to the end of the site information; the rest is for the pages. -/
def readSite (strict : Bool) (s : SiteState) (sound : Bool) :
    List Xml.Event → Except DumpError (SiteState × List Xml.Event)
  | [] => .error (if sound then .unexpectedEnd else .xml)
  | e :: rest => do
    let next ← s.step strict e
    if s.isLast e then return (next, rest) else readSite strict next sound rest

-- -----------------------------------------------------------------------------------------
-- The pages
-- -----------------------------------------------------------------------------------------

/-- What is known of the revision that is being read. A text may be known to be deleted. -/
structure Draft where
  id : Option Int := none
  timestamp : Option Timestamp := none
  text : Option (Option Text) := none
  comment : Option Text := none
  minor : Bool := false

def Draft.revision? (d : Draft) : Option Revision := do
  return { id := ← d.id, timestamp := ← d.timestamp, text := ← d.text, comment := d.comment,
           minor := d.minor }

/-- Where the reading of pages stands. -/
structure PageState where
  path : Path
  page : Page := {}
  /-- A page has begun that has not ended. -/
  started : Bool := false
  draft : Option Draft := none

namespace PageState

def setDraft (s : PageState) (f : Draft → Draft) : PageState := { s with draft := s.draft.map f }

def normalTitle (t : Text) : Text := (Text.trim t).map fun c => if c == '_' then ' ' else c

def readText (s : PageState) (t : Text) : PageState :=
  match s.path with
  | [.title, .page, .mediawiki] => { s with page := { s.page with title := normalTitle t } }
  | [.ns, .page, .mediawiki] =>
    { s with page := { s.page with namespaceId := (namespaceId? (Text.trim t)).getD 0 } }
  | [.id, .revision, .page, .mediawiki] =>
    s.setDraft fun d => { d with id := revisionId? (Text.trim t) }
  | [.timestamp, .revision, .page, .mediawiki] =>
    s.setDraft fun d => { d with timestamp := Timestamp.read? t }
  | [.comment, .revision, .page, .mediawiki] => s.setDraft fun d => { d with comment := some t }
  | [.text deleted, .revision, .page, .mediawiki] =>
    s.setDraft fun d => { d with text := some (if deleted then none else some t) }
  | _ => s

def readEmpty (s : PageState) (e : Element) : PageState :=
  match e :: s.path with
  | [.text deleted, .revision, .page, .mediawiki] =>
    s.setDraft fun d => { d with text := some (if deleted then none else some []) }
  | [.minor, .revision, .page, .mediawiki] => s.setDraft fun d => { d with minor := true }
  | _ => s

def openElement (s : PageState) (e : Element) : PageState :=
  let s := { s with path := e :: s.path }
  match e with
  | .page => { s with started := true }
  | .revision => { s with draft := some {} }
  | _ => s

def closeRevision (strict : Bool) (s : PageState) : Except DumpError PageState :=
  match s.draft with
  | none => .ok s
  | some d =>
    match d.revision? with
    | some r => .ok { s with draft := none, page := { s.page with revision := some r } }
    | none => if strict then .error .malformed else .ok { s with draft := none }

/-- The next state, and the page if one has ended. -/
def step (strict : Bool) (s : PageState) : Xml.Event → Except DumpError (PageState × Option Page)
  | .start tag => do return (s.openElement (← Element.ofTag strict tag), none)
  | .empty tag => do return (s.readEmpty (← Element.ofTag strict tag), none)
  | .text raw => do return (s.readText (← textOf raw), none)
  | .stop _ => do
    let path := s.path.drop 1
    match s.path.head? with
    | some .revision => return (← closeRevision strict { s with path }, none)
    | some .page => return ({ path }, some s.page)
    | _ => return ({ s with path }, none)
  | _ => .ok (s, none)

end PageState

/-- The pages that end before the reading does, and why it ends early if it does. -/
def readPages (strict : Bool) (s : PageState) (sound : Bool) :
    List Xml.Event → List Page × Option DumpError
  | [] => ([], if !sound then some .xml else if s.started then some .unexpectedEnd else none)
  | e :: rest =>
    match s.step strict e with
    | .error err => ([], some err)
    | .ok (s, none) => readPages strict s sound rest
    | .ok (s, some page) =>
      let (pages, stop) := readPages strict s sound rest
      (page :: pages, stop)

/-- Reads a dump. Without site information there is none. -/
def read (strict : Bool) (bytes : Bytes) : Except DumpError Dump := do
  let events := Xml.events bytes
  let (site, rest) ← readSite strict {} events.sound events.events
  let (pages, stoppedBy) := readPages strict { path := site.path } events.sound rest
  return { siteInfo := site.info, pages, stoppedBy }

end Wikitext.Dump
