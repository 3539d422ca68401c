import Wikitext.Dump.Timestamp
import Wikitext.Xml.Event

/-!
# Dumps and their elements

What an export of a wiki holds: the name of the database, the names of the
namespaces, and the pages with their last revisions.

The elements whose content is needed, and those around them. All others are
unknown and passed over. A strict reader refuses a name that is no text and a
namespace without its number, a lenient one passes over them.
-/

namespace Wikitext

structure Revision where
  id : Int
  timestamp : Timestamp
  /-- Nothing if the text was deleted. -/
  text : Option Text
  comment : Option Text
  minor : Bool
  deriving DecidableEq, Repr

structure Page where
  /-- The full title with spaces for underscores. -/
  title : Text := []
  namespaceId : Int := 0
  /-- The last revision of the page in the dump that is complete. -/
  revision : Option Revision := none
  deriving DecidableEq, Repr

def Page.text? (p : Page) : Option Text := p.revision.bind (·.text)

structure SiteInfo where
  database : Text := []
  /-- Names by number, in ascending order; the main namespace has an empty name. -/
  namespaces : List (Int × Text) := []
  deriving DecidableEq, Repr

/-- Sets the name of a namespace, which takes the place of an earlier one. -/
def SiteInfo.setNamespace (info : SiteInfo) (id : Int) (name : Text) : SiteInfo :=
  let before := info.namespaces.takeWhile (·.1 < id)
  let after := (info.namespaces.drop before.length).dropWhile (·.1 == id)
  { info with namespaces := before ++ (id, name) :: after }

inductive DumpError
  | xml
  | missingKey
  | malformed
  | unexpectedEnd
  deriving DecidableEq, Repr

def DumpError.message : DumpError → String
  | .xml => "XML error"
  | .missingKey => "missing attribute \x60key\x60 on tag \x60namespace\x60"
  | .malformed => "malformed dump: aborted after a structural error"
  | .unexpectedEnd => "unexpected end of file"

/-- What was read of a dump, and what ended the reading before its time. -/
structure Dump where
  siteInfo : SiteInfo
  pages : List Page
  stoppedBy : Option DumpError
  deriving DecidableEq, Repr

end Wikitext

namespace Wikitext.Dump

inductive Element
  | mediawiki
  | siteinfo
  | dbname
  | namespaces
  | namespaceEntry (key : Text)
  | page
  | title
  | ns
  | id
  | revision
  | timestamp
  | comment
  | minor
  | text (deleted : Bool)
  | unknown
  deriving DecidableEq, Repr

namespace Element

/-- A namespace by its number, with the attributes up to it free of faults. -/
def ofNamespace (strict : Bool) (attributes : Xml.Attributes) : Except DumpError Element :=
  match attributes.read.find? (·.key == Xml.ascii "key") with
  | some a =>
    match a.text? with
    | some key => .ok (.namespaceEntry key)
    | none => .error .xml
  | none =>
    if !attributes.complete then .error .xml
    else if strict then .error .missingKey
    else .ok .unknown

/-- A text is deleted if it says so, whatever the value. -/
def ofText (attributes : Xml.Attributes) : Except DumpError Element :=
  if attributes.complete then
    .ok (.text (attributes.read.any (·.key == Xml.ascii "deleted")))
  else .error .xml

def ofTag (strict : Bool) (tag : Xml.Tag) : Except DumpError Element :=
  match Text.ofBytes? tag.name with
  | none => if strict then .error .malformed else .ok .unknown
  | some name =>
    match String.ofList name with
    | "mediawiki" => .ok .mediawiki
    | "siteinfo" => .ok .siteinfo
    | "dbname" => .ok .dbname
    | "namespaces" => .ok .namespaces
    | "namespace" => ofNamespace strict (Xml.attributes tag.inside)
    | "page" => .ok .page
    | "title" => .ok .title
    | "ns" => .ok .ns
    | "id" => .ok .id
    | "revision" => .ok .revision
    | "timestamp" => .ok .timestamp
    | "comment" => .ok .comment
    | "minor" => .ok .minor
    | "text" => ofText (Xml.attributes tag.inside)
    | _ => .ok .unknown

end Element

/-- The elements that are open, the outermost last. -/
abbrev Path := List Element

/-- The text of a text event. -/
def textOf (raw : Bytes) : Except DumpError Text :=
  match (Text.ofBytes? raw).bind Xml.unescape? with
  | some t => .ok t
  | none => .error .xml

/-- The number of a namespace, in 32 bits. -/
def namespaceId? (t : Text) : Option Int := Text.boundedNumber? (-2147483648) 2147483647 t

/-- The number of a revision, in 64 bits. -/
def revisionId? (t : Text) : Option Int :=
  Text.boundedNumber? (-9223372036854775808) 9223372036854775807 t

end Wikitext.Dump
