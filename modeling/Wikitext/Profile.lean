import Wikitext.Text.Basic

/-!
# Wiki profiles

The names and codes in which wikis differ. A profile is a value that every
operation takes explicitly; there is no current wiki.
-/

namespace Wikitext

structure Profile where
  langCode : Text
  categoryNamespace : Text
  /-- The canonical name first, then the accepted aliases. -/
  fileNamespaces : List Text
  templateNamespace : Text
  /-- Prefixes that mark a title as lying outside the article space. -/
  otherNamespaces : List Text
  /-- Describes the name of a stub template, without its braces. -/
  stubPattern : Text
  interwikiCodes : List Text
  /-- Templates that display the reference list; the first is inserted where one is missing. -/
  reflistTemplates : List Text
  deriving Repr, DecidableEq

namespace Profile

def englishWikipedia : Profile where
  langCode := "en".toList
  categoryNamespace := "Category".toList
  fileNamespaces := ["File", "Image"].map String.toList
  templateNamespace := "Template".toList
  otherNamespaces :=
    ["Talk", "User", "User talk", "Wikipedia", "Wikipedia talk", "File", "File talk", "Image",
      "MediaWiki", "Template", "Template talk", "Help", "Category", "Category talk", "Portal",
      "Draft", "Module", "Special"].map String.toList
  stubPattern := "(?i)^[^\x7b\x7d|]*?[Ss]tub\\s*$".toList
  interwikiCodes :=
    ["ar", "bg", "ca", "cs", "da", "de", "el", "eo", "es", "et", "eu", "fa", "fi", "fr", "gl",
      "he", "hr", "hu", "id", "it", "ja", "ko", "lt", "ms", "nl", "nn", "no", "pl", "pt", "ro",
      "ru", "simple", "sk", "sl", "sr", "sv", "th", "tr", "uk", "vi", "zh"].map String.toList
  reflistTemplates :=
    ["Reflist", "Refs", "References", "Ref-list", "Reference list", "Notelist",
      "Listaref"].map String.toList

def canonicalFileNamespace (p : Profile) : Text := p.fileNamespaces.headD "File".toList

def defaultReflist (p : Profile) : Text := p.reflistTemplates.headD "Reflist".toList

def isInterwikiCode (p : Profile) (code : Text) : Bool := p.interwikiCodes.contains code

/-- The part of the title before its first colon, if it is a known prefix up to ASCII case. -/
def namespaceOf? (p : Profile) (title : Text) : Option Text := do
  let (front, _) ← Text.splitFirst? ':' title
  let name := Text.trim front
  if p.otherNamespaces.any (Text.eqAsciiCase · name) then some name else none

def isMainspace (p : Profile) (title : Text) : Bool := (p.namespaceOf? title).isNone

/-- The title without its namespace. -/
def pageName (p : Profile) (title : Text) : Text :=
  match p.namespaceOf? title with
  | some _ => ((Text.splitFirst? ':' title).map fun (_, rest) => Text.trimStart rest).getD title
  | none => title

def basePageName (p : Profile) (title : Text) : Text :=
  let name := p.pageName title
  ((Text.splitFirst? '/' name).map (·.1)).getD name

def subPageName (p : Profile) (title : Text) : Text :=
  let name := p.pageName title
  ((Text.splitLast? '/' name).map (·.2)).getD name

end Profile

end Wikitext
