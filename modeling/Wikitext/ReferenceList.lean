import Wikitext.Metadata
import Wikitext.Pattern.Expansion

/-!
# The reference list

The tags and templates that display the references of an article, and where
one is put if it is missing.
-/

namespace Wikitext.ReferenceList

open Pattern

def referencesTag : Regex :=
  (lit "<references" ++ blanks ++ lit ">" ++ blanks ++ lit "</references" ++ blanks ++ lit ">" <|>
    lit "<references" ++ blanks ++ lit "/" ++ blanks ++ lit ">").caseless.compile

def smallReferences : Regex :=
  (lit "<div" ++ many (noneOf ">") ++ lit "class" ++ blanks ++ lit "=" ++ blanks ++
    opt (lit "\"") ++ lit "references-small" ++ opt (lit "\"") ++ many (noneOf ">") ++ lit ">" ++
    blanks ++ lit "<references" ++ blanks ++ lit "/>" ++ blanks ++
    lit "</div>").caseless.compile

def marks : Pattern := lit "=" ++ many1 (lit "=")

def referencesHeading : Regex :=
  (lineStart ++ marks ++ gap ++
    firstOf (["References", "Notes", "Footnotes", "Notes and references"].map lit) ++ gap ++
    marks ++ gap ++ opt (lit "\r") ++ lineEnd).caseless.compile

def externalLinksHeading : Regex :=
  (lineStart ++ marks ++ gap ++ lit "External" ++ someGap ++ lit "link" ++ opt (lit "s") ++ gap ++
    marks).caseless.compile

def standardTag : Text := "<references />".toList

def template (v : Vocabulary) : Text :=
  "\x7b\x7b".toList ++ v.profile.defaultReflist ++ "\x7d\x7d".toList

/-- Standard tags; a single one gives way to the template if `useTemplate` is set. The name
of the template is filled in as a replacement template. -/
def fixTags (v : Vocabulary) (useTemplate : Bool) (t : Text) : Text :=
  let small (m : Match) := Template.expand (Template.groupText [] m) (template v)
  let t := referencesTag.replaceAll (fun _ => standardTag) (smallReferences.replaceAll small t)
  if useTemplate && Text.occurrences standardTag t == 1 then
    Text.replaceFirst standardTag (template v) t
  else t

def hasRefTag (t : Text) : Bool :=
  let t := t.map Char.toLower
  ["<ref>", "<ref ", "<ref\n", "<ref\t"].any fun tag => Text.includes t tag.toList

/-- References are used but nothing displays them. -/
def isMissing (v : Vocabulary) (t : Text) : Bool :=
  hasRefTag t && !v.referenceDisplay.isMatch t

/-- Adds the template under a heading for references, or in a section of its own before the
external links or the metadata, or at the end. -/
def addMissing (v : Vocabulary) (t : Text) : Text :=
  if !isMissing v t then t
  else match referencesHeading.find? t with
    | some m => t.take (t.length - m.stop.left) ++ "\n".toList ++ template v ++ m.after
    | none =>
      let lists := "\n\n==References==\n".toList ++ template v
      let place := ((externalLinksHeading.find? t).map fun m => m.offset t.length).orElse
        fun _ => Metadata.firstLine? v t
      match place with
      | some i => Text.trimEnd (t.take i) ++ lists ++ "\n\n".toList ++ t.drop i
      | none => Text.trimEnd t ++ lists

end Wikitext.ReferenceList
