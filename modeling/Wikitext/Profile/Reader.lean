import Wikitext.Profile
import Wikitext.Toml.Document

/-!
# Reading profiles

A profile is a TOML document. Entries that are missing are those of the English
Wikipedia, and unknown ones are passed over.
-/

namespace Wikitext.Profile

def textEntry? (entries : Toml.Entries) (key : String) (fallback : Text) : Option Text :=
  match entries.lookup key.toList with
  | none => some fallback
  | some (.string t) => some t
  | some _ => none

def textsEntry? (entries : Toml.Entries) (key : String) (fallback : List Text) :
    Option (List Text) :=
  match entries.lookup key.toList with
  | none => some fallback
  | some (.array items) =>
    items.mapM fun
      | .string t => some t
      | _ => none
  | some _ => none

/-- The profile that a text describes. -/
def read? (t : Text) : Option Profile := do
  let entries ← Toml.read? t
  let base := englishWikipedia
  return {
    langCode := ← textEntry? entries "lang_code" base.langCode
    categoryNamespace := ← textEntry? entries "category_namespace" base.categoryNamespace
    fileNamespaces := ← textsEntry? entries "file_namespaces" base.fileNamespaces
    templateNamespace := ← textEntry? entries "template_namespace" base.templateNamespace
    otherNamespaces := ← textsEntry? entries "other_namespaces" base.otherNamespaces
    stubPattern := ← textEntry? entries "stub_pattern" base.stubPattern
    interwikiCodes := ← textsEntry? entries "interwiki_codes" base.interwikiCodes
    reflistTemplates := ← textsEntry? entries "reflist_templates" base.reflistTemplates }

end Wikitext.Profile
