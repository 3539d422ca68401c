import Wikitext.Dump.Pages
import Wikitext.Proofs.Xml.Document

/-!
# What a reader passes over

Elements that are not known hold whatever they like, known elements included, and nothing of it is
read (`Loop.filler`). This is said once for both loops, the one over the site information and the
one over the pages: `Loop` lists what one event does, and `Loop.content` follows it through elements
that are nested in one another.
-/

namespace Wikitext

/-- Markup that is not a tag. -/
def Xml.Event.isAside : Xml.Event → Bool
  | .comment _ | .instruction _ | .characterData _ => true
  | _ => false

namespace Dump

open Xml (Event)

-- -----------------------------------------------------------------------------------------
-- Elements by their names
-- -----------------------------------------------------------------------------------------

/-- The name of an element that has no attributes of its own. -/
def Element.plainName? : Element → Option String
  | .mediawiki => some "mediawiki"
  | .siteinfo => some "siteinfo"
  | .dbname => some "dbname"
  | .namespaces => some "namespaces"
  | .page => some "page"
  | .title => some "title"
  | .ns => some "ns"
  | .id => some "id"
  | .revision => some "revision"
  | .timestamp => some "timestamp"
  | .comment => some "comment"
  | .minor => some "minor"
  | .namespaceEntry _ | .text _ | .unknown => none

theorem Element.ofTag_plain (he : plainName? e = some name) (hname : tag.name = Xml.ascii name)
    (strict : Bool) : ofTag strict tag = .ok e := by
  have htext : Text.ofBytes? tag.name = some name.toList := by
    rw [hname]
    exact Text.ofBytes?_toBytes _
  simp only [ofTag, htext, String.ofList_toList]
  cases e <;> cases he <;> rfl

theorem Element.ofTag_text {deleted : Bool} (hname : tag.name = Xml.ascii "text")
    (h : tag.HasAttributes as) (hdeleted : deleted = true ↔ Xml.ascii "deleted" ∈ as.map (·.key))
    (strict : Bool) : ofTag strict tag = .ok (.text deleted) := by
  have htext : Text.ofBytes? tag.name = some "text".toList := by
    rw [hname]
    exact Text.ofBytes?_toBytes _
  have hany : as.any (·.key == Xml.ascii "deleted") = deleted := by
    rw [Bool.eq_iff_iff, hdeleted]
    simp
  simp only [ofTag, htext, String.ofList_toList]
  simp [ofText, Xml.attributes_written h, hany]

/-- The names of all elements that a reader knows. -/
def knownNames : List String :=
  ["mediawiki", "siteinfo", "dbname", "namespaces", "namespace", "page", "title", "ns", "id",
    "revision", "timestamp", "comment", "minor", "text"]

/-- An element that no reader knows. -/
def Unknown (tag : Xml.Tag) : Prop :=
  ∃ name, tag.name = Text.toBytes name ∧ String.ofList name ∉ knownNames

theorem ofTag_unknown (h : Unknown tag) (strict : Bool) :
    Element.ofTag strict tag = .ok .unknown := by
  obtain ⟨name, hname, hknown⟩ := h
  rw [Element.ofTag, hname, Text.ofBytes?_toBytes]
  dsimp only
  split
  case h_15 => rfl
  all_goals
    rename_i heq
    exact absurd (by rw [heq]; decide) hknown

/-- The tags of these elements open and close them and do nothing else. -/
def Element.isQuiet : Element → Bool
  | .siteinfo | .page | .revision | .namespaceEntry _ => false
  | _ => true

/-- An element that may stand in one that is not known. -/
def Nestable (tag : Xml.Tag) : Prop :=
  (∃ name, tag.name = Text.toBytes name ∧
    String.ofList name ∉ ["siteinfo", "page", "revision", "namespace"]) ∧
  ∃ as, tag.HasAttributes as

theorem ofTag_nestable (h : Nestable tag) (strict : Bool) :
    ∃ e, Element.ofTag strict tag = .ok e ∧ e.isQuiet = true := by
  obtain ⟨⟨name, hname, hout⟩, as, hattributes⟩ := h
  rw [Element.ofTag, hname, Text.ofBytes?_toBytes, Xml.attributes_written hattributes]
  dsimp only
  split
  case h_2 | h_5 | h_6 | h_10 =>
    rename_i heq
    exact absurd (by rw [heq]; decide) hout
  all_goals exact ⟨_, rfl, rfl⟩

-- -----------------------------------------------------------------------------------------
-- Content
-- -----------------------------------------------------------------------------------------

/-- Character data, asides and elements that are closed again. The elements on top are of one kind,
those within them of another. -/
inductive Content (nested : Xml.Tag → Prop) : (Xml.Tag → Prop) → List Event → Prop
  | nil : Content nested top []
  | text : Xml.Says raw t → Content nested top es → Content nested top (.text raw :: es)
  | aside : e.isAside = true → Content nested top es → Content nested top (e :: es)
  | empty {tag : Xml.Tag} : top tag → Content nested top es → Content nested top (.empty tag :: es)
  | element {tag : Xml.Tag} : top tag → Content nested nested inside → Content nested top es →
      Content nested top (.start tag :: (inside ++ .stop tag.name :: es))

/-- What may stand between the parts of a dump: character data such as white space, and elements
that are not known. -/
def Filler (es : List Event) : Prop := Content Nestable Unknown es

/-- Where character data is taken up. -/
def Path.takesText : Path → Bool
  | [.dbname, .siteinfo, .mediawiki] | [.namespaceEntry _, .namespaces, .siteinfo, .mediawiki]
  | [.title, .page, .mediawiki] | [.ns, .page, .mediawiki] | [.id, .revision, .page, .mediawiki]
  | [.timestamp, .revision, .page, .mediawiki] | [.comment, .revision, .page, .mediawiki]
  | [.text _, .revision, .page, .mediawiki] => true
  | _ => false

/-- Where an element without content says something. -/
def Path.takesEmpty : Path → Bool
  | [.minor, .revision, .page, .mediawiki] | [.text _, .revision, .page, .mediawiki] => true
  | _ => false

theorem Path.takesText_of_unknown {path : Path} (h : .unknown ∈ path) : path.takesText = false := by
  unfold takesText
  split <;> simp_all

theorem Path.takesEmpty_of_unknown {path : Path} (h : .unknown ∈ path) :
    path.takesEmpty = false := by
  unfold takesEmpty
  split <;> simp_all

-- -----------------------------------------------------------------------------------------
-- Loops over events
-- -----------------------------------------------------------------------------------------

/-- A loop over events: its state has a path, the tags of quiet elements go down and up in it, and
character data is taken up by `readText`. -/
structure Loop (strict : Bool) (run : σ → List Event → β) (path : σ → Path)
    (within : σ → Element → σ) (readText : σ → Text → σ) : Prop where
  path_within (s : σ) (e : Element) : path (within s e) = e :: path s
  silent (s : σ) (t : Text) : (path s).takesText = false → readText s t = s
  text (s : σ) (rest : List Event) : Xml.Says raw t →
    run s (.text raw :: rest) = run (readText s t) rest
  aside (s : σ) (e : Event) (rest : List Event) : e.isAside = true → run s (e :: rest) = run s rest
  empty (s : σ) (e : Element) (rest : List Event) : Element.ofTag strict tag = .ok e →
    e.isQuiet = true → Path.takesEmpty (e :: path s) = false →
    run s (.empty tag :: rest) = run s rest
  start (s : σ) (e : Element) (rest : List Event) : Element.ofTag strict tag = .ok e →
    e.isQuiet = true → run s (.start tag :: rest) = run (within s e) rest
  stop (s : σ) (e : Element) (name : Bytes) (rest : List Event) : e.isQuiet = true →
    run (within s e) (.stop name :: rest) = run s rest

namespace Loop

variable {run : σ → List Event → β} {path : σ → Path} {within : σ → Element → σ}
  {readText : σ → Text → σ}

theorem content (h : Loop strict run path within readText) (hc : Content nested top es)
    (htop : ∀ tag, top tag → ∃ e, Element.ofTag strict tag = .ok e ∧ e.isQuiet = true ∧
      .unknown ∈ e :: path s)
    (hnested : ∀ tag, nested tag → ∃ e, Element.ofTag strict tag = .ok e ∧ e.isQuiet = true)
    (hs : (path s).takesText = false) (rest : List Event) : run s (es ++ rest) = run s rest := by
  induction hc generalizing s rest with
  | nil => rfl
  | text hsaid _ ih => rw [List.cons_append, h.text _ _ hsaid, h.silent _ _ hs, ih htop hs]
  | aside haside _ ih => rw [List.cons_append, h.aside _ _ _ haside, ih htop hs]
  | @empty _ _ tag htag _ ih =>
    obtain ⟨e, he, hquiet, hunknown⟩ := htop tag htag
    rw [List.cons_append, h.empty _ _ _ he hquiet (Path.takesEmpty_of_unknown hunknown), ih htop hs]
  | @element _ _ _ tag htag _ _ ihinside ih =>
    obtain ⟨e, he, hquiet, hunknown⟩ := htop tag htag
    rw [← h.path_within s e] at hunknown
    have hwithin : ∀ tag, nested tag → ∃ e', Element.ofTag strict tag = .ok e' ∧ e'.isQuiet = true ∧
        .unknown ∈ e' :: path (within s e) := by
      intro tag htag
      obtain ⟨e', he', hquiet'⟩ := hnested tag htag
      exact ⟨e', he', hquiet', List.mem_cons_of_mem e' hunknown⟩
    rw [List.cons_append, List.append_assoc, h.start _ _ _ he hquiet,
      ihinside hwithin (Path.takesText_of_unknown hunknown), List.cons_append,
      h.stop _ _ _ _ hquiet, ih htop hs]

theorem filler (h : Loop strict run path within readText) (hf : Filler es)
    (hs : (path s).takesText = false) (rest : List Event) : run s (es ++ rest) = run s rest :=
  h.content hf (fun _ htag => ⟨.unknown, ofTag_unknown htag strict, rfl, List.mem_cons_self⟩)
    (fun _ htag => ofTag_nestable htag strict) hs rest

end Loop

end Dump

end Wikitext
