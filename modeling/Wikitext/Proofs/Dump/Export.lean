import Wikitext.Dump.Pages
import Wikitext.Proofs.Dump.Passing
import Wikitext.Proofs.Dump.Timestamp

/-!
# Exports

The events of an export of a wiki, `Export site histories es`: the name of the database, a table of
namespaces in any order, and pages, each with its title, its namespace and its revisions. Between the
parts stands whatever is not known to a reader (`Filler`). Every element is closed in its place
(`Export.balanced`), and no document begins with a byte order mark (`Export.not_byteOrderMark`).
-/

namespace Wikitext.Dump

open Xml (Event)

-- -----------------------------------------------------------------------------------------
-- Parts in general
-- -----------------------------------------------------------------------------------------

/-- An element that only holds a text; without a text it may be an empty element. -/
inductive Leaf (name : String) : Text → List Event → Prop
  | empty {tag : Xml.Tag} : tag.name = Xml.ascii name → Leaf name [] [.empty tag]
  | pair {tag : Xml.Tag} : tag.name = Xml.ascii name → Leaf name [] [.start tag, .stop tag.name]
  | text {tag : Xml.Tag} : tag.name = Xml.ascii name → t ≠ [] → Xml.Says raw t →
      Leaf name t [.start tag, .text raw, .stop tag.name]

/-- An element around other events. -/
inductive Enclosed (name : String) (inside : List Event) : List Event → Prop
  | intro {tag : Xml.Tag} : tag.name = Xml.ascii name →
      Enclosed name inside (.start tag :: (inside ++ [.stop tag.name]))

/-- Parts one after the other, with fillers before, between and behind them. -/
inductive Padded (part : α → List Event → Prop) : List α → List Event → Prop
  | nil : Filler filler → Padded part [] filler
  | cons : Filler filler → part a es → Padded part as rest →
      Padded part (a :: as) (filler ++ (es ++ rest))

-- -----------------------------------------------------------------------------------------
-- Revisions
-- -----------------------------------------------------------------------------------------

/-- A part of a revision. -/
inductive Field
  | id (n : Int)
  | timestamp (t : Timestamp)
  | comment (t : Text)
  | minor
  | text (t : Option Text)

/-- The parts of a revision as an export has them. A text that is empty or deleted is written as an
empty element. -/
inductive Field.Written : Field → List Event → Prop
  | id : -9223372036854775808 ≤ n → n ≤ 9223372036854775807 → Leaf "id" (Text.ofInt n) es →
      Written (.id n) es
  | timestamp {t : Timestamp} : t.isValid = true → t.HasShortYear → Leaf "timestamp" t.text es →
      Written (.timestamp t) es
  | comment : t ≠ [] → Leaf "comment" t es → Written (.comment t) es
  | minor {tag : Xml.Tag} : tag.name = Xml.ascii "minor" → Written .minor [.empty tag]
  | text {tag : Xml.Tag} : tag.name = Xml.ascii "text" → tag.HasAttributes as →
      Xml.ascii "deleted" ∉ as.map (·.key) → t ≠ [] → Xml.Says raw t →
      Written (.text (some t)) [.start tag, .text raw, .stop tag.name]
  | emptyText {tag : Xml.Tag} : tag.name = Xml.ascii "text" → tag.HasAttributes as →
      Xml.ascii "deleted" ∉ as.map (·.key) → Written (.text (some [])) [.empty tag]
  | deletedText {tag : Xml.Tag} : tag.name = Xml.ascii "text" → tag.HasAttributes as →
      Xml.ascii "deleted" ∈ as.map (·.key) → Written (.text none) [.empty tag]

/-- What an export writes of a revision. -/
def fields (r : Revision) : List Field :=
  .id r.id :: .timestamp r.timestamp :: (r.comment.toList.map .comment ++
    ((if r.minor then [.minor] else []) ++ [.text r.text]))

-- -----------------------------------------------------------------------------------------
-- Pages
-- -----------------------------------------------------------------------------------------

/-- A page with all its revisions, as an export has it. -/
structure History where
  title : Text
  namespaceId : Int
  /-- The number of the page, which nobody reads. -/
  id : Option Text := none
  revisions : List Revision

/-- The page that is read: with its last revision, and a title without underscores. -/
def History.page (h : History) : Page where
  title := PageState.normalTitle h.title
  namespaceId := h.namespaceId
  revision := h.revisions.getLast?

/-- A part of a page. -/
inductive PagePart
  | title (t : Text)
  | ns (n : Int)
  | id (t : Text)
  | revision (r : Revision)

/-- The parts of a page as an export has them; those of a revision come in any order. -/
inductive PagePart.Written : PagePart → List Event → Prop
  | title : Leaf "title" t es → Written (.title t) es
  | ns : -2147483648 ≤ n → n ≤ 2147483647 → Leaf "ns" (Text.ofInt n) es → Written (.ns n) es
  | id : Leaf "id" t es → Written (.id t) es
  | revision : fs.Perm (fields r) → Padded Field.Written fs inside → Enclosed "revision" inside es →
      Written (.revision r) es

/-- What an export writes of a page. -/
def History.parts (h : History) : List PagePart :=
  .title h.title :: .ns h.namespaceId :: (h.id.toList.map .id ++ h.revisions.map .revision)

def History.Written (h : History) (es : List Event) : Prop :=
  ∃ inside, Padded PagePart.Written h.parts inside ∧ Enclosed "page" inside es

-- -----------------------------------------------------------------------------------------
-- The site
-- -----------------------------------------------------------------------------------------

/-- The tag is that of the namespace with the number `n`. -/
structure IsNamespaceTag (tag : Xml.Tag) (n : Int) : Prop where
  name : tag.name = Xml.ascii "namespace"
  least : -2147483648 ≤ n
  most : n ≤ 2147483647
  key : ∃ as value, tag.HasAttributes as ∧ ⟨Xml.ascii "key", value⟩ ∈ as ∧
    Xml.Says value (Text.ofInt n)

/-- A namespace with its name; without a name it is an empty element. -/
inductive EntryWritten : Int × Text → List Event → Prop
  | empty : IsNamespaceTag tag n → EntryWritten (n, []) [.empty tag]
  | named : IsNamespaceTag tag n → Xml.Says raw name →
      EntryWritten (n, name) [.start tag, .text raw, .stop tag.name]

/-- A part of the site information. -/
inductive SitePart
  | dbname (t : Text)
  | namespaces (entries : List (Int × Text))

inductive SitePart.Written : SitePart → List Event → Prop
  | dbname : Leaf "dbname" t es → Written (.dbname t) es
  | namespaces : Padded EntryWritten entries inside → Enclosed "namespaces" inside es →
      Written (.namespaces entries) es

/-- The site information, with the namespaces in any order. -/
def SiteWritten (site : SiteInfo) (es : List Event) : Prop :=
  ∃ entries inside, entries.Perm site.namespaces ∧
    Padded SitePart.Written [.dbname site.database, .namespaces entries] inside ∧
    Enclosed "siteinfo" inside es

-- -----------------------------------------------------------------------------------------
-- Documents
-- -----------------------------------------------------------------------------------------

/-- What may stand around the outermost element: white space, comments and instructions. -/
def IsMisc : Event → Prop
  | .text raw => Xml.Blank raw
  | .comment _ | .instruction _ => True
  | _ => False

/-- An export of a wiki: what a document begins with, the site information, the pages and what a
document ends with. -/
inductive Export (site : SiteInfo) (histories : List History) : List Event → Prop
  | intro : (∀ e ∈ front, IsMisc e) → Filler filler → SiteWritten site info →
      Padded History.Written histories rest → Enclosed "mediawiki" (filler ++ (info ++ rest)) root →
      (∀ e ∈ back, IsMisc e) → Export site histories (front ++ (root ++ back))

-- -----------------------------------------------------------------------------------------
-- Tags in their places
-- -----------------------------------------------------------------------------------------

/-- All elements that begin in the events end in them, and no others. -/
def Balanced (es : List Event) : Prop := ∀ opened, Xml.openAfterAll? opened es = some opened

theorem balanced_nil : Balanced [] := fun _ => rfl

theorem Balanced.append (h : Balanced es) (h' : Balanced es') : Balanced (es ++ es') := by
  intro opened
  rw [Xml.openAfterAll?, List.foldlM_append, ← Xml.openAfterAll?, h opened]
  exact h' opened

theorem balanced_singleton (h : ∀ opened, Xml.openAfter? opened e = some opened) :
    Balanced [e] := by
  intro opened
  simp [Xml.openAfterAll?, h opened]

theorem balanced_element {tag : Xml.Tag} (h : Balanced inside) :
    Balanced (.start tag :: (inside ++ [.stop tag.name])) := by
  intro opened
  have hinside := h (tag.name :: opened)
  rw [Xml.openAfterAll?] at hinside
  simp [Xml.openAfterAll?, Xml.openAfter?, List.foldlM_append, hinside]

theorem Content.balanced (h : Content nested top es) : Balanced es := by
  induction h with
  | nil => exact balanced_nil
  | text _ _ ih => exact (balanced_singleton fun _ => rfl).append ih
  | @aside _ _ e haside _ ih =>
    refine (balanced_singleton fun _ => ?_).append ih
    cases e <;> first | rfl | cases haside
  | empty _ _ ih => exact (balanced_singleton fun _ => rfl).append ih
  | element _ _ _ ihinside ih => simpa using (balanced_element ihinside).append ih

theorem Leaf.balanced (h : Leaf name t es) : Balanced es := by
  cases h with
  | empty => exact balanced_singleton fun _ => rfl
  | pair => exact balanced_element balanced_nil
  | text => exact balanced_element (balanced_singleton fun _ => rfl)

theorem Enclosed.balanced (h : Enclosed name inside es) (hinside : Balanced inside) :
    Balanced es := by
  cases h
  exact balanced_element hinside

theorem Padded.balanced (h : Padded part as es) (hpart : ∀ a es, part a es → Balanced es) :
    Balanced es := by
  induction h with
  | nil hfiller => exact hfiller.balanced
  | cons hfiller ha _ ih => exact hfiller.balanced.append ((hpart _ _ ha).append ih)

theorem Field.Written.balanced {f : Field} (h : f.Written es) : Balanced es := by
  cases h with
  | id _ _ h | timestamp _ _ h | comment _ h => exact h.balanced
  | minor | emptyText | deletedText => exact balanced_singleton fun _ => rfl
  | text => exact balanced_element (balanced_singleton fun _ => rfl)

theorem PagePart.Written.balanced {part : PagePart} (h : part.Written es) : Balanced es := by
  cases h with
  | title h | ns _ _ h | id h => exact h.balanced
  | revision _ hfields h => exact h.balanced (hfields.balanced fun _ _ => Field.Written.balanced)

theorem History.Written.balanced {h : History} (hw : h.Written es) : Balanced es := by
  obtain ⟨inside, hparts, henclosed⟩ := hw
  exact henclosed.balanced (hparts.balanced fun _ _ => PagePart.Written.balanced)

theorem EntryWritten.balanced (h : EntryWritten entry es) : Balanced es := by
  cases h with
  | empty => exact balanced_singleton fun _ => rfl
  | named => exact balanced_element (balanced_singleton fun _ => rfl)

theorem SitePart.Written.balanced {part : SitePart} (h : part.Written es) : Balanced es := by
  cases h with
  | dbname h => exact h.balanced
  | namespaces hentries h => exact h.balanced (hentries.balanced fun _ _ => EntryWritten.balanced)

theorem SiteWritten.balanced (h : SiteWritten site es) : Balanced es := by
  obtain ⟨entries, inside, -, hparts, henclosed⟩ := h
  exact henclosed.balanced (hparts.balanced fun _ _ => SitePart.Written.balanced)

theorem balanced_of_isMisc (h : ∀ e ∈ es, IsMisc e) : Balanced es := by
  induction es with
  | nil => exact balanced_nil
  | cons e es ih =>
    rw [List.forall_mem_cons] at h
    refine (balanced_singleton fun _ => ?_).append (ih h.2)
    cases e <;> first | rfl | exact h.1.elim

theorem Export.balanced (h : Export site histories es) : Balanced es := by
  obtain ⟨hfront, hfiller, hsite, hpages, hroot, hback⟩ := h
  have hinside := hfiller.balanced.append
    (hsite.balanced.append (hpages.balanced fun _ _ => History.Written.balanced))
  exact (balanced_of_isMisc hfront).append
    ((hroot.balanced hinside).append (balanced_of_isMisc hback))

-- -----------------------------------------------------------------------------------------
-- Beginnings of documents
-- -----------------------------------------------------------------------------------------

/-- An export begins with white space or with markup. -/
theorem Export.head (h : Export site histories es) :
    ∃ e rest, es = e :: rest ∧ ∀ raw, e = .text raw → Xml.Blank raw := by
  obtain @⟨front, _, _, _, _, back, hfront, _, _, _, hroot, _⟩ := h
  cases front with
  | nil =>
    cases hroot
    exact ⟨_, _, rfl, nofun⟩
  | cons e front =>
    refine ⟨e, _, rfl, ?_⟩
    rintro raw rfl
    exact hfront _ List.mem_cons_self

theorem Export.not_byteOrderMark (h : Export site histories es) (hw : Xml.Written es t) :
    ¬ Xml.byteOrderMark <+: t := by
  obtain ⟨e, rest, rfl, hblank⟩ := h.head
  cases hw with
  | @cons _ _ space t he hs htext hw =>
    intro hmark
    obtain ⟨b, u, hbytes, hb⟩ : ∃ b u, e.bytes space ++ t = b :: u ∧ b ≠ 0xEF := by
      cases htype : e.isText with
      | false =>
        obtain ⟨u, hu, -⟩ := Xml.markup?_written he hs htype t
        exact ⟨0x3C, u, hu, by decide⟩
      | true =>
        cases e with
        | text raw =>
          obtain ⟨b, raw, rfl⟩ := List.exists_cons_of_ne_nil he.1
          refine ⟨b, raw ++ t, rfl, ?_⟩
          rintro rfl
          exact absurd (hblank _ rfl _ List.mem_cons_self) (by decide)
        | _ => cases htype
    rw [hbytes, Xml.byteOrderMark, List.cons_prefix_cons] at hmark
    exact hb hmark.1.symm

end Wikitext.Dump
