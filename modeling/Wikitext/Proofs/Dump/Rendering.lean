import Wikitext.Proofs.Dump.Reading
import Wikitext.Proofs.Xml.Rendering

/-!
# Rendered exports

Every site information and every list of pages whose numbers and times are in bounds can be exported
(`export_render`), with the same filler in all places, and is written in bytes (`written_render`).
So there is an export for whatever a wiki holds, and reading any export of it gives that back
(`exports_read_back`).
-/

namespace Wikitext.Dump

open Xml (Event Writable Marked plainTag tagWith enclosed)

/-- The revision is in the bounds of an export. -/
structure FitsRevision (r : Revision) : Prop where
  least : -9223372036854775808 ≤ r.id
  most : r.id ≤ 9223372036854775807
  timestamp : r.timestamp.isValid = true
  year : r.timestamp.HasShortYear
  /-- A comment that is empty is none. -/
  comment : r.comment ≠ some []

structure FitsHistory (h : History) : Prop where
  least : -2147483648 ≤ h.namespaceId
  most : h.namespaceId ≤ 2147483647
  revisions : ∀ r ∈ h.revisions, FitsRevision r

structure FitsSite (site : SiteInfo) : Prop where
  ordered : site.Ordered
  least : ∀ x ∈ site.namespaces, -2147483648 ≤ x.1
  most : ∀ x ∈ site.namespaces, x.1 ≤ 2147483647

-- -----------------------------------------------------------------------------------------
-- Parts in general
-- -----------------------------------------------------------------------------------------

/-- An element without attributes that holds a text. -/
def leaf (name : String) (t : Text) : List Event := Xml.textElement (plainTag name) t

theorem leaf_leaf (name : String) (t : Text) : Leaf name t (leaf name t) := by
  unfold leaf Xml.textElement
  split
  · rename_i ht
    rw [ht]
    exact .empty rfl
  · exact .text rfl ‹_› (Xml.says_escape t)

theorem marked_leaf (h : Xml.IsName (Xml.ascii name)) (t : Text) : Marked (leaf name t) :=
  Xml.marked_textElement (Xml.plainTag_hasAttributes h) t

/-- Parts one after the other, with the filler before, between and behind them. -/
def padded (filler : List Event) (render : α → List Event) : List α → List Event
  | [] => filler
  | a :: as => filler ++ (render a ++ padded filler render as)

theorem padded_padded (hfiller : Filler filler) (h : ∀ a ∈ as, part a (render a)) :
    Padded part as (padded filler render as) := by
  induction as with
  | nil => exact .nil hfiller
  | cons a as ih =>
    rw [List.forall_mem_cons] at h
    exact .cons hfiller h.1 (ih h.2)

theorem writable_padded (hfiller : Writable filler) (h : ∀ a ∈ as, Marked (render a)) :
    Writable (padded filler render as) := by
  induction as with
  | nil => exact hfiller
  | cons a as ih =>
    rw [List.forall_mem_cons] at h
    exact hfiller.append h.1 (ih h.2)

-- -----------------------------------------------------------------------------------------
-- Revisions and pages
-- -----------------------------------------------------------------------------------------

def deletedTag : Xml.Tag := tagWith "text" ⟨Xml.ascii "deleted", Xml.ascii "deleted"⟩

def renderField : Field → List Event
  | .id n => leaf "id" (Text.ofInt n)
  | .timestamp t => leaf "timestamp" t.text
  | .comment t => leaf "comment" t
  | .minor => [.empty (plainTag "minor")]
  | .text (some t) => leaf "text" t
  | .text none => [.empty deletedTag]

theorem deletedTag_hasAttributes :
    deletedTag.HasAttributes [⟨Xml.ascii "deleted", Xml.ascii "deleted"⟩] :=
  Xml.tagWith_hasAttributes (by decide) (by decide) (by decide)

theorem renderField_written (hr : FitsRevision r) (h : f ∈ fields r) :
    f.Written (renderField f) := by
  have htag : (plainTag "text").HasAttributes [] := Xml.plainTag_hasAttributes (by decide)
  cases f with
  | id n =>
    obtain rfl : n = r.id := by simpa [fields] using h
    exact .id hr.least hr.most (leaf_leaf _ _)
  | timestamp t =>
    obtain rfl : t = r.timestamp := by simpa [fields] using h
    exact .timestamp hr.timestamp hr.year (leaf_leaf _ _)
  | comment t =>
    have hcomment : r.comment = some t := by simpa [fields] using h
    refine .comment ?_ (leaf_leaf _ _)
    rintro rfl
    exact hr.comment hcomment
  | minor => exact .minor rfl
  | text t =>
    obtain _ | _ | ⟨c, t⟩ := t
    · exact .deletedText rfl deletedTag_hasAttributes (by decide)
    · exact .emptyText rfl htag (by decide)
    · exact .text rfl htag (by decide) (List.cons_ne_nil c t) (Xml.says_escape _)

theorem marked_renderField (f : Field) : Marked (renderField f) := by
  cases f with
  | id | timestamp | comment => exact marked_leaf (by decide) _
  | minor => exact Xml.marked_singleton ⟨[], Xml.plainTag_hasAttributes (by decide)⟩ rfl
  | text t =>
    cases t with
    | none => exact Xml.marked_singleton ⟨_, deletedTag_hasAttributes⟩ rfl
    | some t => exact marked_leaf (by decide) t

def renderPart (filler : List Event) : PagePart → List Event
  | .title t => leaf "title" t
  | .ns n => leaf "ns" (Text.ofInt n)
  | .id t => leaf "id" t
  | .revision r => enclosed (plainTag "revision") (padded filler renderField (fields r))

theorem renderPart_written (hfiller : Filler filler) (hh : FitsHistory h) (hpart : part ∈ h.parts) :
    part.Written (renderPart filler part) := by
  cases part with
  | title t => exact .title (leaf_leaf _ _)
  | ns n =>
    obtain rfl : n = h.namespaceId := by simpa [History.parts] using hpart
    exact .ns hh.least hh.most (leaf_leaf _ _)
  | id t => exact .id (leaf_leaf _ _)
  | revision r =>
    have hr : r ∈ h.revisions := by simpa [History.parts] using hpart
    exact .revision (List.Perm.refl _)
      (padded_padded hfiller fun _ => renderField_written (hh.revisions r hr)) (.intro rfl)

theorem marked_renderPart (hfiller : Writable filler) (part : PagePart) :
    Marked (renderPart filler part) := by
  cases part with
  | title | ns | id => exact marked_leaf (by decide) _
  | revision r =>
    exact Xml.marked_enclosed (Xml.plainTag_hasAttributes (by decide))
      (writable_padded hfiller fun f _ => marked_renderField f)

def renderHistory (filler : List Event) (h : History) : List Event :=
  enclosed (plainTag "page") (padded filler (renderPart filler) h.parts)

theorem renderHistory_written (hfiller : Filler filler) (hh : FitsHistory h) :
    h.Written (renderHistory filler h) :=
  ⟨_, padded_padded hfiller fun _ => renderPart_written hfiller hh, .intro rfl⟩

theorem marked_renderHistory (hfiller : Writable filler) (h : History) :
    Marked (renderHistory filler h) :=
  Xml.marked_enclosed (Xml.plainTag_hasAttributes (by decide))
    (writable_padded hfiller fun part _ => marked_renderPart hfiller part)

-- -----------------------------------------------------------------------------------------
-- The site
-- -----------------------------------------------------------------------------------------

def namespaceTag (n : Int) : Xml.Tag :=
  tagWith "namespace" ⟨Xml.ascii "key", Text.toBytes (Text.ofInt n)⟩

def renderEntry (entry : Int × Text) : List Event :=
  Xml.textElement (namespaceTag entry.1) entry.2

theorem namespaceTag_hasAttributes (n : Int) :
    (namespaceTag n).HasAttributes [⟨Xml.ascii "key", Text.toBytes (Text.ofInt n)⟩] := by
  have hkey : Xml.IsName (Xml.ascii "key") := by decide
  refine Xml.tagWith_hasAttributes (by decide) hkey fun h => ?_
  have hquote : '\x22' ∈ Text.ofInt n := Text.mem_of_mem_toBytes (by decide) h
  obtain h | h := Text.eq_or_isAsciiDigit_of_mem_ofInt hquote
  all_goals exact absurd h (by decide)

theorem isNamespaceTag_namespaceTag (hleast : -2147483648 ≤ n) (hmost : n ≤ 2147483647) :
    IsNamespaceTag (namespaceTag n) n := by
  refine ⟨rfl, hleast, hmost, _, _, namespaceTag_hasAttributes n, List.mem_singleton_self _, _, rfl,
    .plain fun h => ?_⟩
  obtain h | h := Text.eq_or_isAsciiDigit_of_mem_ofInt h
  all_goals exact absurd h (by decide)

theorem renderEntry_written (hleast : -2147483648 ≤ entry.1) (hmost : entry.1 ≤ 2147483647) :
    EntryWritten entry (renderEntry entry) := by
  obtain ⟨n, name⟩ := entry
  have htag := isNamespaceTag_namespaceTag hleast hmost
  unfold renderEntry Xml.textElement
  split
  · rename_i hname
    cases hname
    exact .empty htag
  · exact .named htag (Xml.says_escape name)

theorem marked_renderEntry (entry : Int × Text) : Marked (renderEntry entry) :=
  Xml.marked_textElement (namespaceTag_hasAttributes entry.1) entry.2

def renderSitePart (filler : List Event) : SitePart → List Event
  | .dbname t => leaf "dbname" t
  | .namespaces entries => enclosed (plainTag "namespaces") (padded filler renderEntry entries)

def renderSite (filler : List Event) (site : SiteInfo) : List Event :=
  enclosed (plainTag "siteinfo")
    (padded filler (renderSitePart filler) [.dbname site.database, .namespaces site.namespaces])

theorem renderSite_written (hfiller : Filler filler) (hsite : FitsSite site) :
    SiteWritten site (renderSite filler site) := by
  refine ⟨site.namespaces, _, List.Perm.refl _, padded_padded hfiller ?_, .intro rfl⟩
  have hentries : Padded EntryWritten site.namespaces (padded filler renderEntry site.namespaces) :=
    padded_padded hfiller fun x hx => renderEntry_written (hsite.least x hx) (hsite.most x hx)
  simp only [List.forall_mem_cons, List.not_mem_nil, false_imp_iff, implies_true, and_true]
  exact ⟨.dbname (leaf_leaf _ _), .namespaces hentries (.intro rfl)⟩

theorem marked_renderSite (hfiller : Writable filler) (site : SiteInfo) :
    Marked (renderSite filler site) := by
  refine Xml.marked_enclosed (Xml.plainTag_hasAttributes (by decide)) (writable_padded hfiller ?_)
  rintro (t | entries) -
  · exact marked_leaf (by decide) t
  · exact Xml.marked_enclosed (Xml.plainTag_hasAttributes (by decide))
      (writable_padded hfiller fun entry _ => marked_renderEntry entry)

-- -----------------------------------------------------------------------------------------
-- Whole exports
-- -----------------------------------------------------------------------------------------

/-- The export of a wiki, with the filler wherever one may stand. -/
def render (filler : List Event) (site : SiteInfo) (histories : List History) : List Event :=
  enclosed (plainTag "mediawiki")
    (filler ++ (renderSite filler site ++ padded filler (renderHistory filler) histories))

theorem export_render (hfiller : Filler filler) (hsite : FitsSite site)
    (hhistories : ∀ h ∈ histories, FitsHistory h) :
    Export site histories (render filler site histories) := by
  have h : Export site histories ([] ++ (render filler site histories ++ [])) :=
    .intro (by simp) hfiller (renderSite_written hfiller hsite)
      (padded_padded hfiller fun h hh => renderHistory_written hfiller (hhistories h hh)) (.intro rfl)
      (by simp)
  rwa [List.nil_append, List.append_nil] at h

theorem written_render (hfiller : Writable filler) (site : SiteInfo) (histories : List History) :
    Xml.Written (render filler site histories) (Xml.flat (render filler site histories)) := by
  have hpages : Writable (padded filler (renderHistory filler) histories) :=
    writable_padded hfiller fun h _ => marked_renderHistory hfiller h
  have hroot : Marked (render filler site histories) :=
    Xml.marked_enclosed (Xml.plainTag_hasAttributes (by decide))
      (hfiller.append (marked_renderSite hfiller site) hpages)
  simpa using (hroot [] [] .nil).1

/-- Whatever a wiki holds can be exported, and every export of it is read as the site information
and the pages that it was written from, each with its last revision. Nothing stops the reading. -/
theorem exports_read_back (hsite : FitsSite site) (hhistories : ∀ h ∈ histories, FitsHistory h) :
    (∃ es bytes, Export site histories es ∧ Xml.Written es bytes) ∧
      ∀ es bytes, Export site histories es → Xml.Written es bytes → ∀ strict, read strict bytes =
        .ok { siteInfo := site, pages := histories.map History.page, stoppedBy := none } := by
  constructor
  · exact ⟨_, _, export_render .nil hsite hhistories,
      written_render Xml.writable_nil site histories⟩
  · intro es bytes h hw strict
    exact read_export h hsite.ordered hw strict

/-- An element that nobody knows, with a known one in it, behind white space. -/
def contributor : List Event :=
  .text (Xml.ascii "\n") :: enclosed (plainTag "contributor") (leaf "id" "5".toList)

def talk : SiteInfo where
  database := "w".toList
  namespaces := [(0, []), (1, "Talk".toList)]

def helloWorld : History where
  title := " Talk:Hello_world".toList
  namespaceId := 1
  id := some "10".toList
  revisions :=
    [{ id := 100, timestamp := ⟨2020, 1, 1, 0, 0, 0⟩, text := none, comment := none,
        minor := false },
      { id := 101, timestamp := ⟨2021, 12, 31, 23, 59, 59⟩, text := some "a<b & c_d".toList,
        comment := some "&".toList, minor := true }]

theorem filler_contributor : Filler contributor := by
  have hspace : Xml.Says (Xml.ascii "\n") "\n".toList := ⟨_, rfl, .plain (by decide)⟩
  have hid : Xml.Says (Xml.ascii "5") "5".toList := ⟨_, rfl, .plain (by decide)⟩
  have hunknown : Unknown (plainTag "contributor") := ⟨"contributor".toList, rfl, by decide⟩
  have hnestable : Nestable (plainTag "id") :=
    ⟨⟨"id".toList, rfl, by decide⟩, _, Xml.plainTag_hasAttributes (by decide)⟩
  have hinside : Content Nestable Nestable (leaf "id" "5".toList) :=
    .element hnestable (.text hid .nil) .nil
  exact .text hspace (.element hunknown hinside .nil)

theorem writable_contributor : Writable contributor := by
  have hspace : Writable [.text (Xml.ascii "\n")] := Xml.writable_text (by decide) (by decide)
  have hname : Xml.IsName (Xml.ascii "contributor") := by decide
  have hid : Marked (leaf "id" "5".toList) := marked_leaf (by decide) _
  exact hspace.append (Xml.marked_enclosed (Xml.plainTag_hasAttributes hname) hid.writable)
    Xml.writable_nil

theorem exports_read_back_helloWorld : FitsSite talk ∧ (∀ h ∈ [helloWorld], FitsHistory h) ∧
    read false (Xml.flat (render contributor talk [helloWorld])) = .ok {
      siteInfo := talk
      pages := [{
        title := "Talk:Hello world".toList
        namespaceId := 1
        revision := some {
          id := 101
          timestamp := ⟨2021, 12, 31, 23, 59, 59⟩
          text := some "a<b & c_d".toList
          comment := some "&".toList
          minor := true } }]
      stoppedBy := none } := by
  have hsite : FitsSite talk := ⟨by decide, by decide, by decide⟩
  have hhistory : ∀ h ∈ [helloWorld], FitsHistory h := by
    rw [List.forall_mem_singleton]
    refine ⟨by decide, by decide, ?_⟩
    unfold helloWorld
    rw [List.forall_mem_cons, List.forall_mem_singleton]
    constructor <;> constructor <;> decide
  refine ⟨hsite, hhistory, ((exports_read_back hsite hhistory).2 _ _
    (export_render filler_contributor hsite hhistory)
    (written_render writable_contributor talk [helloWorld]) false).trans ?_⟩
  rfl

end Wikitext.Dump
