import Wikitext.Proofs.Dump.Reading
import Wikitext.Proofs.Dump.Strict
import Wikitext.Proofs.Xml.Beginning

/-!
# Dumps that break off

A dump that breaks off is read like the whole as far as it goes: the pages that are delivered are the
first ones of the whole (`read_beginning`), and of an export they are whole pages (`read_cut`). A
reader notices that the dump breaks off in markup (`markup_ends`), in the site information or in a
page (`page_ends`). Anywhere else it takes the end of the input for that of the dump, though the
outermost element is open: every export can be cut off behind each of its pages, and no reader
notices (`cut_unnoticed`).
-/

namespace Wikitext.Dump

open Xml (Event CutOff)

variable {strict : Bool}

-- -----------------------------------------------------------------------------------------
-- Beginnings in both loops
-- -----------------------------------------------------------------------------------------

/-- No text ends the site information. -/
theorem readSite_lastText (strict : Bool) (s : SiteState) (sound : Bool) (raw : Bytes) :
    ∃ e, readSite strict s sound [.text raw] = .error e := by
  cases hstep : s.step strict (.text raw) with
  | error err =>
    refine ⟨err, ?_⟩
    simp [readSite, hstep, bind, Except.bind]
  | ok next =>
    rw [readSite_next hstep rfl]
    exact ⟨_, rfl⟩

/-- The site information ends in a beginning where it ends in the whole, or not at all. -/
theorem readSite_cutOff (h : CutOff es es') (strict : Bool) (s : SiteState) (sound sound' : Bool) :
    (∃ e, readSite strict s sound es = .error e) ∨
      ∃ site rest rest', readSite strict s sound es = .ok (site, rest) ∧
        readSite strict s sound' es' = .ok (site, rest') ∧ CutOff rest rest' := by
  induction h generalizing s with
  | nil => exact .inl ⟨_, rfl⟩
  | text => exact .inl (readSite_lastText strict s sound _)
  | @cons es es' e h ih =>
    cases hstep : s.step strict e with
    | error err =>
      refine .inl ⟨err, ?_⟩
      simp [readSite, hstep, bind, Except.bind]
    | ok next =>
      cases hlast : s.isLast e with
      | true =>
        refine .inr ⟨next, es, es', ?_, ?_, h⟩
        all_goals simp [readSite, hstep, hlast, bind, Except.bind, pure, Except.pure]
      | false =>
        rw [readSite_next hstep hlast, readSite_next hstep hlast]
        exact ih next

namespace PageState

theorem started_readText (s : PageState) (t : Text) : (s.readText t).started = s.started := by
  unfold readText
  split <;> rfl

theorem started_readEmpty (s : PageState) (e : Element) : (s.readEmpty e).started = s.started := by
  unfold readEmpty
  split <;> rfl

theorem started_openElement {s : PageState} (h : s.started = true) (e : Element) :
    (s.openElement e).started = true := by
  cases e <;> first | exact h | rfl

theorem started_closeRevision {s s' : PageState} (h : s.started = true)
    (hclose : closeRevision strict s = .ok s') : s'.started = true := by
  unfold closeRevision at hclose
  split at hclose
  · cases hclose
    exact h
  · split at hclose
    · cases hclose
      exact h
    · split at hclose
      · cases hclose
      · cases hclose
        exact h

/-- A page that has begun is not over before it is delivered. -/
theorem started_step {s s' : PageState} (h : s.started = true)
    (hstep : s.step strict e = .ok (s', none)) : s'.started = true := by
  cases e with
  | start tag =>
    obtain ⟨e, -, he⟩ := bind_ok.mp hstep
    cases he
    exact started_openElement h e
  | empty tag =>
    obtain ⟨e, -, he⟩ := bind_ok.mp hstep
    cases he
    exact (s.started_readEmpty e).trans h
  | text raw =>
    obtain ⟨t, -, ht⟩ := bind_ok.mp hstep
    cases ht
    exact (s.started_readText t).trans h
  | stop name =>
    simp only [step] at hstep
    split at hstep
    · obtain ⟨s'', hclose, he⟩ := bind_ok.mp hstep
      cases he
      exact started_closeRevision (s := { s with path := s.path.drop 1 }) h hclose
    · cases hstep
    · cases hstep
      exact h
  | _ =>
    cases hstep
    exact h

theorem step_text (s : PageState) (strict : Bool) (raw : Bytes) :
    s.step strict (.text raw) = .error .xml ∨
      ∃ t, s.step strict (.text raw) = .ok (s.readText t, none) := by
  simp only [step, textOf]
  split
  · exact .inr ⟨_, rfl⟩
  · exact .inl rfl

end PageState

theorem readPages_started {s : PageState} (hs : s.started = true) (sound : Bool) (es : List Event)
    (hend : (readPages strict s sound es).2 = none) : (readPages strict s sound es).1 ≠ [] := by
  induction es generalizing s with
  | nil => cases sound <;> simp [readPages, hs] at hend
  | cons e es ih =>
    simp only [readPages] at hend ⊢
    cases hstep : s.step strict e with
    | error err => simp [hstep] at hend
    | ok next =>
      obtain ⟨next, page⟩ := next
      cases page with
      | none =>
        simp only [hstep] at hend ⊢
        exact ih (PageState.started_step hs hstep) hend
      | some page => exact List.cons_ne_nil _ _

/-- What is read of the pages of a beginning, and what of those of the whole: the first ones. If the
beginning ends in a page, then the whole delivers that page, or its reading ends with an error. -/
structure BreaksOff (x y : List Page × Option DumpError) : Prop where
  pages : x.1 <+: y.1
  page : x.2 = some .unexpectedEnd → y.2 = none → x.1.length < y.1.length

theorem BreaksOff.cons (page : Page) (h : BreaksOff x y) :
    BreaksOff (page :: x.1, x.2) (page :: y.1, y.2) :=
  ⟨List.cons_prefix_cons.mpr ⟨rfl, h.pages⟩, fun hx hy => Nat.succ_lt_succ (h.page hx hy)⟩

/-- Where nothing is left of the beginning. -/
theorem breaksOff_end (s : PageState) (sound sound' : Bool) (es : List Event) :
    BreaksOff ([], if !sound then some .xml else if s.started then some .unexpectedEnd else none)
      (readPages strict s sound' es) := by
  refine ⟨List.nil_prefix, fun hx hy => List.length_pos_iff.mpr ?_⟩
  refine readPages_started (s := s) ?_ sound' es hy
  cases hs : s.started with
  | true => rfl
  | false => cases sound <;> simp [hs] at hx

theorem readPages_cutOff (h : CutOff es es') (strict : Bool) (s : PageState) (sound sound' : Bool) :
    BreaksOff (readPages strict s sound es) (readPages strict s sound' es') := by
  induction h generalizing s with
  | nil => exact breaksOff_end s sound sound' _
  | @text raw more es =>
    obtain hstep | ⟨t, hstep⟩ := s.step_text strict raw
    · simp only [readPages, hstep]
      refine ⟨List.nil_prefix, fun hx => ?_⟩
      cases hx
    · rw [readPages_next hstep]
      rw [readPages, PageState.started_readText]
      exact breaksOff_end s sound sound' _
  | @cons es es' e h ih =>
    simp only [readPages]
    obtain err | ⟨next, page⟩ := s.step strict e
    · refine ⟨List.prefix_rfl, fun _ hy => ?_⟩
      cases hy
    · cases page with
      | none => exact ih next
      | some page => exact (ih next).cons page

-- -----------------------------------------------------------------------------------------
-- Beginnings of dumps
-- -----------------------------------------------------------------------------------------

/-- Of a beginning of a dump nothing is read if it ends before the site information does. Otherwise
the site information is that of the whole, and the pages are the first ones of the whole. -/
theorem read_beginning (h : p <+: t) (strict : Bool) :
    (∃ e, read strict p = .error e) ∨
      ∃ d d', read strict p = .ok d ∧ read strict t = .ok d' ∧ d.siteInfo = d'.siteInfo ∧
        BreaksOff (d.pages, d.stoppedBy) (d'.pages, d'.stoppedBy) := by
  have hsite : (∃ e, readSite strict {} (Xml.events p).sound (Xml.events p).events = .error e) ∨
      ∃ site rest rest', readSite strict {} (Xml.events p).sound (Xml.events p).events =
          .ok (site, rest) ∧
        readSite strict {} (Xml.events t).sound (Xml.events t).events = .ok (site, rest') ∧
        CutOff rest rest' := by
    obtain hcut | ⟨hmark, -⟩ := Xml.cutOff_events h
    · exact readSite_cutOff hcut strict {} _ _
    · rw [hmark]
      exact .inl (readSite_lastText strict {} _ p)
  obtain ⟨e, he⟩ | ⟨site, rest, rest', hp, ht, hcut⟩ := hsite
  · refine .inl ⟨e, ?_⟩
    simp [read, he, bind, Except.bind]
  · have hpages := readPages_cutOff hcut strict { path := site.path } (Xml.events p).sound
      (Xml.events t).sound
    simp only [read, hp, ht, bind, Except.bind, pure, Except.pure]
    exact .inr ⟨_, _, rfl, rfl, rfl, hpages⟩

/-- A page that has begun is delivered, or the reading ends with an error. -/
theorem page_ends (h : p <+: t) (hp : read strict p = .ok d)
    (hpage : d.stoppedBy = some .unexpectedEnd) (ht : ending (read strict t) = none) :
    d.pages.length < (delivered (read strict t)).length := by
  obtain ⟨e, he⟩ | ⟨d', d'', hd', hd'', -, hbreaks⟩ := read_beginning h strict
  · rw [he] at hp
    cases hp
  · cases hp.symm.trans hd'
    rw [hd''] at ht ⊢
    exact hbreaks.page hpage ht

theorem readPages_unsound (strict : Bool) (s : PageState) (es : List Event) :
    (readPages strict s false es).2 ≠ none := by
  induction es generalizing s with
  | nil => simp [readPages]
  | cons e es ih =>
    simp only [readPages]
    obtain err | ⟨next, page⟩ := s.step strict e
    · simp
    · cases page with
      | none => exact ih next
      | some page => exact ih next

/-- A document with a fault is not read to its end. -/
theorem ending_unsound (h : (Xml.events t).sound = false) (strict : Bool) :
    ending (read strict t) ≠ none := by
  simp only [read, h]
  cases readSite strict {} false (Xml.events t).events with
  | error e =>
    intro hnone
    cases hnone
  | ok result => exact readPages_unsound strict _ _

-- -----------------------------------------------------------------------------------------
-- Beginnings of exports
-- -----------------------------------------------------------------------------------------

/-- Wherever an export breaks off, a reader stops with an error, or it reads the site information and
some of the first pages, each of them whole. -/
theorem read_cut (h : Export site histories es) (hsite : site.Ordered) (hw : Xml.Written es t)
    (hp : p <+: t) (strict : Bool) :
    (∃ e, ending (read strict p) = some e) ∨
      ∃ n, read strict p = .ok {
        siteInfo := site, pages := (histories.take n).map History.page, stoppedBy := none } := by
  have hwhole := read_export h hsite hw strict
  obtain ⟨e, he⟩ | ⟨d, d', hd, hd', hinfo, hbreaks⟩ := read_beginning hp strict
  · refine .inl ⟨e, ?_⟩
    rw [he]
    rfl
  · cases hwhole.symm.trans hd'
    obtain ⟨info, pages, stoppedBy⟩ := d
    cases hstop : stoppedBy with
    | some e =>
      refine .inl ⟨e, ?_⟩
      rw [hd, hstop]
      rfl
    | none =>
      have hpages : pages = (histories.take pages.length).map History.page := by
        rw [List.map_take]
        exact List.prefix_iff_eq_take.mp hbreaks.pages
      refine .inr ⟨pages.length, ?_⟩
      rw [← hpages, hd, hstop]
      exact congrArg (fun info => Except.ok (Dump.mk info pages none)) hinfo

/-- No reader takes an export that breaks off in markup for a whole one. -/
theorem markup_ends {e : Event} (h : Export site histories (front ++ e :: back))
    (hw : Xml.Written (front ++ e :: back) t) (htext : e.isText = false) :
    ∃ u space, Xml.Written front u ∧ u ++ e.bytes space <+: t ∧
      ∀ q, q <+: e.bytes space → q ≠ [] → q ≠ e.bytes space →
        ∀ strict, ending (read strict (u ++ q)) ≠ none := by
  have hmark := h.not_byteOrderMark hw
  obtain ⟨opened, ho, -⟩ : ∃ opened, Xml.openAfterAll? [] front = some opened ∧
      Xml.openAfterAll? opened (e :: back) = some [] := by
    have hwhole := h.balanced []
    rw [Xml.openAfterAll?, List.foldlM_append] at hwhole
    exact Option.bind_eq_some_iff.mp hwhole
  obtain ⟨u, u', rfl, hu, hrest⟩ := hw.split
  cases hrest with
  | @cons _ _ space t he hs _ _ =>
    refine ⟨u, space, hu, ⟨t, List.append_assoc ..⟩, fun q hq hne hcut strict => ?_⟩
    have hmark : ¬ Xml.byteOrderMark <+: u ++ q := by
      intro hb
      refine hmark (hb.trans ?_)
      exact List.prefix_append_right_inj u |>.mpr (hq.trans (List.prefix_append _ t))
    refine ending_unsound ?_ strict
    rw [Xml.events_unmarked hmark]
    exact Xml.unsound_cut hu ho he hs htext hq hne hcut

-- -----------------------------------------------------------------------------------------
-- Cuts that nobody notices
-- -----------------------------------------------------------------------------------------

/-- The beginning of an export that breaks off behind one of its pages. -/
inductive Unclosed (site : SiteInfo) (histories : List History) : List Event → Prop
  | intro {tag : Xml.Tag} : (∀ e ∈ front, IsMisc e) → tag.name = Xml.ascii "mediawiki" →
      Filler filler → SiteWritten site info → Padded History.Written histories rest →
      Unclosed site histories (front ++ .start tag :: (filler ++ (info ++ rest)))

/-- The outermost element is open. -/
theorem Unclosed.opened (h : Unclosed site histories es) :
    Xml.openAfterAll? [] es = some [Xml.ascii "mediawiki"] := by
  obtain @⟨front, filler, info, rest, tag, hfront, hname, hfiller, hinfo, hpages⟩ := h
  have hinside : Balanced (filler ++ (info ++ rest)) := hfiller.balanced.append
    (hinfo.balanced.append (hpages.balanced fun _ _ => History.Written.balanced))
  rw [Xml.openAfterAll?, List.foldlM_append, ← Xml.openAfterAll?, balanced_of_isMisc hfront [],
    ← hname]
  exact hinside [tag.name]

theorem read_unclosed (h : Unclosed site histories es) (hsite : site.Ordered)
    (hw : Xml.Written es p) (hmark : ¬ Xml.byteOrderMark <+: p) (strict : Bool) :
    read strict p =
      .ok { siteInfo := site, pages := histories.map History.page, stoppedBy := none } := by
  have hevents := Xml.events_written hw h.opened hmark
  obtain @⟨front, filler, info, rest, tag, hfront, hname, hfiller, hinfo, hpages⟩ := h
  have hread : readPages strict { path := [.mediawiki] } true (rest ++ []) = _ :=
    readPages_histories hpages true []
  rw [List.append_nil] at hread
  simp only [read, hevents, readSite_front hfront hname hfiller hsite hinfo, hread, bind,
    Except.bind, pure, Except.pure]
  simp [readPages]

/-- The first of some parts can be cut off from the others. -/
theorem Padded.take (h : Padded part as es) (n : Nat) :
    ∃ es₁ es₂, es = es₁ ++ es₂ ∧ Padded part (as.take n) es₁ := by
  induction h generalizing n with
  | nil hfiller => exact ⟨_, [], (List.append_nil _).symm, by simpa using .nil hfiller⟩
  | @cons filler a es as rest hfiller ha _ ih =>
    cases n with
    | zero => exact ⟨[], _, rfl, .nil .nil⟩
    | succ n =>
      obtain ⟨es₁, es₂, rfl, hes⟩ := ih n
      exact ⟨filler ++ (es ++ es₁), es₂, by simp, .cons hfiller ha hes⟩

theorem Export.unclosed (h : Export site histories es) (n : Nat) :
    ∃ front others back, es = front ++ (others ++ .stop (Xml.ascii "mediawiki") :: back) ∧
      Unclosed site (histories.take n) front := by
  obtain @⟨front, filler, info, rest, root, back, hfront, hfiller, hinfo, hpages, ⟨hname⟩, -⟩ := h
  obtain ⟨first, others, rfl, hfirst⟩ := hpages.take n
  refine ⟨_, others, back, ?_, .intro hfront hname hfiller hinfo hfirst⟩
  simp [hname]

theorem length_stop_mediawiki (h : Xml.Written (.stop (Xml.ascii "mediawiki") :: es) t) :
    (Xml.ascii "</mediawiki>").length ≤ t.length := by
  cases h
  simp only [Event.bytes, List.length_append, show (Xml.ascii "</mediawiki>").length = 12 from rfl,
    show (Xml.ascii "</").length = 2 from rfl, show (Xml.ascii "mediawiki").length = 9 from rfl,
    show (Xml.ascii ">").length = 1 from rfl]
  omega

/-- Every export can be cut off behind each of its pages, before the outermost element ends, and no
reader notices. -/
theorem cut_unnoticed (h : Export site histories es) (hsite : site.Ordered) (hw : Xml.Written es t)
    (n : Nat) :
    ∃ p, p <+: t ∧ p.length + (Xml.ascii "</mediawiki>").length ≤ t.length ∧
      ∀ strict, read strict p = .ok {
        siteInfo := site, pages := (histories.take n).map History.page, stoppedBy := none } := by
  have hmark := h.not_byteOrderMark hw
  obtain ⟨front, others, back, rfl, hunclosed⟩ := h.unclosed n
  obtain ⟨p, u, rfl, hp, hu⟩ := hw.split
  obtain ⟨u, u', rfl, -, hstop⟩ := hu.split
  have hlength := length_stop_mediawiki hstop
  have hmark : ¬ Xml.byteOrderMark <+: p := fun hb => hmark (hb.trans (List.prefix_append p _))
  refine ⟨p, List.prefix_append p _, ?_, read_unclosed hunclosed hsite hp hmark⟩
  simp only [List.length_append]
  omega

end Wikitext.Dump
