import Wikitext.Proofs.Dump.Reading
import Wikitext.Proofs.Dump.Strict

/-!
# Dumps that are read alike

Events that both loops take alike can stand for one another in a document: `read_alike`. An element
without content that is written as a pair of tags is passed over (`alike_pair`), and so is an empty
element, unless it is a text, a mark of a minor edit or a namespace (`alike_empty`): these are lost if
they are written as a pair. Of character data that comes in pieces only the last piece counts
(`alike_pieces`), and nothing of a marked section does (`alike_asides`).
-/

namespace Wikitext.Dump

open Xml (Event)

variable {strict : Bool}

/-- Reads the events of a dump. -/
def readEvents (strict : Bool) (events : Xml.Events) : Except DumpError Dump := do
  let (site, rest) ← readSite strict {} events.sound events.events
  let (pages, stoppedBy) := readPages strict { path := site.path } events.sound rest
  return { siteInfo := site.info, pages, stoppedBy }

theorem read_eq (strict : Bool) (bytes : Bytes) :
    read strict bytes = readEvents strict (Xml.events bytes) := rfl

/-- The same is read whether the first events stand in a dump or the second. -/
def Alike (strict : Bool) (es es' : List Event) : Prop :=
  ∀ front rest sound, readEvents strict ⟨front ++ (es ++ rest), sound⟩ =
    readEvents strict ⟨front ++ (es' ++ rest), sound⟩

theorem alike_refl (strict : Bool) (es : List Event) : Alike strict es es := fun _ _ _ => rfl

theorem Alike.symm (h : Alike strict es es') : Alike strict es' es :=
  fun front rest sound => (h front rest sound).symm

theorem Alike.trans (h : Alike strict es es') (h' : Alike strict es' es'') : Alike strict es es'' :=
  fun front rest sound => (h front rest sound).trans (h' front rest sound)

theorem Alike.append_left (h : Alike strict es es') (front : List Event) :
    Alike strict (front ++ es) (front ++ es') := by
  intro front' rest sound
  simpa only [List.append_assoc] using h (front' ++ front) rest sound

theorem Alike.append_right (h : Alike strict es es') (rest : List Event) :
    Alike strict (es ++ rest) (es' ++ rest) := by
  intro front rest' sound
  simpa only [List.append_assoc] using h front (rest ++ rest') sound

-- -----------------------------------------------------------------------------------------
-- In the middle of a document
-- -----------------------------------------------------------------------------------------

theorem readSite_append (strict : Bool) (s : SiteState) (sound : Bool) (front : List Event) :
    (∃ e, ∀ rest, readSite strict s sound (front ++ rest) = .error e) ∨
      (∃ s' front', ∀ rest, readSite strict s sound (front ++ rest) = .ok (s', front' ++ rest)) ∨
      ∃ s', ∀ rest, readSite strict s sound (front ++ rest) = readSite strict s' sound rest := by
  induction front generalizing s with
  | nil => exact .inr (.inr ⟨s, fun _ => rfl⟩)
  | cons e front ih =>
    cases hstep : s.step strict e with
    | error err =>
      refine .inl ⟨err, fun rest => ?_⟩
      simp [readSite, hstep, bind, Except.bind]
    | ok next =>
      cases hlast : s.isLast e with
      | true =>
        refine .inr (.inl ⟨next, front, fun rest => ?_⟩)
        simp [readSite, hstep, hlast, bind, Except.bind, pure, Except.pure]
      | false => simpa only [List.cons_append, readSite_next hstep hlast] using ih next

theorem readPages_append (strict : Bool) (s : PageState) (sound : Bool) (front : List Event) :
    (∃ x, ∀ rest, readPages strict s sound (front ++ rest) = x) ∨
      ∃ s' pages, ∀ rest, readPages strict s sound (front ++ rest) =
        (pages ++ (readPages strict s' sound rest).1, (readPages strict s' sound rest).2) := by
  induction front generalizing s with
  | nil => exact .inr ⟨s, [], fun _ => rfl⟩
  | cons e front ih =>
    simp only [List.cons_append, readPages]
    obtain err | ⟨next, page⟩ := s.step strict e
    · exact .inl ⟨([], some err), fun _ => rfl⟩
    · cases page with
      | none => exact ih next
      | some page =>
        obtain ⟨x, hx⟩ | ⟨s', pages, hx⟩ := ih next
        · exact .inl ⟨(page :: x.1, x.2), fun rest => by simp only [hx rest]⟩
        · exact .inr ⟨s', page :: pages, fun rest => by simp only [hx rest, List.cons_append]⟩

/-- Events that both loops take alike can stand for one another. -/
theorem alike_of_loops
    (hsite : ∀ s sound rest,
      readSite strict s sound (es ++ rest) = readSite strict s sound (es' ++ rest))
    (hpages : ∀ s sound rest,
      readPages strict s sound (es ++ rest) = readPages strict s sound (es' ++ rest)) :
    Alike strict es es' := by
  intro front rest sound
  simp only [readEvents]
  obtain ⟨err, h⟩ | ⟨site, front', h⟩ | ⟨site, h⟩ := readSite_append strict {} sound front
  · rw [h, h]
  · rw [h, h]
    simp only [bind, Except.bind]
    obtain ⟨x, hx⟩ | ⟨s, pages, hx⟩ := readPages_append strict { path := site.path } sound front'
    · rw [hx, hx]
    · rw [hx, hx, hpages]
  · rw [h, h, hsite]

/-- In a document, too, events that are read alike can stand for one another. -/
theorem read_alike (h : Alike strict es es') (hw : Xml.Written (front ++ (es ++ rest)) t)
    (hw' : Xml.Written (front ++ (es' ++ rest)) t')
    (ho : Xml.openAfterAll? [] (front ++ (es ++ rest)) = some opened)
    (ho' : Xml.openAfterAll? [] (front ++ (es' ++ rest)) = some opened')
    (hmark : ¬ Xml.byteOrderMark <+: t) (hmark' : ¬ Xml.byteOrderMark <+: t') :
    read strict t = read strict t' := by
  rw [read_eq, read_eq, Xml.events_written hw ho hmark, Xml.events_written hw' ho' hmark']
  exact h front rest true

-- -----------------------------------------------------------------------------------------
-- Elements without content
-- -----------------------------------------------------------------------------------------

/-- An element whose end says nothing. -/
def Element.EndsSilently (e : Element) : Prop := e ≠ .siteinfo ∧ e ≠ .page ∧ e ≠ .revision

/-- A pair of tags without content is passed over, also that of a text, of a mark of a minor edit or
of a namespace. -/
theorem alike_pair {tag : Xml.Tag} (he : Element.ofTag strict tag = .ok e) (hend : e.EndsSilently)
    (name : Bytes) : Alike strict [.start tag, .stop name] [] := by
  refine alike_of_loops (fun s sound rest => ?_) (fun s sound rest => ?_)
  · rw [List.cons_append, readSite_start he, List.singleton_append, readSite_stop rfl hend.1]
    rfl
  · have hopen : s.openElement e = { s with path := e :: s.path } := by
      cases e <;> first | rfl | exact absurd rfl hend.2.1 | exact absurd rfl hend.2.2
    rw [List.cons_append, readPages_start he, hopen, List.singleton_append,
      readPages_stop rfl hend.2.2 hend.2.1]
    rfl

/-- An element that says something without content. -/
def Element.SpeaksEmpty : Element → Prop
  | .text _ | .minor | .namespaceEntry _ => True
  | _ => False

theorem alike_empty {tag : Xml.Tag} (he : Element.ofTag strict tag = .ok e)
    (hsilent : ¬ e.SpeaksEmpty) : Alike strict [.empty tag] [] := by
  refine alike_of_loops (fun s sound rest => ?_) (fun s sound rest => ?_)
  · rw [List.singleton_append, readSite_empty he]
    cases e <;> first | rfl | exact absurd trivial hsilent
  · rw [List.singleton_append, readPages_empty he]
    have hsilent : s.readEmpty e = s := by
      unfold PageState.readEmpty
      split <;> simp_all [Element.SpeaksEmpty]
    rw [hsilent]
    rfl

/-- All other elements may be written in one way or the other. -/
theorem alike_pair_empty {tag : Xml.Tag} (he : Element.ofTag strict tag = .ok e)
    (hend : e.EndsSilently) (hsilent : ¬ e.SpeaksEmpty) (name : Bytes) :
    Alike strict [.start tag, .stop name] [.empty tag] :=
  (alike_pair he hend name).trans (alike_empty he hsilent).symm

/-- A dump with one revision, whose text is written as it is given. -/
def oneText (element : List String) : Bytes :=
  (["<mediawiki>", "<siteinfo>", "</siteinfo>", "<page>", "<revision>", "<id>", "1", "</id>",
    "<timestamp>", "20200101000000", "</timestamp>"] ++ element ++
    ["</revision>", "</page>", "</mediawiki>"]).flatMap Xml.ascii

theorem read_oneText_pair :
    (delivered (read false (oneText ["<text>", "</text>"]))).map Page.text? = [none] ∧
      (delivered (read false (oneText ["<text/>"]))).map Page.text? = [some []] := by
  constructor <;> decide +kernel

-- -----------------------------------------------------------------------------------------
-- Character data in pieces
-- -----------------------------------------------------------------------------------------

/-- A piece of the content of an element: character data, or markup that is not a tag. -/
def IsPiece (e : Event) : Prop := e.isAside = true ∨ ∃ raw t, e = .text raw ∧ Xml.Says raw t

/-- A text takes the place of the one before it. -/
theorem SiteState.readText_readText (s : SiteState) (t t' : Text) :
    (s.readText t).readText t' = s.readText t' := by
  rw [readText.eq_def s t]
  split
  · rename_i hpath
    simp [readText, hpath]
  · rename_i hpath
    split
    · rename_i hid
      simp [readText, hpath, hid, SiteInfo.setNamespace_setNamespace]
    · rfl
  · rfl

theorem PageState.readText_readText (s : PageState) (t t' : Text) :
    (s.readText t).readText t' = s.readText t' := by
  rw [readText.eq_def s t]
  split
  case h_7 => rfl
  all_goals
    rename_i hpath
    simp [readText, hpath, setDraft, Function.comp_def]

theorem alike_aside (h : e.isAside = true) : Alike strict [e] [] :=
  alike_of_loops (fun s sound rest => (siteLoop strict sound).aside s e rest h)
    (fun s sound rest => (pageLoop strict sound).aside s e rest h)

theorem alike_text (h : Xml.Says raw t) (h' : Xml.Says raw' t') :
    Alike strict [.text raw, .text raw'] [.text raw'] := by
  refine alike_of_loops (fun s sound rest => ?_) (fun s sound rest => ?_)
  · simp only [List.cons_append, List.nil_append, readSite_text h, readSite_text h',
      SiteState.readText_readText]
  · simp only [List.cons_append, List.nil_append, readPages_text h, readPages_text h',
      PageState.readText_readText]

theorem alike_asides (h : ∀ e ∈ es, e.isAside = true) : Alike strict es [] := by
  induction es with
  | nil => exact alike_refl strict []
  | cons e es ih =>
    rw [List.forall_mem_cons] at h
    exact ((alike_aside h.1).append_right es).trans (ih h.2)

/-- Of content in pieces the last piece of character data is all that is read. -/
theorem alike_pieces (hpieces : ∀ e ∈ pieces, IsPiece e) (h : Xml.Says raw t)
    (hback : ∀ e ∈ back, e.isAside = true) :
    Alike strict (pieces ++ .text raw :: back) [.text raw] := by
  induction pieces with
  | nil => exact (alike_asides hback).append_left [.text raw]
  | cons e pieces ih =>
    rw [List.forall_mem_cons] at hpieces
    have hlast : Alike strict (e :: (pieces ++ .text raw :: back)) [e, .text raw] :=
      (ih hpieces.2).append_left [e]
    refine hlast.trans ?_
    obtain haside | ⟨raw', t', rfl, hsaid⟩ := hpieces.1
    · exact (alike_aside haside).append_right [.text raw]
    · exact alike_text hsaid h

theorem read_oneText_pieces :
    (delivered (read false (oneText ["<text>", "a", "<!--x-->", "b", "</text>"]))).map Page.text? =
      [some "b".toList] := by
  decide +kernel

end Wikitext.Dump
