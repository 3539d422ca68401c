import Wikitext.Dump.Pages

/-!
# Strict and lenient reading

A strict reader does the same as a lenient one until it refuses something: a name that is no text, a
namespace without its number, a revision that lacks a part. `read_strict`: the pages it has
delivered by then are the first ones that a lenient reader delivers, and a dump that it reads to the
end is read in the same way by a lenient reader.
-/

namespace Wikitext

/-- A lenient reader never stops for this reason. -/
def DumpError.IsRefusal (e : DumpError) : Prop := e = .missingKey ∨ e = .malformed

namespace Dump

/-- The first result is a refusal unless it is the second one. -/
inductive Stricter : Except DumpError α → Except DumpError α → Prop
  | same : Stricter x x
  | refusal : e.IsRefusal → Stricter (.error e) x

theorem Stricter.bind (h : Stricter x y) (hf : ∀ a, Stricter (f a) (g a)) :
    Stricter (x >>= f) (y >>= g) := by
  cases h with
  | same =>
    cases x with
    | error e => exact .same
    | ok a => exact hf a
  | refusal he => exact .refusal he

-- -----------------------------------------------------------------------------------------
-- Elements and steps
-- -----------------------------------------------------------------------------------------

theorem Element.stricter_ofNamespace (attributes : Xml.Attributes) :
    Stricter (ofNamespace true attributes) (ofNamespace false attributes) := by
  unfold ofNamespace
  split
  · exact .same
  · split
    · exact .same
    · exact .refusal (.inl rfl)

theorem Element.stricter_ofTag (tag : Xml.Tag) : Stricter (ofTag true tag) (ofTag false tag) := by
  unfold ofTag
  split
  · exact .refusal (.inr rfl)
  · split
    case h_5 => exact stricter_ofNamespace _
    all_goals exact .same

theorem SiteState.stricter_step (s : SiteState) (e : Xml.Event) :
    Stricter (s.step true e) (s.step false e) := by
  cases e with
  | start tag => exact (Element.stricter_ofTag tag).bind fun _ => .same
  | empty tag => exact (Element.stricter_ofTag tag).bind fun _ => .same
  | _ => exact .same

theorem PageState.stricter_closeRevision (s : PageState) :
    Stricter (closeRevision true s) (closeRevision false s) := by
  unfold closeRevision
  split
  · exact .same
  · split
    · exact .same
    · exact .refusal (.inr rfl)

theorem PageState.stricter_step (s : PageState) (e : Xml.Event) :
    Stricter (s.step true e) (s.step false e) := by
  cases e with
  | start tag => exact (Element.stricter_ofTag tag).bind fun _ => .same
  | empty tag => exact (Element.stricter_ofTag tag).bind fun _ => .same
  | stop name =>
    simp only [step]
    split
    · exact (stricter_closeRevision _).bind fun _ => .same
    · exact .same
    · exact .same
  | _ => exact .same

-- -----------------------------------------------------------------------------------------
-- Whole dumps
-- -----------------------------------------------------------------------------------------

theorem stricter_readSite (s : SiteState) (sound : Bool) (events : List Xml.Event) :
    Stricter (readSite true s sound events) (readSite false s sound events) := by
  induction events generalizing s with
  | nil => exact .same
  | cons e rest ih =>
    refine (s.stricter_step e).bind fun next => ?_
    split
    · exact .same
    · exact ih next

/-- The first reading gives the same as the second one, or stops before with a refusal. -/
inductive StopsEarlier : List Page × Option DumpError → List Page × Option DumpError → Prop
  | same : StopsEarlier x x
  | refusal : ps <+: x.1 → e.IsRefusal → StopsEarlier (ps, some e) x

theorem StopsEarlier.cons (page : Page) (h : StopsEarlier x y) :
    StopsEarlier (page :: x.1, x.2) (page :: y.1, y.2) := by
  cases h with
  | same => exact .same
  | refusal hp he => exact .refusal (List.cons_prefix_cons.mpr ⟨rfl, hp⟩) he

theorem stopsEarlier_readPages (s : PageState) (sound : Bool) (events : List Xml.Event) :
    StopsEarlier (readPages true s sound events) (readPages false s sound events) := by
  induction events generalizing s with
  | nil => exact .same
  | cons e rest ih =>
    have h := s.stricter_step e
    simp only [readPages]
    generalize s.step true e = x at h
    generalize s.step false e = y at h
    cases h with
    | same =>
      match x with
      | .error err => exact .same
      | .ok (next, none) => exact ih next
      | .ok (next, some page) => exact (ih next).cons page
    | refusal he => exact .refusal List.nil_prefix he

/-- The pages that a reading has delivered when it stops. -/
def delivered : Except DumpError Dump → List Page
  | .error _ => []
  | .ok d => d.pages

/-- What ended a reading before its time. -/
def ending : Except DumpError Dump → Option DumpError
  | .error e => some e
  | .ok d => d.stoppedBy

theorem read_strict_cases (bytes : Bytes) :
    read true bytes = read false bytes ∨
      (delivered (read true bytes) <+: delivered (read false bytes) ∧
        ∃ e, ending (read true bytes) = some e ∧ e.IsRefusal) := by
  have hsite := stricter_readSite {} (Xml.events bytes).sound (Xml.events bytes).events
  simp only [read]
  generalize readSite true {} (Xml.events bytes).sound (Xml.events bytes).events = x at hsite
  generalize readSite false {} (Xml.events bytes).sound (Xml.events bytes).events = y at hsite
  cases hsite with
  | refusal he => exact .inr ⟨List.nil_prefix, _, rfl, he⟩
  | same =>
    match x with
    | .error err => exact .inl rfl
    | .ok (site, rest) =>
      have hpages := stopsEarlier_readPages { path := site.path } (Xml.events bytes).sound rest
      simp only [bind, Except.bind, pure, Except.pure]
      generalize readPages true { path := site.path } (Xml.events bytes).sound rest = p at hpages
      generalize readPages false { path := site.path } (Xml.events bytes).sound rest = q at hpages
      cases hpages with
      | same => exact .inl rfl
      | refusal hp he => exact .inr ⟨hp, _, rfl, he⟩

/-- A strict reader delivers the first of the pages that a lenient one delivers; if nothing stops
it, the lenient one reads the same. -/
theorem read_strict (bytes : Bytes) :
    delivered (read true bytes) <+: delivered (read false bytes) ∧
      ∀ d, read true bytes = .ok d → d.stoppedBy = none → read false bytes = .ok d := by
  obtain heq | ⟨hp, e, he, hrefusal⟩ := read_strict_cases bytes
  · rw [heq]
    exact ⟨List.prefix_rfl, fun d hd _ => hd⟩
  · refine ⟨hp, fun d hd hnone => ?_⟩
    rw [hd] at he
    rw [ending, hnone] at he
    cases he

def onePage : Bytes :=
  ["<mediawiki>", "<siteinfo>", "<dbname>", "w", "</dbname>", "</siteinfo>", "<page>", "<title>", "A",
    "</title>", "<revision>", "<id>", "1", "</id>", "<timestamp>", "20200101000000", "</timestamp>",
    "<text>", "a", "</text>", "</revision>", "</page>", "</mediawiki>"].flatMap Xml.ascii

theorem read_strict_onePage : ∃ d, read true onePage = .ok d ∧ d.stoppedBy = none ∧
    read false onePage = .ok d ∧ d.pages.map Page.text? = [some "a".toList] := by
  have h : (read true onePage).toOption.map (fun d => (d.stoppedBy, d.pages.map Page.text?)) =
      some (none, [some "a".toList]) := by
    decide +kernel
  match hread : read true onePage with
  | .error e =>
    rw [hread] at h
    cases h
  | .ok d =>
    rw [hread] at h
    obtain ⟨hnone, hpages⟩ := Prod.mk.inj (Option.some.inj h)
    exact ⟨d, rfl, hnone, (read_strict onePage).2 d hread hnone, hpages⟩

end Dump

end Wikitext
