import Wikitext.Proofs.Article.Attribution

/-!
# Texts that the fixes leave alone

`performFixes_settled_iff`: the general fixes come to an end without an entry in the log if and only
if the text is settled, which is to say that each fix, given the text or what the mask shows of it,
gives it back. Neither the order of the fixes nor what the article says of itself plays a part.

What the fixes make of a text need not be settled. They run once each, and a late one can make work
for an early one (`performFixes_unsettled`).
-/

namespace Wikitext

variable {v : Vocabulary} {title t : Text} {skip : SkipOptions} {options : FixOptions}
  {mask : Mask} {a : Article}

-- -----------------------------------------------------------------------------------------
-- Fixes with nothing to do
-- -----------------------------------------------------------------------------------------

/-- The fixes have nothing to do in a text. -/
def Leave (steps : List FixStep) (t : Text) : Prop := ∀ s ∈ steps, s.fix t = t

/-- Which fixes ask to skip an article does not matter. -/
theorem leave_congr {steps others : List FixStep} (h : steps.map (·.fix) = others.map (·.fix)) :
    Leave steps t ↔ Leave others t := by
  have hmap (l : List FixStep) : Leave l t ↔ ∀ f ∈ l.map (·.fix), f t = t := by
    simp [Leave]
  rw [hmap, hmap, h]

theorem FixStep.fix_skipUnless (s : FixStep) (wanted : Bool) (reason : String) :
    (s.skipUnless wanted reason).fix = s.fix := by
  cases wanted <;> rfl

theorem leave_maskedFixes (v : Vocabulary) (title : Text) (skip : SkipOptions) (options : FixOptions)
    (t : Text) :
    Leave (Article.maskedFixes v title skip options) t ↔
      Leave (Article.maskedFixes v title {} options) t :=
  leave_congr (by simp [Article.maskedFixes, FixStep.fix_skipUnless])

theorem leave_boldFixes (v : Vocabulary) (title : Text) (skip : SkipOptions) (t : Text) :
    Leave (Article.boldFixes v title skip) t ↔ Leave (Article.boldFixes v title {}) t := by
  refine leave_congr ?_
  unfold Article.boldFixes
  split
  · simp [FixStep.fix_skipUnless]
  · rfl

-- -----------------------------------------------------------------------------------------
-- Steps without an entry in the log
-- -----------------------------------------------------------------------------------------

namespace Article

theorem log_runFix_iff (a : Article) (s : FixStep) :
    (a.runFix s).log = a.log ↔ s.fix a.text = a.text := by
  rcases a.runFix_cases s with ⟨hs, he | ⟨reason, -, he⟩⟩ | ⟨hs, he⟩
  · simp [he, hs]
  · simp [he, hs, skip]
  · simp [he, hs]

/-- By induction along the run: as long as nothing is logged, all fixes get the same text. -/
theorem log_runFixes_iff (a : Article) (steps : List FixStep) :
    (a.runFixes steps).log = a.log ↔ Leave steps a.text := by
  unfold Leave
  induction steps generalizing a with
  | nil => simp [runFixes]
  | cons s steps ih =>
    have hlater : (a.runFixes (s :: steps)).log = a.log ↔
        (a.runFix s).log = a.log ∧ ((a.runFix s).runFixes steps).log = (a.runFix s).log :=
      log_eq_iff (Logged.runFix a s).log (Logged.runFixes _ steps).log
    rw [hlater, ih, List.forall_mem_cons, ← log_runFix_iff]
    exact and_congr_right fun hs => by rw [(Logged.runFix a s).text hs]

theorem log_skipIf (a : Article) (condition : Bool) (reason : String) :
    (a.skipIf condition reason).log = a.log := by
  cases condition <;> rfl

theorem log_fixDefaultSort_iff (a : Article) (v : Vocabulary) (skip : SkipOptions)
    (options : FixOptions) :
    (a.fixDefaultSort v skip options).log = a.log ↔
      (Metadata.fixDefaultSort v a.title options.restrictDefaultSort a.text).text = a.text := by
  rw [fixDefaultSort, log_skipIf, log_runFix_iff]
  rfl

end Article

-- -----------------------------------------------------------------------------------------
-- Settled texts
-- -----------------------------------------------------------------------------------------

open Article (Logged Underway)

/-- No fix has anything to do in the text of an article with this title. -/
structure Settled (v : Vocabulary) (mask : Mask) (title : Text) (options : FixOptions)
    (t : Text) : Prop where
  hides : ∃ u m, mask.hide t = .ok (u, m)
  openly : Leave Article.openFixes t
  masked : ∀ u m, mask.hide t = .ok (u, m) → Leave (Article.maskedFixes v title {} options) u
  bold : Leave (Article.boldFixes v title {}) t
  defaultSort : (Metadata.fixDefaultSort v title options.restrictDefaultSort t).text = t
  metadata : ∀ u m, mask.hide t = .ok (u, m) → Leave (Article.metadataFixes v title) u

namespace Repair

/-- The work has logged nothing since it began if and only if `C`, which `S` implies; text and mask
are then as `P` says. -/
structure Quiet (start : Repair) (S C : Prop) (P : Text → Mask → Prop) (r : Repair) : Prop where
  article : Underway start.article r.article
  quiet : r.article.log = start.article.log ↔ C
  needed : S → C
  state : C → P r.article.text r.mask

/-- Text and mask are those that the work began with. -/
abbrev Begun (start : Repair) (t : Text) (m : Mask) : Prop := t = start.article.text ∧ m = start.mask

/-- The text is what the mask shows of the one that the work began with. -/
abbrev Hiding (start : Repair) (u : Text) (m : Mask) : Prop :=
  start.mask.hide start.article.text = .ok (u, m)

end Repair

namespace Repairing

open Repair (Quiet Begun Hiding Proper)

variable {start r : Repair} {S C D : Prop} {f : Article → Article}

theorem Triple.editQuiet (h : Quiet start S C P r) (hf : Logged r.article (f r.article))
    (hu : Underway start.article (f r.article))
    (hd : P r.article.text r.mask → ((f r.article).log = r.article.log ↔ D)) (hs : S → D) :
    Triple (Repairing.edit f) r (fun _ r' => Quiet start S (C ∧ D) P r') E := by
  refine Triple.edit ⟨hu, ?_, fun hset => ⟨h.needed hset, hs hset⟩, ?_⟩
  · rw [Article.log_eq_iff h.article.log hf.log]
    exact (and_congr_left' h.quiet).trans (and_congr_right fun hc => hd (h.state hc))
  · rintro ⟨hc, hd'⟩
    have htext : (f r.article).text = r.article.text := hf.text ((hd (h.state hc)).mpr hd')
    simpa only [htext] using h.state hc

theorem Triple.runFixesOpen (h : Quiet start S C (Begun start) r) (steps : List FixStep)
    (hs : S → Leave steps start.article.text) :
    Triple (Repairing.edit (·.runFixes steps)) r
      (fun _ r' => Quiet start S (C ∧ Leave steps start.article.text) (Begun start) r') E := by
  refine Triple.editQuiet h (.runFixes _ _) (h.article.runFixes _) ?_ hs
  rintro ⟨ht, -⟩
  rw [Article.log_runFixes_iff, ht]

theorem Triple.fixDefaultSortOpen (h : Quiet start S C (Begun start) r) (v : Vocabulary)
    (title : Text) (skip : SkipOptions) (options : FixOptions)
    (hs : S → Leave (Article.boldFixes v title skip) start.article.text ∧
      (Metadata.fixDefaultSort v start.article.title options.restrictDefaultSort
        start.article.text).text = start.article.text) :
    Triple (Repairing.edit fun a => (a.runFixes (Article.boldFixes v title skip)).fixDefaultSort v
        skip options) r
      (fun _ r' => Quiet start S (C ∧ Leave (Article.boldFixes v title skip) start.article.text ∧
        (Metadata.fixDefaultSort v start.article.title options.restrictDefaultSort
          start.article.text).text = start.article.text) (Begun start) r') E := by
  have hbold := h.article.runFixes (Article.boldFixes v title skip)
  have hlogged := Logged.runFixes r.article (Article.boldFixes v title skip)
  refine Triple.editQuiet h (hlogged.trans (.fixDefaultSort _ _ _ _))
    (hbold.fixDefaultSort v skip options) ?_ hs
  rintro ⟨ht, -⟩
  rw [Article.log_eq_iff hlogged.log (Logged.fixDefaultSort _ _ _ _).log, ← ht]
  refine (and_congr_right fun hl => ?_).trans (and_congr_left' (Article.log_runFixes_iff _ _))
  rw [Article.log_fixDefaultSort_iff, hlogged.text hl, hbold.title]

theorem Triple.runFixesMasked (h : Quiet start S C (Hiding start) r) (steps : List FixStep)
    (hs : S → ∀ u m, Hiding start u m → Leave steps u) :
    Triple (Repairing.edit (·.runFixes steps)) r
      (fun _ r' => Quiet start S (C ∧ ∀ u m, Hiding start u m → Leave steps u) (Hiding start) r')
      E := by
  refine Triple.editQuiet h (.runFixes _ _) (h.article.runFixes _) (fun hhide => ?_) hs
  rw [Article.log_runFixes_iff]
  constructor
  · intro hleave u m hum
    cases hhide.symm.trans hum
    exact hleave
  · exact fun hleave => hleave _ _ hhide

theorem Triple.hideQuiet (h : Quiet start S C (Begun start) r) (hs : S → ∃ u m, Hiding start u m) :
    Triple Repairing.hide r
      (fun _ r' => Quiet start S (C ∧ ∃ u m, Hiding start u m) (Hiding start) r') fun _ => ¬ S := by
  refine Triple.hide (fun u m he => ?_) fun e he hset => ?_
  · have hhide : C → Hiding start u m := by
      intro hc
      obtain ⟨ht, hm⟩ := h.state hc
      rwa [ht, hm] at he
    refine ⟨h.article.withText _, ?_, fun hset => ⟨h.needed hset, hs hset⟩, fun hc => hhide hc.1⟩
    exact h.quiet.trans (and_iff_left_of_imp fun hc => ⟨u, m, hhide hc⟩).symm
  · obtain ⟨u, m, hok⟩ := hs hset
    obtain ⟨ht, hm⟩ := h.state (h.needed hset)
    rw [ht, hm, hok] at he
    cases he

theorem Triple.addBackQuiet (hm : Proper start.mask) (h : Quiet start S C (Hiding start) r) :
    Triple Repairing.addBack r (fun _ r' => Quiet start S C (Begun start) r') fun _ => ¬ S := by
  have hback : C → r.mask.addBack r.article.text = (.ok start.article.text, start.mask) := by
    intro hc
    have hhide := h.state hc
    exact (Mask.roundTrip_hide hm (Mask.hide_ok hhide).1 _).2 _ _ hhide
  refine Triple.addBack (fun t he => ?_) fun e he hset => ?_
  · refine ⟨h.article.withText _, h.quiet, h.needed, fun hc => ?_⟩
    rw [hback hc] at he
    cases he
    exact ⟨rfl, congrArg Prod.snd (hback hc)⟩
  · rw [hback (h.needed hset)] at he
    cases he

/-- Each part of the work adds what its fixes have to leave alone. -/
theorem Triple.quiet (hm : Proper mask) (a : Article) (v : Vocabulary) (skip : SkipOptions)
    (options : FixOptions) :
    Triple (Repairing.generalFixes v skip options) { article := a, mask }
      (fun _ r => r.article.log = a.log ↔ Settled v mask a.title options a.text)
      fun _ => ¬ Settled v mask a.title options a.text := by
  unfold Repairing.generalFixes
  refine Triple.bind (P := fun b r => b = { article := a, mask } ∧ r = b) ⟨rfl, rfl⟩ ?_
  rintro _ _ ⟨rfl, rfl⟩
  have h : Quiet { article := a, mask } (Settled v mask a.title options a.text) True
      (Begun { article := a, mask }) { article := a, mask } :=
    ⟨.refl _, iff_true_intro rfl, fun _ => trivial, fun _ => ⟨rfl, rfl⟩⟩
  refine Triple.bind (Triple.runFixesOpen h _ (·.openly)) fun _ _ h => ?_
  refine Triple.bind (Triple.hideQuiet h (·.hides)) fun _ _ h => ?_
  refine Triple.bind (Triple.runFixesMasked h _ ?_) fun _ _ h => ?_
  · exact fun hs u m hum => (leave_maskedFixes ..).mpr (hs.masked u m hum)
  refine Triple.bind (Triple.addBackQuiet hm h) fun _ _ h => ?_
  refine Triple.bind (Triple.fixDefaultSortOpen h v _ skip options ?_) fun _ _ h => ?_
  · exact fun hs => ⟨(leave_boldFixes ..).mpr hs.bold, hs.defaultSort⟩
  refine Triple.bind (Triple.hideQuiet h (·.hides)) fun _ _ h => ?_
  refine Triple.bind (Triple.runFixesMasked h _ (·.metadata)) fun _ _ h => ?_
  refine Triple.bind (Triple.addBackQuiet hm h) fun _ _ h => ?_
  refine Triple.edit (h.quiet.trans ⟨?_, h.needed⟩)
  rintro ⟨⟨⟨⟨⟨⟨-, hopen⟩, hhides⟩, hmasked⟩, hbold, hsort⟩, -⟩, hmetadata⟩
  exact ⟨hhides, hopen, fun u m hum => (leave_maskedFixes ..).mp (hmasked u m hum),
    (leave_boldFixes ..).mp hbold, hsort, hmetadata⟩

end Repairing

-- -----------------------------------------------------------------------------------------
-- Whether another run finds something to do
-- -----------------------------------------------------------------------------------------

namespace Article

/-- The general fixes come to an end and log nothing if and only if the text is settled, whatever is
said of the article already. Then they leave the text as it was, and it is not said that they
changed something. -/
theorem performFixes_settled_iff (a : Article) (v : Vocabulary) (p : Profile)
    (hidden : Mask.Options) (skip : SkipOptions) (options : FixOptions) :
    let result := a.performFixes v (Mask.ofProfile p hidden) skip options
    ((result.1 = none ∧ result.2.1.log = a.log) ↔
      Settled v (Mask.ofProfile p hidden) a.title options a.text) ∧
    (result.1 = none ∧ result.2.1.log = a.log →
      result.2.1.text = a.text ∧ result.2.1.fixesCausedChange = false) := by
  have hm : Repair.Proper (Mask.ofProfile p hidden) := ⟨p, rfl⟩
  have hsettled := Repairing.Triple.quiet hm a v skip options
  have hlogged := Logged.performFixes a v hm skip options
  refine ⟨?_, ?_⟩
  · rcases performFixes_cases hsettled with ⟨r, he, h⟩ | ⟨e, r, he, h⟩
    · simpa [he] using h
    · simpa [he] using h
  · rintro ⟨hend, hl⟩
    have htext := hlogged.text hl
    obtain ⟨a', h, he⟩ :=
      performFixes_settles (preserved_underway a v a.title skip options) (.refl a) hend
    refine ⟨htext, ?_⟩
    rw [he] at htext ⊢
    have hinitial : a'.initial = a.initial := h.initial
    have ht : a'.text = a.text := htext
    simp [settleFixes, isUnchanged, hinitial, ht]

/-- The title is made bold only in the first line of the text. Here that is the one of a category,
until the metadata are sorted behind the title. -/
theorem performFixes_unsettled :
    ∃ v, Vocabulary.ofProfile .englishWikipedia = .ok v ∧
      (let mask := Mask.ofProfile .englishWikipedia {}
      let first := (ofText "Foo".toList "[[Category:A]]\nFoo is a thing.".toList).performFixes v mask
        {} {}
      let second := (ofText "Foo".toList first.2.1.text).performFixes v mask {} {}
      (first.1, second.1, second.2.1.log)) =
        (none, none, [{ reason := "emboldened title".toList, actor := .generalFixes }]) := by
  have hrun : (Vocabulary.ofProfile .englishWikipedia).toOption.map (fun v =>
      let mask := Mask.ofProfile .englishWikipedia {}
      let first := (ofText "Foo".toList "[[Category:A]]\nFoo is a thing.".toList).performFixes v mask
        {} {}
      let second := (ofText "Foo".toList first.2.1.text).performFixes v mask {} {}
      (first.1, second.1, second.2.1.log)) =
        some (none, none, [{ reason := "emboldened title".toList, actor := .generalFixes }]) := by
    decide +kernel
  exact exists_ok_of_toOption_map hrun

end Article

end Wikitext
