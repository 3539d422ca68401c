import Wikitext.Proofs.Article.Completion
import Wikitext.Proofs.Mask.Restore

/-!
# Regions that the fixes leave alone

`performFixes_retains`: as long as the text is masked, no fix edits a comment or
an unformatted element. The title and the default sort key are put right in
between, in the open, and nothing is kept from these two fixes
(`performFixes_edits_region`).
-/

namespace Wikitext

open Mask

namespace Repairing

variable {r : Repair} {f : Article → Article}

/-- Work on the masked text. -/
def masked (f : Article → Article) : Repairing Unit := do
  hide
  edit f
  addBack

theorem generalFixes_eq_masked (v : Vocabulary) (skip : SkipOptions) (options : FixOptions) :
    generalFixes v skip options = (do
      let before := (← get).article
      edit (·.runFixes Article.openFixes)
      masked (·.runFixes (Article.maskedFixes v before.title skip options))
      edit fun a => (a.runFixes (Article.boldFixes v before.title skip)).fixDefaultSort v skip options
      masked (·.runFixes (Article.metadataFixes v before.title))
      edit (Article.settleFixes before)) := by
  simp only [generalFixes, masked, bind_assoc]

/-- Whatever is done to the masked text, the regions come back as they were. -/
theorem retains_masked (hf : ∀ a, (f a).title = a.title) :
    Triple (masked f) r (fun _ r' => Retains r.article.text r'.article.text ∧
      r'.article.title = r.article.title) fun _ => True := by
  have hhide : Triple hide r (fun _ r' => r.mask.hide r.article.text = .ok (r'.article.text, r'.mask) ∧
      r'.article.title = r.article.title) fun _ => True :=
    Triple.hide (fun _ _ he => ⟨he, rfl⟩) fun _ _ => trivial
  refine Triple.bind hhide fun _ r₁ ⟨hhidden, htitle₁⟩ => ?_
  refine Triple.bind (P := fun _ r₂ => r₂.mask = r₁.mask ∧ r₂.article.title = r₁.article.title)
    (Triple.edit ⟨rfl, hf r₁.article⟩) fun _ r₂ ⟨hmask, htitle₂⟩ => ?_
  exact Triple.addBack (fun _ hback =>
    ⟨retains_addBack hhidden (hmask ▸ hback), htitle₂.trans htitle₁⟩) fun _ _ => trivial

end Repairing

namespace Article

/-- The title in bold and the default sort key put right. -/
def shownFixes (v : Vocabulary) (title : Text) (options : FixOptions) (t : Text) : Text :=
  let bold := if v.profile.isMainspace title then Fix.boldTitle title t else t
  (Metadata.fixDefaultSort v title options.restrictDefaultSort bold).text

theorem text_shownFixes (a : Article) (v : Vocabulary) (skip : SkipOptions) (options : FixOptions) :
    ((a.runFixes (boldFixes v a.title skip)).fixDefaultSort v skip options).text =
      shownFixes v a.title options a.text := by
  rw [fixDefaultSort, text_skipIf, text_runFix, title_runFixes, text_boldFixes]
  rfl

theorem retains_generalFixes (start : Repair) (v : Vocabulary) (skip : SkipOptions)
    (options : FixOptions) :
    Repairing.Triple (Repairing.generalFixes v skip options) start
      (fun _ r => ∃ shown, Retains (Text.trim (Fix.dates start.article.text)) shown ∧
        Retains (shownFixes v start.article.title options shown) r.article.text) fun _ => True := by
  open Repairing in
  rw [generalFixes_eq_masked]
  refine Triple.bind (P := fun b r => b = start ∧ r = start) ⟨rfl, rfl⟩ ?_
  rintro _ _ ⟨rfl, rfl⟩
  rename_i start
  refine Triple.bind (P := fun _ r₁ => r₁.article = start.article.runFixes openFixes)
    (Triple.edit rfl) fun _ r₁ h₁ => ?_
  refine Triple.bind (retains_masked fun a => title_runFixes a _) fun _ r₂ ⟨hshown, htitle⟩ => ?_
  rw [h₁, text_openFixes] at hshown
  rw [h₁, title_runFixes] at htitle
  refine Triple.bind (P := fun _ r₃ =>
      r₃.article.text = shownFixes v start.article.title options r₂.article.text)
    (Triple.edit (htitle ▸ text_shownFixes r₂.article v skip options)) fun _ r₃ h₃ => ?_
  refine Triple.bind (retains_masked fun a => title_runFixes a _) fun _ r₄ ⟨hfinal, _⟩ => ?_
  exact Triple.edit ⟨r₂.article.text, hshown, h₃ ▸ hfinal⟩

/-- If the fixes come to an end, every unformatted region stands unchanged in the text that is shown
to the fixes of the title and the sort key, and every unformatted region of what they make of it
stands unchanged in the text at the end. -/
theorem performFixes_retains (a : Article) (v : Vocabulary) (mask : Mask) (skip : SkipOptions)
    (options : FixOptions) (h : (a.performFixes v mask skip options).1 = none) :
    ∃ shown, Retains (Text.trim (Fix.dates a.text)) shown ∧
      Retains (shownFixes v a.title options shown) (a.performFixes v mask skip options).2.1.text := by
  obtain ⟨r, he, hretains⟩ :=
    of_performFixes (retains_generalFixes { article := a, mask } v skip options) h
  rw [he]
  exact hretains

/-- A link to the article itself, in an element that shows it as it is written. -/
def shownLink : Text := "<nowiki>[[Foo]]</nowiki>".toList

/-- The fix of the title reaches into an unformatted element. -/
theorem performFixes_edits_region :
    Text.trim (Fix.dates shownLink) = shownLink ∧
      (Region.unformatted.matches' shownLink).map (·.text) = [shownLink] ∧
      ∃ v, Vocabulary.ofProfile .englishWikipedia = .ok v ∧
        let fixed := (ofText "Foo".toList shownLink).performFixes v
          (ofProfile .englishWikipedia { images := false }) {} {}
        fixed.1 = none ∧ fixed.2.1.text = "<nowiki>'''Foo'''</nowiki>".toList := by
  have hrun : (Vocabulary.ofProfile .englishWikipedia).toOption.map (fun v =>
      let fixed := (ofText "Foo".toList shownLink).performFixes v
        (ofProfile .englishWikipedia { images := false }) {} {}
      (fixed.1, fixed.2.1.text)) = some (none, "<nowiki>'''Foo'''</nowiki>".toList) := by
    decide +kernel
  refine ⟨by decide +kernel, by decide +kernel, ?_⟩
  obtain ⟨v, hv, hfixed⟩ := exists_ok_of_toOption_map hrun
  exact ⟨v, hv, Prod.mk.inj hfixed⟩

end Article

end Wikitext
