import Wikitext.Proofs.Article.Log
import Wikitext.Proofs.Fix.Characters
import Wikitext.Proofs.Fix.Headings
import Wikitext.Proofs.Fix.Links
import Wikitext.Proofs.Fix.Metadata
import Wikitext.Proofs.Fix.Tables
import Wikitext.Proofs.Mask.Restore

/-!
# Fixes that come to an end

`performFixes_completes`: the general fixes are given up for no article whose
title and text have no corner brackets, not even as character references, as
long as two fixes do not get to see a placeholder where they drop text: the one
for the tags of the reference list and the sorting of the metadata. Every other
fix keeps the placeholders of the text it is given, in their order.
-/

namespace Wikitext

open Mask Fix

-- -----------------------------------------------------------------------------------------
-- Runs of fixes
-- -----------------------------------------------------------------------------------------

namespace Article

theorem text_runFix (a : Article) (s : FixStep) : (a.runFix s).text = s.fix a.text := by
  unfold runFix
  by_cases ht : s.fix a.text = a.text
  · rw [if_pos (by simpa using ht), ht]
    cases s.skipReason <;> rfl
  · rw [if_neg (by simpa using ht)]
    simp [changeText, ht]

theorem title_runFixes (a : Article) (steps : List FixStep) : (a.runFixes steps).title = a.title :=
  ((Underway.refl a).runFixes steps).title

/-- The texts that the fixes with an entry in the log get in a run. -/
def given (reason : String) : List FixStep → Text → List Text
  | [], _ => []
  | s :: steps, t =>
    let later := given reason steps (s.fix t)
    if s.reason = reason then t :: later else later

/-- By induction along the run. -/
theorem keeps_runFixes {steps : List FixStep} {P : Text → Prop}
    (hs : ∀ s ∈ steps, ∀ t, (s.reason = reason → P t) → Keeps .plain t (s.fix t)) (a : Article)
    (hg : ∀ t ∈ given reason steps a.text, P t) : Keeps .plain a.text (a.runFixes steps).text := by
  induction steps generalizing a with
  | nil => exact .refl _
  | cons s steps ih =>
    rw [List.forall_mem_cons] at hs
    rw [given] at hg
    have hstep := hs.1 a.text fun hr => hg _ (by rw [if_pos hr]; exact List.mem_cons_self)
    have hlater : ∀ t ∈ given reason steps (a.runFix s).text, P t := by
      rw [text_runFix]
      refine fun t ht => hg t ?_
      split
      · exact List.mem_cons_of_mem _ ht
      · exact ht
    exact (text_runFix a s ▸ hstep).trans (ih hs.2 (a.runFix s) hlater)

-- -----------------------------------------------------------------------------------------
-- The fixes of the masked text
-- -----------------------------------------------------------------------------------------

def listTags : String := "fixed reference list tags"

/-- What has to hold of a text that the tags of the reference list are fixed in. -/
def NothingInTags (t : Text) : Prop := ∀ m ∈ ReferenceList.smallReferences.matches' t, Bare m.text

/-- The fix keeps the placeholders of a text that it may be given. -/
def Safe (s : FixStep) : Prop :=
  ∀ t, (s.reason = listTags → NothingInTags t) → Keeps .plain t (s.fix t)

theorem safe_of_harmless {s : FixStep} (h : Harmless s.fix) : Safe s := fun t _ => h.steady t

theorem safe_of_steady {s : FixStep} (h : Steady .plain s.fix) : Safe s := fun t _ => h t

theorem safe_skipUnless {s : FixStep} (h : Safe s) (wanted : Bool) (reason : String) :
    Safe (s.skipUnless wanted reason) := by
  cases wanted with
  | false => exact h
  | true => exact h

section
variable {p : Profile} {v : Vocabulary} (hp : p.Unmarked) (hv : Vocabulary.ofProfile p = .ok v)
  (title : Text) (h : Bare title)

theorem safe_styleFixes (v : Vocabulary) (title : Text) : ∀ s ∈ styleFixes v title, Safe s := by
  unfold styleFixes
  simp only [List.forall_mem_append, List.forall_mem_singleton]
  refine ⟨⟨safe_of_harmless harmless_nonBreakingSpaces, ?_⟩,
    safe_of_harmless (harmless_dateOrdinals title)⟩
  split
  · simpa using safe_of_harmless harmless_dashes
  · simp

include hp hv h

/-- All fixes of the masked text but the first, which decodes character references. -/
theorem safe_maskedFixes (skip : SkipOptions) (options : FixOptions) :
    ∀ s ∈ (maskedFixes v title skip options).tail, Safe s := by
  have hstyle : ∀ s ∈ if options.noStyleFixes then [] else styleFixes v title, Safe s := by
    split
    · simp
    · exact safe_styleFixes v title
  simp only [maskedFixes, List.cons_append, List.tail_cons, List.nil_append,
    List.forall_mem_append, List.forall_mem_cons, List.not_mem_nil, false_imp_iff, implies_true,
    and_true]
  refine ⟨safe_of_harmless (harmless_fixCategories hp hv),
    safe_of_harmless (harmless_fixPrefixes hp hv), safe_of_harmless (harmless_markup hp hv),
    safe_of_harmless harmless_lineBreakRuns, safe_of_harmless harmless_temperatures,
    safe_of_harmless harmless_hatnotes, safe_of_harmless harmless_emptyConstructs,
    safe_of_harmless (harmless_linkSpaces h),
    safe_skipUnless (safe_of_harmless (harmless_links h)) _ _,
    safe_skipUnless (safe_of_harmless harmless_bulletedLinks) _ _,
    safe_skipUnless (safe_of_harmless (harmless_headings h)) _ _, hstyle,
    safe_of_harmless harmless_citations, safe_of_harmless harmless_referenceTags,
    safe_of_harmless harmless_simplifiedTags, ?_, safe_of_steady steady_mergeUnnamed,
    safe_of_steady steady_mergeNamed, safe_of_harmless harmless_punctuationBeforeRefs,
    safe_of_steady (ReferenceList.steady_addMissing hp hv), safe_of_steady steady_simplifyLinks,
    safe_of_steady steady_stickyLinks⟩
  exact fun t ht => (ReferenceList.edits_fixTags hp hv _ (ht rfl)).keeps

end

/-- The fixes of a masked text `a.text`, in which the references are those of `t`. -/
theorem keeps_maskedFixes {p : Profile} {v : Vocabulary} (hp : p.Unmarked)
    (hv : Vocabulary.ofProfile p = .ok v) (title : Text) (h : Bare title) (skip : SkipOptions)
    (options : FixOptions) (a : Article) (ht : CornerFree t)
    (hu : ∀ x, Apart x → x <:+: a.text → x <:+: t)
    (hlist : ∀ u ∈ given listTags (maskedFixes v title skip options) a.text, NothingInTags u) :
    Keeps .plain a.text (a.runFixes (maskedFixes v title skip options)).text := by
  let first := (FixStep.minor "unicodified" characters).skipUnless skip.noCharacters
    "no unicodification"
  have hfirst : first.fix = characters ∧ first.reason ≠ listTags := by
    cases hc : skip.noCharacters <;> simp [first, hc, FixStep.skipUnless, FixStep.minor, listTags]
  have hstart : Keeps .plain a.text (a.runFix first).text := by
    rw [text_runFix, hfirst.1]
    exact (edits_characters ht hu).keeps
  refine hstart.trans (keeps_runFixes (safe_maskedFixes hp hv title h skip options) _ fun u hmem => ?_)
  have hgiven : given listTags (maskedFixes v title skip options) a.text =
      given listTags (maskedFixes v title skip options).tail (a.runFix first).text := by
    rw [text_runFix]
    exact if_neg hfirst.2
  exact hlist u (hgiven ▸ hmem)

-- -----------------------------------------------------------------------------------------
-- The other fixes
-- -----------------------------------------------------------------------------------------

theorem text_openFixes (a : Article) : (a.runFixes openFixes).text = Text.trim (dates a.text) := by
  change ((a.runFix _).runFix _).text = _
  rw [text_runFix, text_runFix]
  rfl

theorem text_boldFixes (a : Article) (v : Vocabulary) (title : Text) (skip : SkipOptions) :
    (a.runFixes (boldFixes v title skip)).text =
      if v.profile.isMainspace title then boldTitle title a.text else a.text := by
  unfold boldFixes
  split
  · change (a.runFix _).text = _
    rw [text_runFix]
    cases skip.noBoldTitle <;> rfl
  · rfl

theorem bare_boldFixes {a : Article} (v : Vocabulary) (title : Text) (skip : SkipOptions)
    (h : Bare a.text) :
    Bare (a.runFixes (boldFixes v title skip)).text := by
  rw [text_boldFixes]
  split
  · exact bare_boldTitle h
  · exact h

theorem text_skipIf (a : Article) (condition : Bool) (reason : String) :
    (a.skipIf condition reason).text = a.text := by
  cases condition <;> rfl

/-- The default sort key is put right in a text without corner brackets. -/
theorem bare_fixDefaultSort {a : Article} {p : Profile} {v : Vocabulary}
    (hv : Vocabulary.ofProfile p = .ok v) (htitle : Bare a.title) (h : Bare a.text)
    (skip : SkipOptions) (options : FixOptions) : Bare (a.fixDefaultSort v skip options).text := by
  rw [fixDefaultSort, text_skipIf, text_runFix]
  exact Metadata.bare_fixDefaultSort hv htitle h

theorem keeps_metadataFixes {p : Profile} {v : Vocabulary} (hv : Vocabulary.ofProfile p = .ok v)
    (title : Text) (a : Article) (h : ∀ m ∈ Metadata.moved v a.text, Bare m.text) :
    Keeps .plain a.text (a.runFixes (metadataFixes v title)).text := by
  change Keeps .plain a.text ((a.runFix _).runFix _).text
  rw [text_runFix, text_runFix]
  exact (Metadata.keeps_sort hv h).trans (Metadata.harmless_whiteSpace _).keeps

end Article

-- -----------------------------------------------------------------------------------------
-- Repair work that does not fail
-- -----------------------------------------------------------------------------------------

theorem Mask.Bare.not_contains (h : Bare t) : ¬ Contains kind t := by
  rw [← hasPlaceholder_iff, hasPlaceholder, h.parts_eq]
  simp

namespace Repair

/-- The text is in the open, and neither it nor the title has a corner bracket. -/
structure Shown (r : Repair) : Prop where
  title : Bare r.article.title
  text : Bare r.article.text
  mask : Proper r.mask
  plain : r.mask.plain = #[]

/-- The text is masked; added back, it is `t`. -/
structure Hides (r : Repair) (t : Text) : Prop where
  title : Bare r.article.title
  accounts : Accounts .plain r.mask.plain (parts .plain r.article.text) t
  bare : Bare t
  mask : Proper r.mask

end Repair

namespace Repairing

open Repair (Shown Hides)

variable {r : Repair}

theorem Triple.imp {x : Repairing α} {Q Q' : α → Repair → Prop} (h : Triple x r Q E)
    (hq : ∀ a r', Q a r' → Q' a r') : Triple x r Q' E := by
  unfold Triple at h ⊢
  split at h
  · exact hq _ _ h
  · exact h

/-- The work comes to an end, as `Q` says. -/
abbrev Completes (x : Repairing α) (r : Repair) (Q : α → Repair → Prop) : Prop :=
  Triple x r Q fun _ => False

theorem Completes.run_eq {x : Repairing α} {Q : α → Repair → Prop} (h : Completes x r Q) :
    Completes x r fun a r' => x.run r = (.ok a, r') ∧ Q a r' := by
  unfold Completes Triple at h ⊢
  split at h
  · rename_i he
    rw [he]
    exact ⟨rfl, h⟩
  · exact h.elim

theorem completes_hide (h : Shown r) :
    Completes hide r fun _ r' => Hides r' r.article.text := by
  have hround := Mask.roundTrip_hide h.mask h.plain r.article.text
  obtain ⟨⟨u, m⟩, he⟩ := hround.1.mpr h.text.not_contains
  obtain ⟨-, spans, rfl⟩ := Mask.hide_ok he
  have hback := congrArg Prod.fst (hround.2 _ _ he)
  refine Triple.hide (fun u' m' hhide => ?_) fun e herror => ?_
  · cases he.symm.trans hhide
    exact ⟨h.title, expands_of_restore hback, h.text, h.mask⟩
  · cases he.symm.trans herror

theorem completes_edit {f : Article → Article} (h : Hides r t)
    (hk : Keeps .plain r.article.text (f r.article).text)
    (hf : (f r.article).title = r.article.title) :
    Completes (edit f) r fun _ r' => ∃ t', Hides r' t' := by
  obtain ⟨hi, hn⟩ := hk (h.accounts.intact h.bare)
  obtain ⟨t', ht, hb⟩ := h.accounts.restore_edited h.bare hi.clean (hn ▸ .refl _)
  exact Triple.edit ⟨t', hf ▸ h.title, expands_of_restore ht, hb, h.mask⟩

theorem completes_addBack (h : Hides r t) : Completes addBack r fun _ r' => Shown r' := by
  obtain ⟨is, hi, hp⟩ := h.accounts
  have hback : (r.mask.addBack r.article.text).1 = .ok t := restore_eq_ok hi hp
  refine Triple.addBack (fun t' ht => ?_) fun e herror => ?_
  · cases hback.symm.trans ht
    exact ⟨h.title, h.bare, h.mask, rfl⟩
  · cases hback.symm.trans herror

/-- The work up to the first hiding. -/
def firstHiding : Repairing Unit := do
  edit (·.runFixes Article.openFixes)
  hide

/-- The work up to the second hiding. -/
def secondHiding (v : Vocabulary) (title : Text) (skip : SkipOptions) (options : FixOptions) :
    Repairing Unit := do
  firstHiding
  edit (·.runFixes (Article.maskedFixes v title skip options))
  addBack
  edit fun a => (a.runFixes (Article.boldFixes v title skip)).fixDefaultSort v skip options
  hide

theorem generalFixes_eq (v : Vocabulary) (skip : SkipOptions) (options : FixOptions) :
    generalFixes v skip options = (do
      let before := (← get).article
      secondHiding v before.title skip options
      edit (·.runFixes (Article.metadataFixes v before.title))
      addBack
      edit (Article.settleFixes before)) := by
  simp only [generalFixes, secondHiding, firstHiding, bind_assoc]

theorem completes_firstHiding (h : Shown r) (href : CornerFree r.article.text) :
    Completes firstHiding r fun _ r' => ∃ t, CornerFree t ∧ Hides r' t := by
  have hedits := (harmless_dates r.article.text).trans (harmless_trim _)
  have hbare := Edits.bare hedits h.text
  have hfree := cornerFree_of_infix (cornerFree_dates href) (Text.trim_isInfix _)
  rw [← Article.text_openFixes] at hbare hfree
  unfold firstHiding
  refine Triple.bind (P := fun _ r' => Shown r' ∧ CornerFree r'.article.text)
    (Triple.edit ⟨⟨?_, hbare, h.mask, h.plain⟩, hfree⟩) ?_
  · exact (Article.title_runFixes _ _).symm ▸ h.title
  · rintro _ r' ⟨hs, hc⟩
    exact (completes_hide hs).imp fun _ _ h => ⟨_, hc, h⟩

section
variable {p : Profile} {v : Vocabulary} (hp : p.Unmarked) (hv : Vocabulary.ofProfile p = .ok v)
  (h : Shown r) (href : CornerFree r.article.text) {skip : SkipOptions} {options : FixOptions}
  (hlist : ∀ r', firstHiding.run r = (.ok (), r') →
    ∀ t ∈ Article.given Article.listTags (Article.maskedFixes v r.article.title skip options)
      r'.article.text, Article.NothingInTags t)
include hp hv h href hlist

theorem completes_secondHiding :
    Completes (secondHiding v r.article.title skip options) r fun _ r' => ∃ t, Hides r' t := by
  unfold secondHiding
  refine Triple.bind (completes_firstHiding h href).run_eq ?_
  rintro _ r₁ ⟨hrun, t, hc, h₁⟩
  have hkeeps := Article.keeps_maskedFixes hp hv r.article.title h.title skip options r₁.article hc
    (fun x => h₁.accounts.infix_of_apart) (hlist r₁ hrun)
  refine Triple.bind (completes_edit h₁ hkeeps (Article.title_runFixes _ _)) ?_
  rintro _ r₂ ⟨t₂, h₂⟩
  refine Triple.bind (completes_addBack h₂) fun _ r₃ h₃ => ?_
  refine Triple.bind (P := fun _ r' => Shown r') (Triple.edit ?_) fun _ r₄ h₄ => ?_
  · have hbold := Article.bare_boldFixes v r.article.title skip h₃.text
    have htitle := (Article.title_runFixes r₃.article (Article.boldFixes v r.article.title skip)).symm
    have hunderway := (Article.Underway.refl r₃.article).runFixes
      (Article.boldFixes v r.article.title skip)
    exact ⟨(hunderway.fixDefaultSort v skip options).title.symm ▸ h₃.title,
      Article.bare_fixDefaultSort hv (htitle ▸ h₃.title) hbold skip options, h₃.mask, h₃.plain⟩
  · exact (completes_hide h₄).imp fun _ _ h => ⟨_, h⟩

theorem completes_generalFixes
    (hmetadata : ∀ r', (secondHiding v r.article.title skip options).run r = (.ok (), r') →
      ∀ m ∈ Metadata.moved v r'.article.text, Bare m.text) :
    Completes (generalFixes v skip options) r fun _ _ => True := by
  rw [generalFixes_eq]
  refine Triple.bind (P := fun b r' => b = r ∧ r' = r) ⟨rfl, rfl⟩ ?_
  rintro _ _ ⟨rfl, rfl⟩
  rename_i start
  refine Triple.bind (completes_secondHiding hp hv h href hlist).run_eq ?_
  rintro _ r₁ ⟨hrun, t, h₁⟩
  have hkeeps := Article.keeps_metadataFixes hv start.article.title r₁.article (hmetadata r₁ hrun)
  refine Triple.bind (completes_edit h₁ hkeeps (Article.title_runFixes _ _)) ?_
  rintro _ r₂ ⟨t₂, h₂⟩
  exact Triple.bind (completes_addBack h₂) fun _ _ _ => Triple.edit trivial

end

end Repairing

namespace Article

/-- The general fixes come to an end in an article whose title and text have no corner brackets, as
characters or as references, if no placeholder stands in the tags of the reference list and in the
metadata when those are put in order. -/
theorem performFixes_completes {p : Profile} {v : Vocabulary} (hp : p.Unmarked)
    (hv : Vocabulary.ofProfile p = .ok v) (a : Article) (htitle : Bare a.title)
    (htext : Bare a.text) (href : CornerFree a.text) (hidden : Options) (skip : SkipOptions)
    (options : FixOptions)
    (hlist : ∀ r, Repairing.firstHiding.run { article := a, mask := ofProfile p hidden } =
        (.ok (), r) →
      ∀ t ∈ given listTags (maskedFixes v a.title skip options) r.article.text, NothingInTags t)
    (hmetadata : ∀ r, (Repairing.secondHiding v a.title skip options).run
        { article := a, mask := ofProfile p hidden } = (.ok (), r) →
      ∀ m ∈ Metadata.moved v r.article.text, Bare m.text) :
    (a.performFixes v (ofProfile p hidden) skip options).1 = none := by
  have h := Repairing.completes_generalFixes (r := { article := a, mask := ofProfile p hidden }) hp hv
    ⟨htitle, htext, ⟨p, rfl⟩, rfl⟩ href hlist hmetadata
  rcases performFixes_cases h with ⟨r, he, -⟩ | ⟨e, r, -, hnever⟩
  · rw [he]
  · exact hnever.elim

/-- A comment and nothing else. -/
def comment : Repair where
  article := ofText "A".toList "<!---->".toList
  mask := ofProfile .englishWikipedia {}

theorem performFixes_completes_comment :
    ∃ v, Vocabulary.ofProfile .englishWikipedia = .ok v ∧
      (comment.article.performFixes v comment.mask {} {}).1 = none := by
  have hcheck : (match Vocabulary.ofProfile .englishWikipedia with
      | .error _ => false
      | .ok v =>
        let first := (Repairing.firstHiding.run comment).2.article.text
        let second := ((Repairing.secondHiding v comment.article.title {} {}).run comment).2
        ((given listTags (maskedFixes v comment.article.title {} {}) first).all fun t =>
            (ReferenceList.smallReferences.matches' t).isEmpty) &&
          (Metadata.moved v second.article.text).isEmpty) = true := by
    decide +kernel
  cases hv : Vocabulary.ofProfile .englishWikipedia with
  | error e =>
    rw [hv] at hcheck
    cases hcheck
  | ok v =>
    rw [hv] at hcheck
    simp only [Bool.and_eq_true, List.all_eq_true, List.isEmpty_iff] at hcheck
    obtain ⟨hlist, hmetadata⟩ := hcheck
    refine ⟨v, rfl, performFixes_completes ⟨by decide, by decide, by decide, by decide⟩ hv
      comment.article (by decide) (by decide) (cornerFree_of_not_mem (by decide)) {} {} {} ?_ ?_⟩
    · intro r hr t ht m hm
      have hr' : Repairing.firstHiding.run comment = (.ok (), r) := hr
      rw [hlist t (by rw [hr']; exact ht)] at hm
      cases hm
    · intro r hr m hm
      have hr' : (Repairing.secondHiding v comment.article.title {} {}).run comment = (.ok (), r) := hr
      rw [hr'] at hmetadata
      rw [hmetadata] at hm
      cases hm

/-- A category that is named again with a comment in its sort key. -/
theorem performFixes_refuses :
    ∃ v, Vocabulary.ofProfile .englishWikipedia = .ok v ∧
      ((ofText "Foo".toList "[[Category:A]]\n[[Category:A|<!--x-->]]".toList).performFixes v
        (ofProfile .englishWikipedia { images := false }) {} {}).1 =
        some (.placeholderMismatch 1 0) := by
  have hrun : (Vocabulary.ofProfile .englishWikipedia).toOption.map (fun v =>
      ((ofText "Foo".toList "[[Category:A]]\n[[Category:A|<!--x-->]]".toList).performFixes v
        (ofProfile .englishWikipedia { images := false }) {} {}).1) =
        some (some (.placeholderMismatch 1 0)) := by
    decide +kernel
  exact exists_ok_of_toOption_map hrun

end Article

end Wikitext
