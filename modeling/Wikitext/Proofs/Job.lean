import Wikitext.Job
import Wikitext.Proofs.Article.Attribution

/-!
# Why a page is skipped

`process_skipReason`: what the skip options say of a processed page is true of its text and of its
log. They are asked last, and a reason that was given before counts more; those reasons are others
(`Accounted.early`). What they go by are flags, and the flags account for what is in the log
(`Accounted`): an operation makes the change a major one at once, a significant fix is only
remembered, and makes it one when the fixes come to an end with another text.
-/

namespace Wikitext

variable {a b : Article} {j : Job}

-- -----------------------------------------------------------------------------------------
-- Reasons
-- -----------------------------------------------------------------------------------------

/-- The reasons that only the skip options at the end give. -/
def finalReasons : List String := ["no change", "only general fixes changed", "only minor changes"]

/-- What the significant fixes say in the log. -/
def significantReasons : List String :=
  ["fixed syntax", "fixed links", "fixed headings", "fixed citation templates",
    "fixed reference tags", "simplified reference tags", "fixed reference list tags",
    "named duplicate references", "merged duplicate references",
    "moved references after punctuation", "added missing reference list"]

/-- The entry is that of a significant fix. -/
def LogEntry.IsSignificant (e : LogEntry) : Prop :=
  e.actor = .generalFixes ∧ ∃ reason ∈ significantReasons, e.reason = reason.toList

/-- The fix can be told by its reasons. -/
structure FixStep.Labelled (s : FixStep) : Prop where
  significant : s.significant = true ↔ s.reason ∈ significantReasons
  early : ∀ reason ∈ s.skipReason, reason ∉ finalReasons

section
variable {s : FixStep} {reason : String} {fix : Text → Text}

theorem FixStep.labelled_minor : (minor reason fix).Labelled ↔ reason ∉ significantReasons :=
  ⟨fun h hs => Bool.false_ne_true (h.significant.mpr hs), fun h => ⟨⟨nofun, (absurd · h)⟩, nofun⟩⟩

theorem FixStep.labelled_major : (major reason fix).Labelled ↔ reason ∈ significantReasons :=
  ⟨fun h => h.significant.mp rfl, fun h => ⟨⟨fun _ => h, fun _ => rfl⟩, nofun⟩⟩

theorem FixStep.Labelled.skipUnless (h : s.Labelled) (hearly : reason ∉ finalReasons)
    (wanted : Bool) : (s.skipUnless wanted reason).Labelled := by
  cases wanted with
  | false => exact h
  | true =>
    refine ⟨h.significant, ?_⟩
    rintro _ ⟨⟩
    exact hearly

end

namespace Article

open FixStep (labelled_minor labelled_major)

theorem labelled_styleFixes (v : Vocabulary) (title : Text) :
    ∀ s ∈ styleFixes v title, s.Labelled := by
  unfold styleFixes
  split <;> simp [labelled_minor, significantReasons]

theorem labelled_boldFixes (v : Vocabulary) (title : Text) (skip : SkipOptions) :
    ∀ s ∈ boldFixes v title skip, s.Labelled := by
  unfold boldFixes
  split
  · simpa using (labelled_minor.mpr (by decide)).skipUnless (by decide) _
  · simp

theorem labelled_maskedFixes (v : Vocabulary) (title : Text) (skip : SkipOptions)
    (options : FixOptions) : ∀ s ∈ maskedFixes v title skip options, s.Labelled := by
  have hstyle : ∀ s ∈ if options.noStyleFixes then [] else styleFixes v title, s.Labelled := by
    split
    · simp
    · exact labelled_styleFixes v title
  simp only [maskedFixes, List.cons_append, List.nil_append, List.forall_mem_append,
    List.forall_mem_cons]
  refine ⟨(labelled_minor.mpr (by decide)).skipUnless (by decide) _, ?_, ?_, ?_, ?_, ?_, ?_, ?_, ?_,
    (labelled_major.mpr (by decide)).skipUnless (by decide) _,
    (labelled_minor.mpr (by decide)).skipUnless (by decide) _,
    (labelled_major.mpr (by decide)).skipUnless (by decide) _, hstyle, ?_⟩
  all_goals simp [labelled_minor, labelled_major, significantReasons]

theorem labelled_fixSteps {title : Text} {skip : SkipOptions} (h : s ∈ fixSteps v title skip options) :
    s.Labelled := by
  simp only [fixSteps, List.mem_append] at h
  rcases h with h | h | h | h
  · revert s
    simp [openFixes, labelled_minor, significantReasons]
  · exact labelled_maskedFixes _ _ _ _ s h
  · exact labelled_boldFixes _ _ _ s h
  · revert s
    simp [metadataFixes, labelled_minor, significantReasons]

-- -----------------------------------------------------------------------------------------
-- What flags say
-- -----------------------------------------------------------------------------------------

/-- The flags of an article account for its log, and no skip option was asked yet. -/
structure Accounted (a : Article) : Prop where
  operated : ∀ e ∈ a.log, e.actor = .categories ∨ e.actor = .images → a.majorChange = true
  significant : ∀ e ∈ a.log, e.IsSignificant → a.significantChange = true
  early : ∀ reason ∈ finalReasons, a.skipReason ≠ some reason.toList

namespace Accounted

theorem ofText (title t : Text) : Accounted (Article.ofText title t) := ⟨nofun, nofun, nofun⟩

theorem withText (h : Accounted a) (t : Text) : Accounted { a with text := t } :=
  ⟨h.operated, h.significant, h.early⟩

theorem skip (h : Accounted a) (hearly : reason ∉ finalReasons) :
    Accounted (a.skip reason.toList) := by
  refine ⟨h.operated, h.significant, fun final hfinal he => ?_⟩
  cases hs : a.skipReason with
  | none =>
    simp only [Article.skip, hs, Option.none_or, Option.some.injEq, String.toList_inj] at he
    exact hearly (he ▸ hfinal)
  | some given =>
    simp only [Article.skip, hs, Option.some_or] at he
    exact h.early final hfinal (hs.trans he)

theorem skipIf (h : Accounted a) (hearly : reason ∉ finalReasons) (condition : Bool) :
    Accounted (a.skipIf condition reason) := by
  cases condition with
  | false => exact h
  | true => exact h.skip hearly

theorem runFix (h : Accounted a) (hs : s.Labelled) : Accounted (a.runFix s) := by
  rcases a.runFix_cases s with ⟨-, he | ⟨reason, hreason, he⟩⟩ | ⟨-, he⟩
  · rwa [he]
  · rw [he]
    exact h.skip (hs.early reason hreason)
  · rw [he]
    refine ⟨?_, ?_, h.early⟩
    · simp only [List.forall_mem_append, List.forall_mem_singleton]
      exact ⟨h.operated, nofun⟩
    · simp only [List.forall_mem_append, List.forall_mem_singleton, Bool.or_eq_true]
      refine ⟨fun e he hsig => .inl (h.significant e he hsig), ?_⟩
      rintro ⟨-, reason, hreason, heq⟩
      obtain rfl : s.reason = reason := String.toList_inj.mp heq
      exact .inr (hs.significant.mpr hreason)

theorem operate (h : Accounted a) (t description : Text)
    (hactor : actor ≠ .generalFixes) : Accounted (a.operate t description actor) := by
  rcases a.operate_cases t description actor with he | he
  · rwa [he]
  · rw [he]
    refine ⟨fun _ _ _ => rfl, ?_, h.early⟩
    simp only [List.forall_mem_append, List.forall_mem_singleton]
    exact ⟨h.significant, fun hsig => (hactor hsig.1).elim⟩

theorem findAndReplace {rules : RuleList} (h : Accounted a)
    (hb : a.findAndReplace rules phase = .ok b) : Accounted b := by
  rcases findAndReplace_cases hb with ⟨errors, rfl⟩ | ⟨t, major, summary, errors, rfl⟩
  · exact ⟨h.operated, h.significant, h.early⟩
  · refine ⟨?_, ?_, h.early⟩
    · simp only [List.forall_mem_append, List.forall_mem_singleton, Bool.or_eq_true]
      exact ⟨fun e he hactor => .inl (h.operated e he hactor), nofun⟩
    · simp only [List.forall_mem_append, List.forall_mem_singleton]
      exact ⟨h.significant, fun hsig => nomatch hsig.1⟩

theorem settleFixes (h : Accounted a) (before : Article) : Accounted (settleFixes before a) := by
  refine ⟨fun e he hactor => ?_, h.significant, h.early⟩
  rw [Article.settleFixes, h.operated e he hactor, Bool.true_or]

/-- Without a major change, the fixes did nothing significant or nothing on the whole. -/
theorem text_eq (h : Accounted a) (hminor : (Article.settleFixes before a).majorChange = false)
    (he : e ∈ a.log) (hsig : e.IsSignificant) : a.text = before.text := by
  simpa [Article.settleFixes, h.significant e he hsig] using (Bool.or_eq_false_iff.mp hminor).2

theorem preserved (v : Vocabulary) (title : Text) (skip : SkipOptions) (options : FixOptions) :
    Preserved v title skip options Accounted where
  withText _ t h := h.withText t
  runFix _ _ hs h := h.runFix (labelled_fixSteps hs)
  fixDefaultSort _ h :=
    (h.runFix (FixStep.labelled_minor.mpr (by decide))).skipIf (by decide) _

end Accounted

end Article

-- -----------------------------------------------------------------------------------------
-- Stages of a job
-- -----------------------------------------------------------------------------------------

namespace Job

open Article (Accounted SaysSame Attributes)

/-- The article as the general fixes get it. -/
def prepare (j : Job) (title t : Text) : Except MaskError Article := do
  return j.operate (← (Article.ofText title t).findAndReplace j.rules .beforeFixes)

/-- The reason that the skip options give in the end. -/
def finalReason? (j : Job) (a : Article) : Option String :=
  if j.skip.noChange && a.isUnchanged then some "no change"
  else if j.skip.onlyFixes && a.onlyFixesChanged then some "only general fixes changed"
  else if j.skip.onlyMinorChanges && !a.isUnchanged && !a.majorChange then
    some "only minor changes"
  else none

theorem applySkipOptions_eq (j : Job) (a : Article) :
    j.applySkipOptions a =
      { a with skipReason := a.skipReason.or ((j.finalReason? a).map (·.toList)) } := by
  have hskipIf (a : Article) (condition : Bool) (reason : String) : a.skipIf condition reason =
      { a with skipReason := a.skipReason.or (if condition then some reason.toList else none) } := by
    cases condition
    · simp [Article.skipIf]
    · rfl
  have hfirst (c c' c'' : Bool) (r r' r'' : String) :
      (if c then some r.toList else none).or
          ((if c' then some r'.toList else none).or (if c'' then some r''.toList else none)) =
        (if c then some r else if c' then some r' else if c'' then some r'' else none).map
          (·.toList) := by
    cases c <;> cases c' <;> cases c'' <;> rfl
  simp only [applySkipOptions, hskipIf, Option.or_assoc, hfirst]
  rfl

theorem ofArticle_applySkipOptions (j : Job) (a : Article) :
    Processed.ofArticle (j.applySkipOptions a) =
      { Processed.ofArticle a with
        skipReason := a.skipReason.or ((j.finalReason? a).map (·.toList)) } := by
  rw [applySkipOptions_eq]
  rfl

theorem prepare_preserved {P : Article → Prop} (hstart : P (Article.ofText title t))
    (hrules : ∀ a b, P a → a.findAndReplace j.rules .beforeFixes = .ok b → P b)
    (hcategory : ∀ a op, P a → P (a.changeCategory j.vocabulary op j.skip.noCategory))
    (himage : ∀ a op, P a → P (a.changeImage j.vocabulary op j.skip.noImage))
    (h : j.prepare title t = .ok a) : P a := by
  unfold prepare at h
  cases hb : (Article.ofText title t).findAndReplace j.rules .beforeFixes with
  | error e => simp [hb, bind, Except.bind] at h
  | ok b =>
    rw [hb] at h
    cases h
    refine List.foldlRecOn _ _ ?_ fun a ha op _ => himage a op ha
    exact List.foldlRecOn _ _ (hrules _ _ hstart hb) fun a ha op _ => hcategory a op ha

theorem accounted_prepare (h : j.prepare title t = .ok a) : Accounted a := by
  refine prepare_preserved (.ofText title t) (fun _ _ ha hb => ha.findAndReplace hb) ?_ ?_ h
  · exact fun a op ha => (ha.operate _ _ (by decide)).skipIf (by decide) _
  · exact fun a op ha => (ha.operate _ _ (by decide)).skipIf (by decide) _

theorem saysSame_prepare (h : j.prepare title t = .ok a) :
    SaysSame (Article.ofText title t) a := by
  refine prepare_preserved (.refl _) (fun _ _ ha hb => ha.trans (.findAndReplace hb)) ?_ ?_ h
  · exact fun a op ha => ha.trans ((SaysSame.operate a _ _ _).skipIf _ _)
  · exact fun a op ha => ha.trans ((SaysSame.operate a _ _ _).skipIf _ _)

theorem fix_cases (h : j.fix a = .ok b) :
    (j.generalFixes = false ∧ b = a) ∨
      (j.generalFixes = true ∧ (a.performFixes j.vocabulary j.mask j.skip j.options).1 = none ∧
        b = (a.performFixes j.vocabulary j.mask j.skip j.options).2.1) := by
  unfold fix at h
  cases hfixes : j.generalFixes with
  | false =>
    rw [hfixes] at h
    cases h
    exact .inl ⟨rfl, rfl⟩
  | true =>
    rw [hfixes, if_pos rfl] at h
    split at h
    · rename_i he
      cases h
      exact .inr ⟨rfl, by rw [he], by rw [he]⟩
    · cases h

/-- The stages of a job that comes to its end. -/
theorem process_ok (h : j.process title t = .ok p) :
    ∃ before after a, j.prepare title t = .ok before ∧ j.fix before = .ok after ∧
      after.findAndReplace j.rules .afterFixes = .ok a ∧
      p = Processed.ofArticle (j.applySkipOptions a) := by
  unfold process run at h
  unfold prepare
  cases hfirst : (Article.ofText title t).findAndReplace j.rules .beforeFixes with
  | error e => simp [hfirst, bind, Except.bind] at h
  | ok first =>
    cases hfix : j.fix (j.operate first) with
    | error e => simp [hfirst, hfix, bind, Except.bind] at h
    | ok after =>
      cases hlast : after.findAndReplace j.rules .afterFixes with
      | error e => simp [hfirst, hfix, hlast, bind, Except.bind] at h
      | ok a =>
        simp only [hfirst, hfix, hlast, bind, Except.bind, pure, Except.pure] at h
        cases h
        exact ⟨_, after, a, rfl, hfix, hlast, rfl⟩

/-- What is true of the article at the end, with the fixes between `before` and `after`. -/
structure Stages (j : Job) (t : Text) (before after a : Article) : Prop where
  initial : a.initial = t
  accounted : Accounted a
  attributes : a.Attributes (if j.generalFixes then some (before.text, after.text) else none)
  minor : a.majorChange = false → ∀ e ∈ a.log, e.IsSignificant → after.text = before.text

theorem stages_fix (hbefore : j.prepare title t = .ok before) (hafter : j.fix before = .ok after) :
    j.Stages t before after after := by
  have hsame := saysSame_prepare hbefore
  have haccounted := accounted_prepare hbefore
  rcases fix_cases hafter with ⟨hoff, rfl⟩ | ⟨hon, hend, hfixed⟩
  · refine ⟨hsame.initial, haccounted, ?_, fun _ _ _ _ => rfl⟩
    have hnone : (Article.ofText title t).Attributes none := rfl
    simpa [hoff] using hsame.attributes hnone
  · have hattributes := Article.attributes_performFixes hend
    obtain ⟨a, ⟨ha, hunderway⟩, he⟩ := Article.performFixes_settles
      ((Accounted.preserved _ _ _ _).and (Article.preserved_underway before _ _ _ _))
      ⟨haccounted, .refl before⟩ hend
    rw [← hfixed] at hattributes he
    rw [he]
    refine ⟨hunderway.initial.trans hsame.initial, ha.settleFixes before, ?_, ?_⟩
    · rw [if_pos hon, ← he]
      exact hattributes
    · exact fun hminor e hmem hsig => ha.text_eq hminor hmem hsig

theorem stages (hbefore : j.prepare title t = .ok before) (hafter : j.fix before = .ok after)
    (ha : after.findAndReplace j.rules .afterFixes = .ok a) : j.Stages t before after a := by
  have h := stages_fix hbefore hafter
  have hsame := SaysSame.findAndReplace ha
  refine ⟨hsame.initial.trans h.initial, h.accounted.findAndReplace ha,
    hsame.attributes h.attributes, ?_⟩
  rcases Article.findAndReplace_cases ha with ⟨errors, rfl⟩ | ⟨t, major, summary, errors, rfl⟩
  · exact h.minor
  · simp only [List.forall_mem_append, List.forall_mem_singleton, Bool.or_eq_false_iff]
    exact fun hminor => ⟨h.minor hminor.1, fun hsig => nomatch hsig.1⟩

/-- What the skip options say at the end is so. -/
theorem finalReason?_holds (h : j.finalReason? a = some reason) :
    (reason = "no change" → a.isUnchanged = true) ∧
      (reason = "only general fixes changed" → a.onlyFixesChanged = true) ∧
      (reason = "only minor changes" → a.isUnchanged = false ∧ a.majorChange = false) := by
  unfold finalReason? at h
  repeat' split at h
  all_goals cases h
  all_goals simp_all

/-- A reason of the skip options at the end was not given before. -/
theorem finalReason?_eq (h : Accounted a) (hreason : reason ∈ finalReasons)
    (hskip : a.skipReason.or ((j.finalReason? a).map (·.toList)) = some reason.toList) :
    j.finalReason? a = some reason := by
  cases hgiven : a.skipReason with
  | none =>
    rw [hgiven, Option.none_or, Option.map_eq_some_iff] at hskip
    obtain ⟨final, hfinal, heq⟩ := hskip
    rw [hfinal, String.toList_inj.mp heq]
  | some given =>
    rw [hgiven, Option.some_or] at hskip
    exact (h.early reason hreason (hgiven.trans hskip)).elim

/-- What is said of a processed page: whether it was changed is whether its text is another one. If
it is to be skipped because nothing changed, nothing did. If it is to be skipped because only the
general fixes changed it, they got the original text and made the text of the page of it. If it is to
be skipped because all changes are minor, its text is another one, no operation changed it, and if a
significant fix did, then the fixes as a whole gave back the text that they got. -/
theorem process_skipReason {p : Processed} (h : j.process title t = .ok p) :
    ∃ before after, j.prepare title t = .ok before ∧ j.fix before = .ok after ∧
      (p.changed = true ↔ p.text ≠ t) ∧
      (p.skipReason = some "no change".toList → p.text = t) ∧
      (p.skipReason = some "only general fixes changed".toList →
        j.generalFixes = true ∧ before.text = t ∧ p.text = after.text) ∧
      (p.skipReason = some "only minor changes".toList →
        p.text ≠ t ∧ p.majorChange = false ∧
        (∀ e ∈ p.log, e.actor ≠ .categories ∧ e.actor ≠ .images) ∧
        ((∃ e ∈ p.log, e.IsSignificant) → after.text = before.text)) := by
  obtain ⟨before, after, a, hbefore, hafter, ha, rfl⟩ := process_ok h
  have hstages := stages hbefore hafter ha
  have hunchanged : a.isUnchanged = true ↔ a.text = t := by
    rw [Article.isUnchanged, hstages.initial, beq_iff_eq]
  have hchanged : a.isUnchanged = false ↔ a.text ≠ t := by
    rw [ne_eq, ← hunchanged, Bool.not_eq_true]
  rw [ofArticle_applySkipOptions]
  refine ⟨before, after, hbefore, hafter, ?_, fun hreason => ?_, fun hreason => ?_,
    fun hreason => ?_⟩
  · simpa [Processed.ofArticle] using hchanged
  · have hfinal := finalReason?_eq hstages.accounted (by decide) hreason
    exact hunchanged.mp ((finalReason?_holds hfinal).1 rfl)
  · have hfinal := finalReason?_eq hstages.accounted (by decide) hreason
    have honly := (finalReason?_holds hfinal).2.1 rfl
    obtain ⟨-, hlast⟩ := (Article.onlyFixesChanged_iff hstages.attributes).mp honly
    cases hfixes : j.generalFixes with
    | false => simp [hfixes] at hlast
    | true =>
      simp only [hfixes, if_true, Option.some.injEq, Prod.mk.injEq, hstages.initial] at hlast
      exact ⟨rfl, hlast.1, hlast.2.symm⟩
  · have hfinal := finalReason?_eq hstages.accounted (by decide) hreason
    obtain ⟨hc, hminor⟩ := (finalReason?_holds hfinal).2.2 rfl
    refine ⟨hchanged.mp hc, hminor, fun e he => ?_, ?_⟩
    · have hoperated := hstages.accounted.operated e he
      rw [show a.majorChange = false from hminor] at hoperated
      exact not_or.mp fun hactor => Bool.false_ne_true (hoperated hactor)
    · rintro ⟨e, he, hsig⟩
      exact hstages.minor hminor e he hsig

/-- Spells a word in another way. -/
def respelling (v : Vocabulary) : Job where
  vocabulary := v
  rules :=
    { profile := v.profile
      rules := [{ find := "colour".toList, replace := "color".toList, minor := true }] }
  skip := { noChange := true, onlyFixes := true, onlyMinorChanges := true }

theorem process_skipReason_respelling :
    ∃ v p, Vocabulary.ofProfile .englishWikipedia = .ok v ∧
      (respelling v).process "Foo".toList "A colour [[a ]]b.".toList = .ok p ∧
      p.skipReason = some "only minor changes".toList ∧ p.text ≠ "A colour [[a ]]b.".toList ∧
      p.majorChange = false ∧ ∀ e ∈ p.log, e.actor ≠ .categories ∧ e.actor ≠ .images := by
  have hrun : (Vocabulary.ofProfile .englishWikipedia).toOption.map (fun v =>
      ((respelling v).process "Foo".toList "A colour [[a ]]b.".toList).toOption.map (·.skipReason)) =
        some (some (some "only minor changes".toList)) := by
    decide +kernel
  obtain ⟨v, hv, hprocess⟩ := Article.exists_ok_of_toOption_map hrun
  obtain ⟨p, hp, hreason⟩ := Article.exists_ok_of_toOption_map hprocess
  obtain ⟨_, _, -, -, -, -, -, hminor⟩ := process_skipReason hp
  obtain ⟨htext, hmajor, hactors, -⟩ := hminor hreason
  exact ⟨v, p, hv, hp, hreason, htext, hmajor, hactors⟩

end Job

end Wikitext
