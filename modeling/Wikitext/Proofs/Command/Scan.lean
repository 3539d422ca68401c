import Wikitext.Command.Scan
import Wikitext.Proofs.Job

/-!
# What a scan says of the general fixes

A report may say that a page gets the general fixes only. `fixesOnly_of_mem_scan` tells when it
does: the fixes got the original text and made another one of it, and nothing that was done before
them, by them or after them is a major change. An article decides the same question by its text, and
both answers occur without the other (`fixesOnly?_lateRespelling`): a minor rule may change what the
fixes made of the text, and a significant fix is a major change although it is one of the fixes.
-/

namespace Wikitext

variable {j : Job} {r : PageReport} {a b before after last : Article}

-- -----------------------------------------------------------------------------------------
-- What makes a change a major one
-- -----------------------------------------------------------------------------------------

namespace Article

/-- The rules of this phase change the text, and one that is not minor does. -/
def RulesCount (a : Article) (rules : RuleList) (phase : Phase) : Prop :=
  ∃ o, rules.apply phase a.title a.text = .ok o ∧ o.text ≠ a.text ∧ o.majorChange = true

theorem majorChange_findAndReplace {rules : RuleList} (h : a.findAndReplace rules phase = .ok b) :
    b.majorChange = true ↔ a.majorChange = true ∨ a.RulesCount rules phase := by
  unfold findAndReplace at h
  unfold RulesCount
  cases ho : rules.apply phase a.title a.text with
  | error e => simp [ho, bind, Except.bind] at h
  | ok o =>
    simp only [ho, bind, Except.bind, pure, Except.pure] at h
    by_cases ht : o.text = a.text
    · rw [if_pos (by simpa using ht)] at h
      cases h
      simp [ht]
    · rw [if_neg (by simpa using ht)] at h
      cases h
      rw [changeText, if_neg (by simpa using ht)]
      simp [ht]

/-- Rules log nothing that is taken for a significant fix. -/
theorem isSignificant_findAndReplace {rules : RuleList} (h : a.findAndReplace rules phase = .ok b) :
    (∀ e ∈ b.log, ¬ e.IsSignificant) ↔ ∀ e ∈ a.log, ¬ e.IsSignificant := by
  rcases findAndReplace_cases h with ⟨errors, rfl⟩ | ⟨t, major, summary, errors, rfl⟩
  · rfl
  · rw [List.forall_mem_append, List.forall_mem_singleton]
    exact and_iff_left fun hsig => nomatch hsig.1

/-- The log has the fix that made a change significant. -/
def Explained (a : Article) : Prop := a.significantChange = true → ∃ e ∈ a.log, e.IsSignificant

namespace Explained

theorem of_log (h : Explained a) (hflag : b.significantChange = a.significantChange)
    (hlog : a.log <+: b.log) : Explained b := by
  intro hb
  obtain ⟨e, he, hsig⟩ := h (hflag ▸ hb)
  exact ⟨e, hlog.subset he, hsig⟩

theorem skipIf (h : Explained a) (condition : Bool) (reason : String) :
    Explained (a.skipIf condition reason) := by
  cases condition with
  | false => exact h
  | true => exact h

theorem operate (h : Explained a) (t description : Text) (actor : Actor) :
    Explained (a.operate t description actor) := by
  refine h.of_log ?_ (Logged.operate a t description actor).log
  rcases a.operate_cases t description actor with he | he <;> rw [he]

theorem findAndReplace {rules : RuleList} (h : Explained a)
    (hb : a.findAndReplace rules phase = .ok b) : Explained b := by
  refine h.of_log ?_ (Logged.findAndReplace hb).log
  rcases findAndReplace_cases hb with ⟨errors, rfl⟩ | ⟨t, major, summary, errors, rfl⟩ <;> rfl

theorem runFix (h : Explained a) (hs : s.Labelled) : Explained (a.runFix s) := by
  rcases a.runFix_cases s with ⟨-, he | ⟨reason, -, he⟩⟩ | ⟨-, he⟩
  · rwa [he]
  · rw [he]
    exact h
  · rw [he]
    intro hflag
    rcases Bool.or_eq_true_iff.mp hflag with hearlier | hnow
    · obtain ⟨e, hmem, hsig⟩ := h hearlier
      exact ⟨e, List.mem_append_left _ hmem, hsig⟩
    · exact ⟨_, List.mem_append_right _ List.mem_cons_self, rfl, _, hs.significant.mp hnow, rfl⟩

theorem preserved (v : Vocabulary) (title : Text) (skip : SkipOptions) (options : FixOptions) :
    Preserved v title skip options Explained where
  withText _ _ h := h
  runFix _ _ hs h := h.runFix (labelled_fixSteps hs)
  fixDefaultSort _ h := (h.runFix (FixStep.labelled_minor.mpr (by decide))).skipIf _ _

end Explained

/-- Before they come to an end, the fixes do not say that a change is a major one. -/
theorem preserved_majorChange (v : Vocabulary) (title : Text) (skip : SkipOptions)
    (options : FixOptions) (major : Bool) :
    Preserved v title skip options (·.majorChange = major) := by
  have hrun (a : Article) (s : FixStep) : (a.runFix s).majorChange = a.majorChange := by
    rcases a.runFix_cases s with ⟨-, he | ⟨reason, -, he⟩⟩ | ⟨-, he⟩ <;> rw [he]
    rfl
  have hskip (a : Article) (condition : Bool) (reason : String) :
      (a.skipIf condition reason).majorChange = a.majorChange := by
    cases condition <;> rfl
  refine ⟨fun _ _ h => h, fun a s _ h => (hrun a s).trans h, fun a h => ?_⟩
  rw [fixDefaultSort, hskip, hrun, h]

end Article

-- -----------------------------------------------------------------------------------------
-- The general fixes of a job
-- -----------------------------------------------------------------------------------------

namespace Job

open Article (Accounted Explained)

theorem explained_prepare (h : j.prepare title t = .ok a) : Explained a := by
  refine prepare_preserved (fun hflag => nomatch hflag) (fun _ _ ha hb => ha.findAndReplace hb) ?_ ?_ h
  · exact fun a op ha => (ha.operate _ _ _).skipIf _ _
  · exact fun a op ha => (ha.operate _ _ _).skipIf _ _

/-- The fixes make a change a major one if they change the text and one of them is significant. -/
theorem majorChange_fix (hbefore : j.prepare title t = .ok before) (h : j.fix before = .ok after) :
    after.majorChange = true ↔ before.majorChange = true ∨
      after.text ≠ before.text ∧ ∃ e ∈ after.log, e.IsSignificant := by
  rcases fix_cases h with ⟨-, rfl⟩ | ⟨-, hend, hfixed⟩
  · simp
  · obtain ⟨a, ⟨haccounted, hexplained, hmajor⟩, he⟩ := Article.performFixes_settles
      ((Accounted.preserved _ _ _ _).and
        ((Explained.preserved _ _ _ _).and (Article.preserved_majorChange _ _ _ _ _)))
      ⟨accounted_prepare hbefore, explained_prepare hbefore, rfl⟩ hend
    have hsignificant : a.significantChange = true ↔ ∃ e ∈ a.log, e.IsSignificant :=
      ⟨hexplained, fun ⟨e, hmem, hsig⟩ => haccounted.significant e hmem hsig⟩
    rw [hfixed, he, Article.settleFixes, ← hmajor, ← hsignificant]
    simp

/-- The general fixes got the original text and made another one of it. -/
def FixesChange (j : Job) (t : Text) (before after : Article) : Prop :=
  j.generalFixes = true ∧ before.text = t ∧ after.text ≠ t

theorem Stages.fixesCausedChange_iff (h : j.Stages t before after a) :
    a.fixesCausedChange = true ↔ j.FixesChange t before after := by
  have hattributes := h.attributes
  unfold FixesChange
  cases hfixes : j.generalFixes with
  | false =>
    rw [hfixes] at hattributes
    have hnone : a.fixesCausedChange = false := hattributes
    simp [hnone]
  | true =>
    rw [hfixes] at hattributes
    simpa [h.initial] using hattributes.1

theorem Stages.onlyFixesChanged_iff (h : j.Stages t before after a) :
    a.onlyFixesChanged = true ↔ j.FixesChange t before after ∧ a.text = after.text := by
  rw [Article.onlyFixesChanged_iff h.attributes, h.initial]
  unfold FixesChange
  cases j.generalFixes with
  | false => simp
  | true =>
    simp only [if_true, Option.some.injEq, Prod.mk.injEq, true_and]
    constructor
    · rintro ⟨hne, hbefore, htext⟩
      exact ⟨⟨hbefore, htext ▸ hne⟩, htext.symm⟩
    · rintro ⟨⟨hbefore, hne⟩, htext⟩
      exact ⟨htext ▸ hne, hbefore, htext.symm⟩

/-- The fixes changed the text and no change is a major one: no earlier one is, no fix is significant
and no later rule counts. -/
theorem fixesAlone_iff (hbefore : j.prepare title t = .ok before) (hafter : j.fix before = .ok after)
    (hlast : after.findAndReplace j.rules .afterFixes = .ok last) :
    last.fixesCausedChange = true ∧ last.majorChange = false ↔
      j.FixesChange t before after ∧ before.majorChange = false ∧
        (∀ e ∈ last.log, ¬ e.IsSignificant) ∧ ¬ after.RulesCount j.rules .afterFixes := by
  have hmajor := Article.majorChange_findAndReplace hlast
  have hfixes := majorChange_fix hbefore hafter
  rw [(stages hbefore hafter hlast).fixesCausedChange_iff, ← Bool.not_eq_true, hmajor, hfixes,
    Article.isSignificant_findAndReplace hlast]
  refine and_congr_right fun hchange => ?_
  have hne : after.text ≠ before.text := hchange.2.1 ▸ hchange.2.2
  simp [hne, and_assoc]

-- -----------------------------------------------------------------------------------------
-- Reports
-- -----------------------------------------------------------------------------------------

/-- What the report on a page and the article of that page say of the general fixes. -/
structure Reported (j : Job) (t : Text) (r : PageReport) (before after last : Article) : Prop where
  report : r.fixesOnly = true ↔ j.FixesChange t before after ∧ before.majorChange = false ∧
    (∀ e ∈ last.log, ¬ e.IsSignificant) ∧ ¬ after.RulesCount j.rules .afterFixes
  article : last.onlyFixesChanged = true ↔
    j.FixesChange t before after ∧ last.text = after.text
  changed : j.skip.noChange = true → last.text ≠ t

theorem fixesOnly_ofArticle (j : Job) (a : Article) :
    (PageReport.ofProcessed (.ofArticle (j.applySkipOptions a))).fixesOnly = true ↔
      a.fixesCausedChange = true ∧ a.majorChange = false := by
  rw [applySkipOptions_eq]
  simp [PageReport.ofProcessed, Processed.ofArticle]

theorem report?_eq_some_iff :
    j.report? title t = some r ↔
      ∃ p, j.process title t = .ok p ∧ p.skipReason = none ∧ PageReport.ofProcessed p = r := by
  unfold report?
  cases j.process title t with
  | error e => simp
  | ok p => cases hskip : p.skipReason <;> simp [hskip]

theorem reported (h : j.report? title t = some r) :
    ∃ before after last, j.prepare title t = .ok before ∧ j.fix before = .ok after ∧
      after.findAndReplace j.rules .afterFixes = .ok last ∧ j.Reported t r before after last := by
  obtain ⟨p, hprocess, hskip, rfl⟩ := report?_eq_some_iff.mp h
  obtain ⟨before, after, last, hbefore, hafter, hlast, rfl⟩ := process_ok hprocess
  have hstages := stages hbefore hafter hlast
  refine ⟨before, after, last, hbefore, hafter, hlast, ?_, hstages.onlyFixesChanged_iff,
    fun hwanted htext => ?_⟩
  · rw [fixesOnly_ofArticle, fixesAlone_iff hbefore hafter hlast]
  · have hunchanged : last.isUnchanged = true := by
      rw [Article.isUnchanged, hstages.initial, beq_iff_eq, htext]
    rw [ofArticle_applySkipOptions] at hskip
    simp [finalReason?, hwanted, hunchanged] at hskip

theorem mem_scan_iff {pages : List Page} :
    r ∈ j.scan allNamespaces pages ↔
      ∃ p ∈ pages, (allNamespaces = true ∨ p.namespaceId = 0) ∧
        ∃ t, p.text? = some t ∧ j.report? p.title t = some r := by
  have hpage (p : Page) : j.reportPage? allNamespaces p = some r ↔
      (allNamespaces = true ∨ p.namespaceId = 0) ∧
        ∃ t, p.text? = some t ∧ j.report? p.title t = some r := by
    unfold reportPage?
    by_cases hscanned : allNamespaces = true ∨ p.namespaceId = 0
    · rw [if_pos (by simpa using hscanned), Option.bind_eq_some_iff]
      exact (and_iff_right hscanned).symm
    · rw [if_neg (by simpa using hscanned)]
      simp [hscanned]
  simp only [scan, List.mem_filterMap, hpage]

/-- Every line of a scan is about a page of the dump. It says that there are the general fixes only
if and only if they got the original text and changed it, and neither what came before them nor a
significant fix nor a rule after them made that a major change. The article itself says so if and
only if its text is still the one that they made. -/
theorem fixesOnly_of_mem_scan {pages : List Page} (h : r ∈ j.scan allNamespaces pages) :
    ∃ p ∈ pages, ∃ t, p.text? = some t ∧ ∃ before after last,
      j.prepare p.title t = .ok before ∧ j.fix before = .ok after ∧
      after.findAndReplace j.rules .afterFixes = .ok last ∧ j.Reported t r before after last := by
  obtain ⟨p, hp, -, t, ht, hreport⟩ := mem_scan_iff.mp h
  exact ⟨p, hp, t, ht, reported hreport⟩

/-- Spells a word in another way after the fixes. -/
def lateRespelling (v : Vocabulary) : Job where
  vocabulary := v
  rules :=
    { profile := v.profile
      rules := [{
        find := "colour".toList, replace := "color".toList, minor := true, afterFixes := true }] }
  skip := { noChange := true }

/-- What the report on a page says of the fixes, and what the article does. -/
def fixesOnly? (j : Job) (title t : Text) : Option (Bool × Bool) :=
  match j.report? title t, j.run title t with
  | some r, .ok a => some (r.fixesOnly, a.onlyFixesChanged)
  | _, _ => none

/-- The report does not count a minor rule that changes what the fixes made of the text, and it
counts a significant fix. -/
theorem fixesOnly?_lateRespelling :
    ∃ v, Vocabulary.ofProfile .englishWikipedia = .ok v ∧
      ((lateRespelling v).fixesOnly? "Foo".toList "[[a ]]b colour".toList,
        (lateRespelling v).fixesOnly? "Foo".toList "a<ref>b</ref>".toList) =
        (some (true, false), some (false, true)) := by
  have hrun : (Vocabulary.ofProfile .englishWikipedia).toOption.map (fun v =>
      ((lateRespelling v).fixesOnly? "Foo".toList "[[a ]]b colour".toList,
        (lateRespelling v).fixesOnly? "Foo".toList "a<ref>b</ref>".toList)) =
        some (some (true, false), some (false, true)) := by
    decide +kernel
  exact Article.exists_ok_of_toOption_map hrun

end Job

end Wikitext
