import Wikitext.Article.Fixes

/-!
# Fixes that are given up

`performFixes_rollsBack`: when masking fails, the general fixes leave the
article as it was before them, in every field, and the mask hides nothing;
when they come to an end, the mask for fixes hides nothing either.

The rollback sets only some of the fields. What carries the proof is that the
work, wherever it stops, has not touched the others and has only added to the
log (`Underway`).
-/

namespace Wikitext

-- -----------------------------------------------------------------------------------------
-- Running repair work
-- -----------------------------------------------------------------------------------------

namespace Repairing

theorem run_bind (x : Repairing α) (f : α → Repairing β) (r : Repair) :
    (x >>= f).run r = match x.run r with
      | (.ok a, r') => (f a).run r'
      | (.error e, r') => (.error e, r') := by
  simp only [bind, ExceptT.bind, ExceptT.mk, ExceptT.run, StateT.bind, ExceptT.bindCont]
  rcases x r with ⟨_ | _, _⟩ <;> rfl

theorem run_get (r : Repair) : (get : Repairing Repair).run r = (.ok r, r) := rfl

theorem run_set (r r' : Repair) : (set r' : Repairing PUnit).run r = (.ok (), r') := rfl

theorem run_lift (x : Except MaskError α) (r : Repair) : (liftM x : Repairing α).run r = (x, r) :=
  rfl

theorem run_hide (r : Repair) :
    hide.run r = match r.mask.hide r.article.text with
      | .ok (t, m) => (.ok (), { article := { r.article with text := t }, mask := m })
      | .error e => (.error e, r) := by
  simp only [hide, run_bind, run_get, run_lift]
  cases r.mask.hide r.article.text <;> rfl

theorem run_addBack (r : Repair) :
    addBack.run r = match (r.mask.addBack r.article.text).1 with
      | .ok t =>
        (.ok (), { article := { r.article with text := t }, mask := { r.mask with plain := #[] } })
      | .error e => (.error e, { r with mask := { r.mask with plain := #[] } }) := by
  simp only [addBack, run_bind, run_get, run_set, run_lift, Mask.addBack]
  cases Mask.restore .plain r.mask.plain r.article.text <;> rfl

/-- Started from `r`, the work ends as `Q` says or is given up as `E` says. -/
def Triple (x : Repairing α) (r : Repair) (Q : α → Repair → Prop) (E : Repair → Prop) : Prop :=
  match x.run r with
  | (.ok a, r') => Q a r'
  | (.error _, r') => E r'

theorem Triple.bind {x : Repairing α} {f : α → Repairing β} {P : α → Repair → Prop}
    (hx : Triple x r P E) (hf : ∀ a r', P a r' → Triple (f a) r' Q E) :
    Triple (x >>= f) r Q E := by
  unfold Triple at hx ⊢
  rw [run_bind]
  split at hx
  · exact hf _ _ hx
  · exact hx

theorem Triple.mono (h : Triple x r Q E) (he : ∀ r', E r' → E' r') : Triple x r Q E' := by
  unfold Triple at h ⊢
  split at h
  · exact h
  · exact he _ h

theorem Triple.edit {Q : Unit → Repair → Prop} (h : Q () { r with article := f r.article }) :
    Triple (edit f) r Q E := h

theorem Triple.hide {Q : Unit → Repair → Prop}
    (hok : ∀ u m, r.mask.hide r.article.text = .ok (u, m) →
      Q () { article := { r.article with text := u }, mask := m })
    (herror : ∀ e, r.mask.hide r.article.text = .error e → E r) : Triple hide r Q E := by
  unfold Triple
  rw [run_hide]
  cases he : r.mask.hide r.article.text with
  | error e => exact herror e he
  | ok result => exact hok _ _ he

theorem Triple.addBack {Q : Unit → Repair → Prop}
    (hok : ∀ t, (r.mask.addBack r.article.text).1 = .ok t →
      Q () { article := { r.article with text := t }, mask := { r.mask with plain := #[] } })
    (herror : ∀ e, (r.mask.addBack r.article.text).1 = .error e →
      E { r with mask := { r.mask with plain := #[] } }) : Triple addBack r Q E := by
  unfold Triple
  rw [run_addBack]
  cases he : (r.mask.addBack r.article.text).1 with
  | error e => exact herror e he
  | ok t => exact hok t he

end Repairing

-- -----------------------------------------------------------------------------------------
-- What a fix can do
-- -----------------------------------------------------------------------------------------

namespace Article

/-- A fix that finds nothing to do leaves the article as it is, or asks to skip it; any other changes
the text, says so in the log, and is remembered if it is significant. -/
theorem runFix_cases (a : Article) (s : FixStep) :
    (s.fix a.text = a.text ∧
        (a.runFix s = a ∨ ∃ reason ∈ s.skipReason, a.runFix s = a.skip reason.toList)) ∨
      (s.fix a.text ≠ a.text ∧ a.runFix s =
        { a with
          text := s.fix a.text
          log := a.log ++ [{ reason := s.reason.toList, actor := .generalFixes }]
          significantChange := a.significantChange || s.significant }) := by
  unfold runFix
  by_cases ht : s.fix a.text = a.text
  · rw [if_pos (by simpa using ht)]
    cases s.skipReason with
    | none => exact .inl ⟨ht, .inl rfl⟩
    | some reason => exact .inl ⟨ht, .inr ⟨reason, rfl, rfl⟩⟩
  · rw [if_neg (by simpa using ht)]
    have hc : a.changeText (s.fix a.text) s.reason.toList .generalFixes =
        { a with
          text := s.fix a.text
          log := a.log ++ [{ reason := s.reason.toList, actor := .generalFixes }] } :=
      if_neg (by simpa using ht)
    rw [hc]
    exact .inr ⟨ht, rfl⟩

/-- The fixes have not come to an end: what is set then is as it was, and the log has at most
grown. -/
structure Underway (before a : Article) : Prop where
  title : a.title = before.title
  initial : a.initial = before.initial
  summary : a.summary = before.summary
  afterFixes : a.afterFixes = before.afterFixes
  fixesCausedChange : a.fixesCausedChange = before.fixesCausedChange
  ruleErrors : a.ruleErrors = before.ruleErrors
  log : before.log <+: a.log

namespace Underway

variable {before a : Article}

theorem refl (a : Article) : Underway a a := ⟨rfl, rfl, rfl, rfl, rfl, rfl, List.prefix_rfl⟩

theorem withText (h : Underway before a) (t : Text) : Underway before { a with text := t } :=
  ⟨h.title, h.initial, h.summary, h.afterFixes, h.fixesCausedChange, h.ruleErrors, h.log⟩

theorem skip (h : Underway before a) (reason : Text) : Underway before (a.skip reason) :=
  ⟨h.title, h.initial, h.summary, h.afterFixes, h.fixesCausedChange, h.ruleErrors, h.log⟩

theorem skipIf (h : Underway before a) (condition : Bool) (reason : String) :
    Underway before (a.skipIf condition reason) := by
  cases condition with
  | false => exact h
  | true => exact h.skip _

theorem runFix (h : Underway before a) (s : FixStep) : Underway before (a.runFix s) := by
  rcases a.runFix_cases s with ⟨-, he | ⟨reason, -, he⟩⟩ | ⟨-, he⟩
  · rwa [he]
  · rw [he]
    exact h.skip _
  · rw [he]
    exact ⟨h.title, h.initial, h.summary, h.afterFixes, h.fixesCausedChange, h.ruleErrors,
      h.log.trans (List.prefix_append _ _)⟩

theorem runFixes (h : Underway before a) (steps : List FixStep) :
    Underway before (a.runFixes steps) := by
  induction steps generalizing a with
  | nil => exact h
  | cons s steps ih => exact ih (h.runFix s)

theorem fixDefaultSort (h : Underway before a) (v : Vocabulary) (skip : SkipOptions)
    (options : FixOptions) : Underway before (a.fixDefaultSort v skip options) :=
  (h.runFix _).skipIf _ _

/-- Every field that the rollback leaves alone was left alone by the fixes. -/
theorem rollBack_eq (h : Underway before a) : a.rollBack before = before := by
  cases a
  cases before
  obtain ⟨hti, hi, hs, ha, hf, hr, hl⟩ := h
  simp only at hti hi hs ha hf hr hl
  simp only [rollBack, hti, hi, hs, ha, hf, hr, List.prefix_iff_eq_take.mp hl |>.symm]

end Underway

end Article

/-- A mask hides a text only if it hides nothing yet. -/
theorem Mask.hide_ok {m : Mask} (h : m.hide t = .ok (u, m')) :
    m.plain = #[] ∧ ∃ spans, m' = { m with plain := spans } := by
  unfold Mask.hide at h
  split at h
  · cases h
  · rename_i hr
    cases h
    refine ⟨?_, _, rfl⟩
    cases he : m.plain.isEmpty with
    | true => exact Array.isEmpty_iff.mp he
    | false => simp [Mask.refusal?, he] at hr

-- -----------------------------------------------------------------------------------------
-- The fixes as a whole
-- -----------------------------------------------------------------------------------------

namespace Repair

/-- What work that began at `start` has come to: the fixes are under way, and of the mask only the
stretches that it hides from the fixes have changed. -/
structure From (start r : Repair) : Prop where
  article : Article.Underway start.article r.article
  mask : { r.mask with plain := #[] } = { start.mask with plain := #[] }

end Repair

namespace Repairing

open Repair (From)

variable {start r : Repair} {f : Article → Article}

theorem Triple.editFrom (h : From start r) (hf : Article.Underway start.article (f r.article)) :
    Triple (Repairing.edit f) r (fun _ r' => From start r') (From start) :=
  Triple.edit ⟨hf, h.mask⟩

theorem Triple.hideFrom (h : From start r) :
    Triple Repairing.hide r (fun _ r' => From start r') (From start) := by
  refine Triple.hide (fun u m hhide => ⟨h.article.withText u, Eq.trans ?_ h.mask⟩) fun _ _ => h
  obtain ⟨-, spans, rfl⟩ := Mask.hide_ok hhide
  rfl

theorem Triple.addBackFrom (h : From start r) :
    Triple Repairing.addBack r (fun _ r' => From start r' ∧ r'.mask.plain = #[]) (From start) :=
  Triple.addBack (fun t _ => ⟨⟨h.article.withText t, h.mask⟩, rfl⟩) fun _ _ => ⟨h.article, h.mask⟩

theorem Triple.generalFixes (start : Repair) (v : Vocabulary) (skip : SkipOptions)
    (options : FixOptions) :
    Triple (generalFixes v skip options) start
      (fun _ r => r.mask = { start.mask with plain := #[] }) (From start) := by
  unfold Repairing.generalFixes
  refine Triple.bind (P := fun b r => b = start ∧ r = start) ⟨rfl, rfl⟩ ?_
  rintro _ _ ⟨rfl, rfl⟩
  rename_i start
  have h : From start start := ⟨.refl _, rfl⟩
  refine Triple.bind (Triple.editFrom h (h.article.runFixes _)) fun _ _ h => ?_
  refine Triple.bind (Triple.hideFrom h) fun _ _ h => ?_
  refine Triple.bind (Triple.editFrom h (h.article.runFixes _)) fun _ _ h => ?_
  refine Triple.bind (Triple.addBackFrom h) fun _ _ ⟨h, _⟩ => ?_
  refine Triple.bind (Triple.editFrom h ((h.article.runFixes _).fixDefaultSort _ _ _))
    fun _ _ h => ?_
  refine Triple.bind (Triple.hideFrom h) fun _ _ h => ?_
  refine Triple.bind (Triple.editFrom h (h.article.runFixes _)) fun _ _ h => ?_
  refine Triple.bind (Triple.addBackFrom h) fun _ _ ⟨h, hp⟩ => Triple.edit ?_
  rw [← h.mask, ← hp]

end Repairing

namespace Article

theorem rollBack_generalFixes (a : Article) (v : Vocabulary) (mask : Mask) (skip : SkipOptions)
    (options : FixOptions) :
    Repairing.Triple (Repairing.generalFixes v skip options) { article := a, mask }
      (fun _ r => r.mask = { mask with plain := #[] })
      (fun r => r.article.rollBack a = a ∧ r.mask.reset = { mask with plain := #[], broad := #[] }) := by
  refine (Repairing.Triple.generalFixes { article := a, mask } v skip options).mono ?_
  exact fun r h => ⟨h.article.rollBack_eq, congrArg ({ · with broad := #[] }) h.mask⟩

/-- The fixes of an article end as the general fixes do, or are rolled back from where those are
given up. -/
theorem performFixes_cases {skip : SkipOptions} {Q : Unit → Repair → Prop}
    (h : Repairing.Triple (Repairing.generalFixes v skip options) { article := a, mask } Q E) :
    (∃ r, a.performFixes v mask skip options = (none, r.article, r.mask) ∧ Q () r) ∨
      ∃ e r, a.performFixes v mask skip options =
        (some e, r.article.rollBack a, r.mask.reset) ∧ E r := by
  unfold Repairing.Triple at h
  unfold performFixes
  split at h
  · rename_i r he
    rw [he]
    exact .inl ⟨r, rfl, h⟩
  · rename_i e r he
    rw [he]
    exact .inr ⟨e, r, rfl, h⟩

theorem of_performFixes {skip : SkipOptions} {Q : Unit → Repair → Prop}
    (h : Repairing.Triple (Repairing.generalFixes v skip options) { article := a, mask } Q E)
    (hend : (a.performFixes v mask skip options).1 = none) :
    ∃ r, a.performFixes v mask skip options = (none, r.article, r.mask) ∧ Q () r := by
  rcases performFixes_cases h with hr | ⟨e, r, he, -⟩
  · exact hr
  · rw [he] at hend
    cases hend

/-- Fixes that fail leave the article as it was. -/
theorem performFixes_failed {a : Article} {skip : SkipOptions}
    (h : (a.performFixes v mask skip options).1 ≠ none) :
    (a.performFixes v mask skip options).2.1 = a := by
  rcases performFixes_cases (a.rollBack_generalFixes v mask skip options) with
    ⟨r, he, -⟩ | ⟨e, r, he, hrolled⟩
  · rw [he] at h
    exact (h rfl).elim
  · rw [he]
    exact hrolled.1

/-- Fixes that fail leave the article as it was and nothing hidden; fixes that succeed leave
nothing hidden from fixes. -/
theorem performFixes_rollsBack (a : Article) (v : Vocabulary) (mask : Mask) (skip : SkipOptions)
    (options : FixOptions) :
    match a.performFixes v mask skip options with
    | (some _, a', mask') => a' = a ∧ mask' = { mask with plain := #[], broad := #[] }
    | (none, _, mask') => mask' = { mask with plain := #[] } := by
  rcases performFixes_cases (a.rollBack_generalFixes v mask skip options) with
    ⟨r, he, h⟩ | ⟨e, r, he, h⟩
  · rw [he]
    exact h
  · rw [he]
    exact h

end Article

end Wikitext
