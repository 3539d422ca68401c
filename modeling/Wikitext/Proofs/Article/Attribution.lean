import Wikitext.Proofs.Article.Log

/-!
# Changes by the general fixes alone

`onlyFixesChanged_run`: an article says that nothing but the general fixes changed it if and only if
its text is what the last general fixes that came to an end made of the original text, and another
one than that. What is done before and after them, and fixes that are given up, may change the text
back and forth.

Three fields decide: a flag, which all fixes that come to an end set anew, a copy of the text, which
only some of them make, and the text itself. `Article.Attributes` says what the first two have to do
with the last fixes of a run.
-/

namespace Wikitext

variable {v : Vocabulary} {title : Text} {skip : SkipOptions} {options : FixOptions}
  {P Q : Article → Prop} {mask : Mask} {a b c : Article} {steps : List FixStep}

-- -----------------------------------------------------------------------------------------
-- What all fixes preserve
-- -----------------------------------------------------------------------------------------

namespace Article

/-- All fixes of an article but that of the default sort key, which does more than a step. -/
def fixSteps (v : Vocabulary) (title : Text) (skip : SkipOptions) (options : FixOptions) :
    List FixStep :=
  openFixes ++ (maskedFixes v title skip options ++
    (boldFixes v title skip ++ metadataFixes v title))

/-- A property of articles that the fixes preserve, whatever the text is. -/
structure Preserved (v : Vocabulary) (title : Text) (skip : SkipOptions) (options : FixOptions)
    (P : Article → Prop) : Prop where
  withText (a : Article) (t : Text) : P a → P { a with text := t }
  runFix (a : Article) (s : FixStep) : s ∈ fixSteps v title skip options → P a → P (a.runFix s)
  fixDefaultSort (a : Article) : P a → P (a.fixDefaultSort v skip options)

theorem Preserved.and (hp : Preserved v title skip options P)
    (hq : Preserved v title skip options Q) :
    Preserved v title skip options fun a => P a ∧ Q a where
  withText a t h := ⟨hp.withText a t h.1, hq.withText a t h.2⟩
  runFix a s hs h := ⟨hp.runFix a s hs h.1, hq.runFix a s hs h.2⟩
  fixDefaultSort a h := ⟨hp.fixDefaultSort a h.1, hq.fixDefaultSort a h.2⟩

theorem Preserved.runFixes (h : Preserved v title skip options P)
    (hs : ∀ s ∈ steps, s ∈ fixSteps v title skip options) (ha : P a) : P (a.runFixes steps) := by
  induction steps generalizing a with
  | nil => exact ha
  | cons s steps ih =>
    rw [List.forall_mem_cons] at hs
    exact ih hs.2 (h.runFix a s hs.1 ha)

end Article

namespace Repairing

open Article (Preserved)

variable {r : Repair}

theorem Triple.hidePreserved (h : Preserved v title skip options P) (hr : P r.article) :
    Triple Repairing.hide r (fun _ r' => P r'.article) fun _ => True :=
  Triple.hide (fun u _ _ => h.withText _ u hr) fun _ _ => trivial

theorem Triple.addBackPreserved (h : Preserved v title skip options P) (hr : P r.article) :
    Triple Repairing.addBack r (fun _ r' => P r'.article) fun _ => True :=
  Triple.addBack (fun t _ => h.withText _ t hr) fun _ _ => trivial

/-- Fixes that come to an end take stock of an article with all the properties that they
preserve. -/
theorem Triple.settles (start : Repair) (h : Preserved v start.article.title skip options P)
    (hstart : P start.article) :
    Triple (Repairing.generalFixes v skip options) start
      (fun _ r => ∃ a, P a ∧ r.article = Article.settleFixes start.article a) fun _ => True := by
  unfold Repairing.generalFixes
  refine Triple.bind (P := fun b r => b = start ∧ r = start) ⟨rfl, rfl⟩ ?_
  rintro _ _ ⟨rfl, rfl⟩
  refine Triple.bind (P := fun _ r => P r.article) (Triple.edit (h.runFixes ?_ hstart))
    fun _ _ hr => ?_
  · exact fun s hs => List.mem_append_left _ hs
  refine Triple.bind (Triple.hidePreserved h hr) fun _ _ hr => ?_
  refine Triple.bind (P := fun _ r => P r.article) (Triple.edit (h.runFixes ?_ hr)) fun _ _ hr => ?_
  · exact fun s hs => List.mem_append_right _ (List.mem_append_left _ hs)
  refine Triple.bind (Triple.addBackPreserved h hr) fun _ _ hr => ?_
  refine Triple.bind (P := fun _ r => P r.article)
    (Triple.edit (h.fixDefaultSort _ (h.runFixes ?_ hr))) fun _ _ hr => ?_
  · exact fun s hs =>
      List.mem_append_right _ (List.mem_append_right _ (List.mem_append_left _ hs))
  refine Triple.bind (Triple.hidePreserved h hr) fun _ _ hr => ?_
  refine Triple.bind (P := fun _ r => P r.article) (Triple.edit (h.runFixes ?_ hr)) fun _ _ hr => ?_
  · exact fun s hs =>
      List.mem_append_right _ (List.mem_append_right _ (List.mem_append_right _ hs))
  refine Triple.bind (Triple.addBackPreserved h hr) fun _ r hr => ?_
  exact Triple.edit ⟨r.article, hr, rfl⟩

end Repairing

namespace Article

theorem performFixes_settles (h : Preserved v a.title skip options P) (ha : P a)
    (hend : (a.performFixes v mask skip options).1 = none) :
    ∃ a', P a' ∧ (a.performFixes v mask skip options).2.1 = settleFixes a a' := by
  obtain ⟨r, he, hsettles⟩ :=
    of_performFixes (Repairing.Triple.settles { article := a, mask } h ha) hend
  rw [he]
  exact hsettles

theorem preserved_underway (before : Article) (v : Vocabulary) (title : Text) (skip : SkipOptions)
    (options : FixOptions) : Preserved v title skip options (Underway before) where
  withText _ t h := h.withText t
  runFix _ s _ h := h.runFix s
  fixDefaultSort _ h := h.fixDefaultSort v skip options

-- -----------------------------------------------------------------------------------------
-- The last fixes of a run
-- -----------------------------------------------------------------------------------------

/-- The operation applies the general fixes, and they come to an end. -/
def Operation.completes (a : Article) : Operation → Bool
  | .fix v p options plain broad skips fixOptions =>
    (a.performFixes v { Mask.ofProfile p options with plain, broad } skips fixOptions).1.isNone
  | _ => false

/-- The texts before and after the last general fixes in a run that came to an end. -/
def lastFixes? (a : Article) : List Operation → Option (Text × Text)
  | [] => none
  | op :: ops =>
    (lastFixes? (op.apply a) ops).or
      (if op.completes a then some (a.text, (op.apply a).text) else none)

/-- What the article says of the general fixes agrees with the last ones, if there were any: with
the texts before and after them. -/
def Attributes (a : Article) : Option (Text × Text) → Prop
  | none => a.fixesCausedChange = false
  | some (before, after) =>
    (a.fixesCausedChange = true ↔ before = a.initial ∧ after ≠ a.initial) ∧
      (a.fixesCausedChange = true → a.afterFixes = some after)

/-- Nothing is said of the general fixes in `b` that was not said in `a`. -/
structure SaysSame (a b : Article) : Prop where
  initial : b.initial = a.initial
  fixesCausedChange : b.fixesCausedChange = a.fixesCausedChange
  afterFixes : b.afterFixes = a.afterFixes

namespace SaysSame

theorem refl (a : Article) : SaysSame a a := ⟨rfl, rfl, rfl⟩

theorem trans (hab : SaysSame a b) (hbc : SaysSame b c) : SaysSame a c :=
  ⟨hbc.initial.trans hab.initial, hbc.fixesCausedChange.trans hab.fixesCausedChange,
    hbc.afterFixes.trans hab.afterFixes⟩

theorem changeText (a : Article) (t reason : Text) (actor : Actor) :
    SaysSame a (a.changeText t reason actor) := by
  unfold Article.changeText
  split
  · exact .refl a
  · exact ⟨rfl, rfl, rfl⟩

theorem skipIf (h : SaysSame a b) (condition : Bool) (reason : String) :
    SaysSame a (b.skipIf condition reason) := by
  cases condition with
  | false => exact h
  | true => exact ⟨h.initial, h.fixesCausedChange, h.afterFixes⟩

theorem operate (a : Article) (t description : Text) (actor : Actor) :
    SaysSame a (a.operate t description actor) := by
  rcases a.operate_cases t description actor with he | he
  · rw [he]
    exact .refl a
  · rw [he]
    exact ⟨rfl, rfl, rfl⟩

theorem findAndReplace {rules : RuleList} (h : a.findAndReplace rules phase = .ok b) :
    SaysSame a b := by
  rcases findAndReplace_cases h with ⟨errors, rfl⟩ | ⟨t, major, summary, errors, rfl⟩
  · exact ⟨rfl, rfl, rfl⟩
  · exact ⟨rfl, rfl, rfl⟩

theorem attributes (h : SaysSame a b) (ha : a.Attributes last) : b.Attributes last := by
  cases last with
  | none => exact h.fixesCausedChange.trans ha
  | some texts =>
    simp only [Attributes] at ha ⊢
    rwa [h.initial, h.fixesCausedChange, h.afterFixes]

end SaysSame

/-- Only general fixes that come to an end say something. -/
theorem saysSame_apply {op : Operation} (h : op.completes a = false) : SaysSame a (op.apply a) := by
  cases op with
  | change t reason actor => exact .changeText a t reason actor
  | skip reason => exact ⟨rfl, rfl, rfl⟩
  | fix v p options plain broad skips fixOptions =>
    have hfailed : (Operation.fix v p options plain broad skips fixOptions).apply a = a :=
      performFixes_failed (Option.isSome_iff_ne_none.mp (Option.isNone_eq_false_iff.mp h))
    rw [hfailed]
    exact .refl a
  | replace rules phase =>
    cases h : a.findAndReplace rules phase with
    | error e => simpa only [Operation.apply, h] using SaysSame.refl a
    | ok a' => simpa only [Operation.apply, h] using SaysSame.findAndReplace h
  | category v op skipIfUnchanged => exact (SaysSame.operate a _ _ _).skipIf _ _
  | image v op skipIfUnchanged => exact (SaysSame.operate a _ _ _).skipIf _ _

/-- General fixes that come to an end say what they did. -/
theorem attributes_performFixes (hend : (a.performFixes v mask skip options).1 = none) :
    (a.performFixes v mask skip options).2.1.Attributes
      (some (a.text, (a.performFixes v mask skip options).2.1.text)) := by
  obtain ⟨a', h, he⟩ :=
    performFixes_settles (preserved_underway a v a.title skip options) (.refl a) hend
  rw [he]
  have hinitial : a'.initial = a.initial := h.initial
  simp only [Attributes, settleFixes, isUnchanged, hinitial]
  by_cases hbefore : a.text = a.initial
  · by_cases hafter : a'.text = a.initial
    · simp [hbefore, hafter]
    · simp [hbefore, hafter]
  · simp [hbefore]

theorem attributes_apply (h : a.Attributes last) (op : Operation) :
    (op.apply a).Attributes
      ((if op.completes a then some (a.text, (op.apply a).text) else none).or last) := by
  cases hend : op.completes a with
  | false => exact (saysSame_apply hend).attributes h
  | true =>
    cases op with
    | fix v p options plain broad skips fixOptions =>
      exact attributes_performFixes (Option.isNone_iff_eq_none.mp hend)
    | _ => cases hend

/-- By induction along the run. -/
theorem attributes_run (h : a.Attributes last) (ops : List Operation) :
    (a.run ops).Attributes ((lastFixes? a ops).or last) := by
  induction ops generalizing a last with
  | nil => exact h
  | cons op ops ih =>
    have hstep := ih (attributes_apply h op)
    rwa [← Option.or_assoc] at hstep

theorem onlyFixesChanged_iff (h : a.Attributes last) :
    a.onlyFixesChanged = true ↔ a.text ≠ a.initial ∧ last = some (a.initial, a.text) := by
  simp only [onlyFixesChanged, Bool.and_eq_true, beq_iff_eq]
  cases last with
  | none =>
    have hcaused : a.fixesCausedChange = false := h
    simp [hcaused]
  | some texts =>
    obtain ⟨before, after⟩ := texts
    obtain ⟨hcaused, hcopy⟩ := h
    constructor
    · rintro ⟨hc, hsame⟩
      obtain ⟨rfl, hne⟩ := hcaused.mp hc
      obtain rfl : after = a.text := by simpa [hcopy hc] using hsame
      exact ⟨hne, rfl⟩
    · rintro ⟨hne, he⟩
      cases he
      have hc := hcaused.mpr ⟨rfl, hne⟩
      exact ⟨hc, hcopy hc⟩

/-- Whatever was done to an article: that only the general fixes changed it is said if and only if
the last ones that came to an end began with the original text, and what they made of it is another
text and the one that the article has. It is never said of an unchanged article. -/
theorem onlyFixesChanged_run (title t : Text) (ops : List Operation) :
    let a := (ofText title t).run ops
    (a.onlyFixesChanged = true ↔
      a.text ≠ t ∧ lastFixes? (ofText title t) ops = some (t, a.text)) ∧
    ¬ (a.onlyFixesChanged = true ∧ a.isUnchanged = true) := by
  intro a
  have hstart : (ofText title t).Attributes none := rfl
  have hrun := attributes_run hstart ops
  rw [Option.or_none] at hrun
  have hinitial : a.initial = t := (logged_run (ofText title t) ops).initial
  have h := onlyFixesChanged_iff hrun
  rw [show (ofText title t).run ops = a from rfl, hinitial] at h
  refine ⟨h, ?_⟩
  rintro ⟨honly, hunchanged⟩
  rw [isUnchanged, beq_iff_eq, hinitial] at hunchanged
  exact (h.mp honly).1 hunchanged

end Article

end Wikitext
