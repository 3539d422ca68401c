import Wikitext.Article.Operation
import Wikitext.Proofs.Article.Rollback
import Wikitext.Proofs.Mask.RoundTrip

/-!
# What the log explains

`run_logged`: whatever is done to an article, entries that are in its log stay
there, and the text is another one only if an entry was added. An article with
nothing in its log therefore has the text that it began with.

The general fixes are the hard case, since they put a masked text in the place
of the text and do not log that. While the text is masked, the invariant speaks
of the text that would be added back (`Repair.Masked`).
-/

namespace Wikitext

-- -----------------------------------------------------------------------------------------
-- What operations and rules can do
-- -----------------------------------------------------------------------------------------

namespace Article

variable {a b : Article}

theorem operate_cases (a : Article) (t description : Text) (actor : Actor) :
    a.operate t description actor = a ∨
      a.operate t description actor =
        { a with
          text := t
          log := a.log ++ [{ reason := description, actor }]
          summary := a.summary.push description
          majorChange := true } := by
  unfold operate
  by_cases ht : t = a.text
  · exact .inl (if_pos (by simpa using ht))
  · rw [if_neg (by simpa using ht), changeText, if_neg (by simpa using ht)]
    exact .inr rfl

/-- Rules that run report their errors; if they change the text, they say so in the log, and the
change may be a major one. -/
theorem findAndReplace_cases {rules : RuleList} (h : a.findAndReplace rules phase = .ok b) :
    (∃ errors, b = { a with ruleErrors := errors }) ∨
      ∃ t major summary errors, b =
        { a with
          text := t
          log := a.log ++ [{ reason := "find and replace".toList, actor := .findAndReplace }]
          summary
          majorChange := a.majorChange || major
          ruleErrors := errors } := by
  unfold findAndReplace at h
  cases ho : rules.apply phase a.title a.text with
  | error e => simp [ho, bind, Except.bind] at h
  | ok o =>
    simp only [ho, bind, Except.bind, pure, Except.pure] at h
    split at h
    · cases h
      exact .inl ⟨_, rfl⟩
    · rename_i ht
      cases h
      rw [changeText, if_neg ht]
      exact .inr ⟨_, _, _, _, rfl⟩

end Article

-- -----------------------------------------------------------------------------------------
-- Logged changes
-- -----------------------------------------------------------------------------------------

namespace Article

/-- A log that grows twice ends as it began if and only if it grew neither time. -/
theorem log_eq_iff {a b c : Article} (hab : a.log <+: b.log) (hbc : b.log <+: c.log) :
    c.log = a.log ↔ b.log = a.log ∧ c.log = b.log := by
  constructor
  · intro he
    have hback : b.log <+: a.log := he ▸ hbc
    have hb : b.log = a.log := hback.eq_of_length_le hab.length_le
    exact ⟨hb, he.trans hb.symm⟩
  · rintro ⟨hb, hc⟩
    exact hc.trans hb

/-- `b` comes from `a` by changes that are in the log of `b`. -/
structure Logged (a b : Article) : Prop where
  initial : b.initial = a.initial
  log : a.log <+: b.log
  text : b.log = a.log → b.text = a.text

namespace Logged

variable {a b c : Article}

theorem refl (a : Article) : Logged a a := ⟨rfl, List.prefix_rfl, fun _ => rfl⟩

theorem trans (hab : Logged a b) (hbc : Logged b c) : Logged a c := by
  refine ⟨hbc.initial.trans hab.initial, hab.log.trans hbc.log, fun he => ?_⟩
  obtain ⟨hb, hc⟩ := (log_eq_iff hab.log hbc.log).mp he
  exact (hbc.text hc).trans (hab.text hb)

/-- A longer log explains any text. -/
theorem of_entry (hi : b.initial = a.initial) (hl : b.log = a.log ++ [entry]) : Logged a b :=
  ⟨hi, hl ▸ List.prefix_append _ _, fun he => by simp [hl] at he⟩

theorem changeText (a : Article) (t reason : Text) (actor : Actor) :
    Logged a (a.changeText t reason actor) := by
  unfold Article.changeText
  split
  · exact .refl a
  · exact .of_entry rfl rfl

theorem skip (a : Article) (reason : Text) : Logged a (a.skip reason) :=
  ⟨rfl, List.prefix_rfl, fun _ => rfl⟩

theorem skipIf (a : Article) (condition : Bool) (reason : String) :
    Logged a (a.skipIf condition reason) := by
  cases condition with
  | false => exact .refl a
  | true => exact .skip a _

theorem operate (a : Article) (t description : Text) (actor : Actor) :
    Logged a (a.operate t description actor) := by
  rcases a.operate_cases t description actor with he | he
  · rw [he]
    exact .refl a
  · rw [he]
    exact .of_entry rfl rfl

theorem changeCategory (a : Article) (v : Vocabulary) (op : CategoryOperation)
    (skipIfUnchanged : Bool) : Logged a (a.changeCategory v op skipIfUnchanged) :=
  (operate a _ _ _).trans (skipIf _ _ _)

theorem changeImage (a : Article) (v : Vocabulary) (op : ImageOperation)
    (skipIfUnchanged : Bool) : Logged a (a.changeImage v op skipIfUnchanged) :=
  (operate a _ _ _).trans (skipIf _ _ _)

theorem findAndReplace {rules : RuleList} (h : a.findAndReplace rules phase = .ok b) :
    Logged a b := by
  rcases findAndReplace_cases h with ⟨errors, rfl⟩ | ⟨t, major, summary, errors, rfl⟩
  · exact ⟨rfl, List.prefix_rfl, fun _ => rfl⟩
  · exact .of_entry rfl rfl

theorem runFix (a : Article) (s : FixStep) : Logged a (a.runFix s) := by
  rcases a.runFix_cases s with ⟨-, he | ⟨reason, -, he⟩⟩ | ⟨-, he⟩
  · rw [he]
    exact .refl a
  · rw [he]
    exact .skip a _
  · rw [he]
    exact .of_entry rfl rfl

theorem runFixes (a : Article) (steps : List FixStep) : Logged a (a.runFixes steps) := by
  induction steps generalizing a with
  | nil => exact .refl a
  | cons s steps ih => exact (runFix a s).trans (ih _)

theorem fixDefaultSort (a : Article) (v : Vocabulary) (skip : SkipOptions) (options : FixOptions) :
    Logged a (a.fixDefaultSort v skip options) :=
  (runFix a _).trans (skipIf _ _ _)

theorem settleFixes (before a : Article) : Logged a (Article.settleFixes before a) :=
  ⟨rfl, List.prefix_rfl, fun _ => rfl⟩

end Logged

end Article

-- -----------------------------------------------------------------------------------------
-- Fixes on a masked text
-- -----------------------------------------------------------------------------------------

open Article (Logged)

namespace Repair

/-- The mask is one for a wiki. -/
def Proper (m : Mask) : Prop := ∃ p, m.images = Region.images p

/-- The text is in the open, and every change since `before` is in the log. -/
structure Open (before : Article) (r : Repair) : Prop where
  article : Logged before r.article
  mask : Proper r.mask

/-- The text is masked. Article `a` had it in the open, as the text that adding back gives when
nothing is done to the masked text `u`. -/
def Masked (before : Article) (r : Repair) : Prop :=
  ∃ (a : Article) (u : Text), Logged before a ∧ (r.mask.addBack u).1 = .ok a.text ∧
    Logged { a with text := u } r.article ∧ Proper r.mask

end Repair

namespace Repairing

open Repair (Open Masked Proper)

variable {before : Article} {r : Repair} {f : Article → Article}

theorem Triple.editOpen (hf : ∀ a, Logged a (f a)) (h : Open before r) :
    Triple (Repairing.edit f) r (fun _ r' => Open before r') fun _ => True :=
  Triple.edit ⟨h.article.trans (hf _), h.mask⟩

theorem Triple.editMasked (hf : ∀ a, Logged a (f a)) (h : Masked before r) :
    Triple (Repairing.edit f) r (fun _ r' => Masked before r') fun _ => True := by
  obtain ⟨a, u, ha, hu, hr, hm⟩ := h
  exact Triple.edit ⟨a, u, ha, hu, hr.trans (hf _), hm⟩

theorem Triple.hideOpen (h : Open before r) :
    Triple Repairing.hide r (fun _ r' => Masked before r') fun _ => True := by
  refine Triple.hide (fun u m hhide => ?_) fun _ _ => trivial
  obtain ⟨hp, spans, rfl⟩ := Mask.hide_ok hhide
  have hback := (Mask.roundTrip_hide h.mask hp r.article.text).2 _ _ hhide
  exact ⟨r.article, u, h.article, congrArg Prod.fst hback, .refl _, h.mask⟩

theorem Triple.addBackMasked (h : Masked before r) :
    Triple Repairing.addBack r (fun _ r' => Open before r') fun _ => True := by
  obtain ⟨a, u, ha, hu, hr, hm⟩ := h
  refine Triple.addBack (fun t hback => ?_) fun _ _ => trivial
  refine ⟨ha.trans ⟨hr.initial, hr.log, fun hl => ?_⟩, hm⟩
  have hs : r.article.text = u := hr.text hl
  rw [hs, hu] at hback
  exact (Except.ok.inj hback).symm

theorem Triple.logged (a : Article) (hm : Proper mask) (v : Vocabulary) (skip : SkipOptions)
    (options : FixOptions) :
    Triple (Repairing.generalFixes v skip options) { article := a, mask }
      (fun _ r => Logged a r.article) fun _ => True := by
  unfold Repairing.generalFixes
  refine Triple.bind (P := fun b r => b.article = a ∧ Open a r) ⟨rfl, .refl a, hm⟩ ?_
  rintro b r ⟨rfl, h⟩
  refine Triple.bind (.editOpen (.runFixes · _) h) fun _ _ h => ?_
  refine Triple.bind (.hideOpen h) fun _ _ h => ?_
  refine Triple.bind (.editMasked (.runFixes · _) h) fun _ _ h => ?_
  refine Triple.bind (.addBackMasked h) fun _ _ h => ?_
  refine Triple.bind (.editOpen (fun a => (Logged.runFixes a _).trans (.fixDefaultSort _ _ _ _)) h)
    fun _ _ h => ?_
  refine Triple.bind (.hideOpen h) fun _ _ h => ?_
  refine Triple.bind (.editMasked (.runFixes · _) h) fun _ _ h => ?_
  refine Triple.bind (.addBackMasked h) fun _ _ h => ?_
  exact Triple.edit (h.article.trans (.settleFixes _ _))

end Repairing

theorem Article.Logged.performFixes (a : Article) (v : Vocabulary) (hm : Repair.Proper mask)
    (skip : SkipOptions) (options : FixOptions) :
    Logged a (a.performFixes v mask skip options).2.1 := by
  rcases hend : (a.performFixes v mask skip options).1 with _ | e
  · obtain ⟨r, he, hlogged⟩ := of_performFixes (Repairing.Triple.logged a hm v skip options) hend
    rw [he]
    exact hlogged
  · rw [performFixes_failed (by simp [hend])]
    exact .refl a

-- -----------------------------------------------------------------------------------------
-- Runs of operations
-- -----------------------------------------------------------------------------------------

namespace Article

/-- What can be done to an article. The general fixes get a mask that may be hiding anything
already. -/
inductive Operation
  | change (t reason : Text) (actor : Actor)
  | skip (reason : Text)
  | fix (v : Vocabulary) (p : Profile) (options : Mask.Options) (plain broad : Array Text)
      (skips : SkipOptions) (fixOptions : FixOptions)
  | replace (rules : RuleList) (phase : Phase)
  | category (v : Vocabulary) (op : CategoryOperation) (skipIfUnchanged : Bool)
  | image (v : Vocabulary) (op : ImageOperation) (skipIfUnchanged : Bool)

/-- The article after an operation, also after one that failed. -/
def Operation.apply (a : Article) : Operation → Article
  | .change t reason actor => a.changeText t reason actor
  | .skip reason => a.skip reason
  | .fix v p options plain broad skips fixOptions =>
    (a.performFixes v { Mask.ofProfile p options with plain, broad } skips fixOptions).2.1
  | .replace rules phase =>
    match a.findAndReplace rules phase with
    | .ok a' => a'
    | .error _ => a
  | .category v op skipIfUnchanged => a.changeCategory v op skipIfUnchanged
  | .image v op skipIfUnchanged => a.changeImage v op skipIfUnchanged

def run (a : Article) (ops : List Operation) : Article := ops.foldl Operation.apply a

theorem logged_apply (a : Article) (op : Operation) : Logged a (op.apply a) := by
  cases op with
  | change t reason actor => exact .changeText a t reason actor
  | skip reason => exact .skip a reason
  | fix v p options plain broad skips fixOptions =>
    exact .performFixes a v ⟨p, rfl⟩ skips fixOptions
  | replace rules phase =>
    cases h : a.findAndReplace rules phase with
    | error e => simpa only [Operation.apply, h] using Logged.refl a
    | ok a' => simpa only [Operation.apply, h] using Logged.findAndReplace h
  | category v op skipIfUnchanged => exact .changeCategory a v op skipIfUnchanged
  | image v op skipIfUnchanged => exact .changeImage a v op skipIfUnchanged

theorem logged_run (a : Article) (ops : List Operation) : Logged a (a.run ops) := by
  induction ops generalizing a with
  | nil => exact .refl a
  | cons op ops ih => exact (logged_apply a op).trans (ih _)

/-- For runs that the kernel evaluates with the vocabulary of a given wiki. -/
theorem exists_ok_of_toOption_map {x : Except ε α} {f : α → β} (h : x.toOption.map f = some b) :
    ∃ a, x = .ok a ∧ f a = b := by
  cases x with
  | error e => cases h
  | ok a => exact ⟨a, rfl, Option.some.inj h⟩

/-- No operation takes back or alters an entry of the log, and one that adds none leaves the text
as it is. So the text of an article is the original one as long as the log is empty. -/
theorem run_logged :
    (∀ (a : Article) (op : Operation), a.log <+: (op.apply a).log ∧
      ((op.apply a).log = a.log → (op.apply a).text = a.text)) ∧
    ∀ (title t : Text) (ops : List Operation), let a := (ofText title t).run ops
      a.initial = t ∧ (a.log = [] → a.text = a.initial) := by
  refine ⟨fun a op => ⟨(logged_apply a op).log, (logged_apply a op).text⟩, fun title t ops => ?_⟩
  have h := logged_run (ofText title t) ops
  exact ⟨h.initial, fun he => (h.text he).trans h.initial.symm⟩

end Article

end Wikitext
