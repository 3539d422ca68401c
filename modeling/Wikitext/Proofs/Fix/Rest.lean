import Wikitext.Proofs.Fix.HeadingForm
import Wikitext.Proofs.Fix.Shrinking
import Wikitext.Proofs.Fix.Syntax
import Wikitext.Proofs.Pattern.Outline

/-!
# Fixes at rest

Six fixes repeat a pass of their own (`Repeated`). On every text the passes come to rest, since each
of them uses something up. A fix makes only a bounded number of passes, so it is at rest exactly if
these are enough (`repeated_rests_iff_enough`); brackets nested in brackets show that no fixed bound
is enough for all texts (`emptyConstructs_nested`).
-/

namespace Wikitext.Fix

open Pattern
open Function (IsFixedPt)

/-- The fixes that repeat a pass. -/
inductive Repeated
  | headings
  | links
  | emptyConstructs
  | markup
  | simplifiedTags
  | punctuation

namespace Repeated

variable (v : Vocabulary) (title : Text)

def apply : Repeated → Text → Text
  | .headings => Fix.headings title
  | .links => Fix.links title
  | .emptyConstructs => Fix.emptyConstructs
  | .markup => Fix.markup v
  | .simplifiedTags => Fix.simplifiedTags
  | .punctuation => punctuationBeforeRefs

/-- A single pass. -/
def pass : Repeated → Text → Text
  | .headings => fun t => dropTitleHeading title (heading.replaceAll normalHeading t)
  | .links =>
    let targets t := encodedSpaces.apply (underscores.apply t)
    if title.isEmpty then targets
    else fun t => (linkToSelf title).replaceAll unlink (targets t)
  | .emptyConstructs => emptyConstruct.apply
  | .markup => fun t =>
    v.templatePrefix.replaceAll (fun _ => "\x7b\x7b".toList) (replaceUntilStable markupTable t)
  | .simplifiedTags => fun t => emptyRef.apply (emptyNamedRef.apply t)
  | .punctuation => refsThenPunctuation.replaceAll punctuationFirst

theorem apply_eq (f : Repeated) : f.apply v title = untilStable (f.pass v title) := by
  cases f with
  | links =>
    funext t
    rw [apply, Fix.links, pass]
    dsimp only
    split <;> rfl
  | _ => rfl

/-- What a pass uses up. -/
def spare : Repeated → Text → Nat
  | .headings => lineSum effort
  | .links | .emptyConstructs | .simplifiedTags => ink
  | .markup => excess
  | .punctuation => delay

theorem usesUp_pass {v : Vocabulary} (hv : Vocabulary.ofProfile p = .ok v) (f : Repeated) :
    UsesUp f.spare (f.pass v title) := by
  cases f with
  | headings => exact usesUp_headings title
  | links =>
    change UsesUp ink (if title.isEmpty then _ else _)
    split
    · exact usesUp_targets
    · exact (usesUp_linkToSelf title).comp usesUp_targets
  | emptyConstructs => exact usesUp_emptyConstruct
  | markup => exact usesUp_markup hv
  | simplifiedTags => exact usesUp_simplifiedTags
  | punctuation => exact usesUp_punctuation

end Repeated

/-- Where malformed markup is at rest, neither the table nor the prefixes give anything to do. -/
theorem markup_rests (hv : Vocabulary.ofProfile p = .ok v)
    (h : IsFixedPt (Repeated.markup.pass v title) t) :
    replaceOnce markupTable t = t ∧ v.templatePrefix.replaceAll (fun _ => "\x7b\x7b".toList) t = t := by
  obtain ⟨htable, hprefix⟩ :=
    (usesUp_templatePrefix hv).both_rest usesUp_markupTable.untilStable h
  rw [untilStable_eq_iterate] at htable
  exact ⟨usesUp_markupTable.fixed_of_iterate_fixed htable, hprefix⟩

/-- On every text the passes of a fix come to rest, and the fix gives the text after `maxPasses` of
them. This text is at rest, and the fix changes nothing on it, exactly if as many passes are
enough. -/
theorem repeated_rests_iff_enough {p : Profile} {v : Vocabulary}
    (hv : Vocabulary.ofProfile p = .ok v) (f : Repeated) (title t : Text) :
    let pass := f.pass v title
    let fixed := f.apply v title t
    (∃ n, IsFixedPt pass (pass^[n] t)) ∧ fixed = pass^[maxPasses] t ∧
      (IsFixedPt pass fixed ↔ Enough pass t) ∧
      (f.apply v title fixed = fixed ↔ Enough pass t) := by
  have huses := Repeated.usesUp_pass title hv f
  obtain ⟨n, -, hrest⟩ := huses.comes_to_rest t
  dsimp only
  rw [Repeated.apply_eq]
  exact ⟨⟨n, hrest⟩, untilStable_eq_iterate _ t, rests_iff_enough, huses.again_iff_enough⟩

/-- An empty template in an empty link: two passes and a third one that changes nothing. -/
theorem emptyConstructs_rests : ∃ v, Vocabulary.ofProfile .englishWikipedia = .ok v ∧
    IsFixedPt (Repeated.emptyConstructs.pass v [])
      (Repeated.emptyConstructs.apply v [] "a[[\x7b\x7b|\x7d\x7d]]b".toList) ∧
    Fix.emptyConstructs "a[[\x7b\x7b|\x7d\x7d]]b".toList = "ab".toList := by
  cases hv : Vocabulary.ofProfile .englishWikipedia with
  | error e =>
    have hok : (Vocabulary.ofProfile .englishWikipedia).toOption.isSome = true := by decide +kernel
    rw [hv] at hok
    cases hok
  | ok v =>
    have hrests := (repeated_rests_iff_enough hv .emptyConstructs []
      "a[[\x7b\x7b|\x7d\x7d]]b".toList).2.2.1
    have htwo : emptyConstruct.apply (emptyConstruct.apply^[2] "a[[\x7b\x7b|\x7d\x7d]]b".toList) =
        emptyConstruct.apply^[2] "a[[\x7b\x7b|\x7d\x7d]]b".toList := by decide +kernel
    exact ⟨v, rfl, hrests.mpr ⟨2, by decide, htwo⟩, by decide +kernel⟩

-- -----------------------------------------------------------------------------------------
-- Brackets in brackets
-- -----------------------------------------------------------------------------------------

/-- An empty link in an empty link, and so on. -/
def nested (n : Nat) : Text := List.replicate (2 * n) '[' ++ List.replicate (2 * n) ']'

theorem nested_succ (n : Nat) : nested (n + 1) =
    List.replicate (2 * n) '[' ++ ("[[]]".toList ++ List.replicate (2 * n) ']') := by
  have hopen : List.replicate (2 * (n + 1)) '[' = List.replicate (2 * n) '[' ++ "[[".toList := by
    rw [Nat.mul_succ, List.replicate_add]
    rfl
  have hclose : List.replicate (2 * (n + 1)) ']' = "]]".toList ++ List.replicate (2 * n) ']' := by
    rw [Nat.mul_succ, Nat.add_comm, List.replicate_add]
    rfl
  rw [nested, hopen, hclose]
  simp

/-- What the search looks for. -/
def emptyWord : Pattern :=
  lit "[[" ++ gap ++ opt (lit "|") ++ gap ++ lit "]]" <|>
    lit "\x7b\x7b" ++ gap ++ opt (lit "|") ++ gap ++ lit "\x7d\x7d"

theorem lexical_emptyWord : emptyWord.Lexical := ⟨rfl, rfl, rfl⟩

theorem mem_nested (h : c ∈ nested n) : c = '[' ∨ c = ']' := by
  rw [nested, List.mem_append] at h
  exact h.imp List.eq_of_mem_replicate List.eq_of_mem_replicate

/-- The one word without other characters than square brackets. -/
theorem emptyWord_of_brackets (h : emptyWord.Words w) (hw : ∀ c ∈ w, c = '[' ∨ c = ']') :
    w = "[[]]".toList := by
  have hgap : ∀ {g : Text}, gap.Words g → (∀ c ∈ g, c = '[' ∨ c = ']') → g = [] := by
    rintro g ⟨gs, hg⟩ hbrackets
    refine List.eq_nil_iff_forall_not_mem.mpr fun c hc => ?_
    have hspace := (forms_run.mp hg).1 c hc
    rcases hbrackets c hc with rfl | rfl <;> revert hspace <;> decide
  obtain ⟨gs, h⟩ := h
  cases h with
  | right h =>
    obtain ⟨rest, rfl⟩ := ((((begins_lit "\x7b\x7b").append _).append _).append _).append _ _ _ _ _ h
    exact absurd (hw '\x7b' (by simp)) (by decide)
  | left h =>
    obtain ⟨w₄, close, _, _, rfl, -, h, hclose⟩ := (forms_append rfl rfl).mp h
    obtain ⟨w₃, g', _, _, rfl, -, h, hg'⟩ := (forms_append rfl rfl).mp h
    obtain ⟨w₂, pipe, _, _, rfl, -, h, hpipe⟩ := (forms_append rfl rfl).mp h
    obtain ⟨start, g, _, _, rfl, -, hstart, hg⟩ := (forms_append rfl rfl).mp h
    obtain ⟨rfl, -⟩ := forms_ofText.mp hstart
    obtain ⟨rfl, -⟩ := forms_ofText.mp hclose
    obtain rfl := hgap ⟨_, hg⟩ fun c hc => hw c (by simp [hc])
    obtain rfl := hgap ⟨_, hg'⟩ fun c hc => hw c (by simp [hc])
    rcases forms_opt.mp hpipe with ⟨rfl, -⟩ | hpipe
    · rfl
    · obtain ⟨rfl, -⟩ := forms_ofText.mp hpipe
      exact absurd (hw '|' (by simp)) (by decide)

theorem emptyWord_innermost : emptyWord.Words "[[]]".toList :=
  ⟨[], .left <| (forms_append rfl rfl).mpr ⟨"[[".toList, "]]".toList, [], [], rfl, rfl,
    (forms_append rfl rfl).mpr ⟨"[[".toList, [], [], [], rfl, rfl,
      (forms_append rfl rfl).mpr ⟨"[[".toList, [], [], [], rfl, rfl,
        (forms_append rfl rfl).mpr ⟨"[[".toList, [], [], [], rfl, rfl, forms_ofText.mpr ⟨rfl, rfl⟩,
          forms_run.mpr ⟨by simp, rfl⟩⟩,
        forms_opt.mpr (.inl ⟨rfl, rfl⟩)⟩,
      forms_run.mpr ⟨by simp, rfl⟩⟩,
    forms_ofText.mpr ⟨rfl, rfl⟩⟩⟩

/-- Where one character gives way to another in a text of the one up to a place and of the other
from there on, there is that place. -/
theorem replicate_split (hab : a ≠ b)
    (h : u ++ [a] ++ b :: v = List.replicate n a ++ List.replicate k b) :
    u ++ [a] = List.replicate n a ∧ b :: v = List.replicate k b := by
  rcases List.append_eq_append_iff.mp h with ⟨x, hx, hv⟩ | ⟨x, hu, hx⟩
  · cases x with
    | nil => exact ⟨by simpa using hx.symm, hv⟩
    | cons c x =>
      obtain ⟨rfl, -⟩ := List.cons.inj hv
      exact absurd (List.eq_of_mem_replicate (hx ▸ by simp : b ∈ List.replicate n a)) hab.symm
  · rcases List.eq_nil_or_concat x with rfl | ⟨x, c, rfl⟩
    · exact ⟨by simpa using hu, by simpa using hx.symm⟩
    · have hlast := congrArg List.getLast? hu
      obtain rfl : a = c := by simpa [List.concat_eq_append] using hlast
      exact absurd (List.eq_of_mem_replicate (hx ▸ by simp : a ∈ List.replicate k b)) hab

/-- The brackets around the innermost ones. -/
theorem around_innermost (h : nested (n + 1) = u ++ ("[[]]".toList ++ r)) :
    u = List.replicate (2 * n) '[' ∧ r = List.replicate (2 * n) ']' := by
  have hsplit : (u ++ ['[']) ++ ['['] ++ ']' :: ']' :: r =
      List.replicate (2 * (n + 1)) '[' ++ List.replicate (2 * (n + 1)) ']' := by
    rw [← nested, h]
    simp
  obtain ⟨hu, hr⟩ := replicate_split (by decide) hsplit
  rw [Nat.mul_succ] at hu hr
  rw [List.append_assoc, List.replicate_add] at hu
  rw [List.replicate_succ, List.replicate_succ, List.cons.injEq, List.cons.injEq] at hr
  exact ⟨List.append_cancel_right hu, hr.2.2⟩

/-- A pass finds the innermost brackets only. -/
theorem pass_nested (n : Nat) : emptyConstruct.apply (nested (n + 1)) = nested n := by
  obtain ⟨parts, tail, hout, hpieces⟩ := exists_outline lexical_emptyWord (nested (n + 1))
  have hall : emptyConstruct.apply (nested (n + 1)) = _ := replaceAll_of_pieces hpieces fun _ => []
  rw [hall]
  have hword : ∀ {w}, emptyWord.Words w → w <:+: nested (n + 1) → w = "[[]]".toList :=
    fun hw hi => emptyWord_of_brackets hw fun c hc => mem_nested (hi.subset hc)
  have hinner : "[[]]".toList <:+: nested (n + 1) := by
    rw [nested_succ]
    exact ⟨List.replicate (2 * n) '[', List.replicate (2 * n) ']', by simp⟩
  generalize ht : nested (n + 1) = t at hout
  cases hout with
  | nil hfree => exact absurd (ht ▸ hinner) (hfree _ emptyWord_innermost)
  | @cons u m w r parts tail _ hm hrest =>
    obtain rfl : w = "[[]]".toList := hword ⟨_, hm.reads⟩ ⟨u, r, by rw [ht]; simp⟩
    obtain ⟨rfl, rfl⟩ := around_innermost ht
    generalize hr : List.replicate (2 * n) ']' = r at hrest
    cases hrest with
    | nil => simp [nested, hr]
    | @cons u' m' w' r' _ _ _ hm' _ =>
      have hclosed : w' <:+: List.replicate (2 * n) ']' := ⟨u', r', by rw [hr]; simp⟩
      have hinfix : w' <:+: nested (n + 1) := by
        rw [nested_succ]
        exact hclosed.trans (List.IsSuffix.isInfix ⟨_, (List.append_assoc _ _ _)⟩)
      have hopen : '[' ∈ w' := by
        rw [hword ⟨_, hm'.reads⟩ hinfix]
        decide
      exact absurd (List.eq_of_mem_replicate (hclosed.subset hopen)) (by decide)

theorem passes_nested (n k : Nat) : emptyConstruct.apply^[k] (nested n) = nested (n - k) := by
  induction k generalizing n with
  | zero => rfl
  | succ k ih =>
    rw [Function.iterate_succ_apply]
    cases n with
    | zero =>
      have hnone : emptyConstruct.apply (nested 0) = nested 0 := by decide +kernel
      rw [hnone, ih, Nat.zero_sub, Nat.zero_sub]
    | succ n => rw [pass_nested, ih, Nat.add_sub_add_right]

/-- Whatever the bound on the passes, there are brackets for which it is too small. -/
theorem emptyConstructs_nested (n : Nat) :
    Fix.emptyConstructs (nested n) = nested (n - maxPasses) := by
  rw [Fix.emptyConstructs, untilStable_eq_iterate, passes_nested]

/-- One pair of brackets more than there are passes, and one colon more. -/
theorem repeated_not_rests :
    (Fix.emptyConstructs (nested 33) = "[[]]".toList ∧
      ¬ IsFixedPt emptyConstruct.apply (Fix.emptyConstructs (nested 33)) ∧
      Fix.emptyConstructs (Fix.emptyConstructs (nested 33)) ≠ Fix.emptyConstructs (nested 33)) ∧
    Fix.headings [] ("==a".toList ++ List.replicate 33 ':' ++ "==".toList) = "==a:==".toList ∧
      Fix.headings [] "==a:==".toList = "==a==".toList := by
  have hfixed : Fix.emptyConstructs (nested 33) = "[[]]".toList := by
    rw [emptyConstructs_nested]
    rfl
  rw [hfixed]
  exact ⟨⟨rfl, by unfold IsFixedPt; decide +kernel, by decide +kernel⟩, by decide +kernel,
    by decide +kernel⟩

end Wikitext.Fix
