import Wikitext.Fix.Basic
import Mathlib.Dynamics.FixedPoints.Basic

/-!
# Passes that come to an end

The number of passes over a text is bounded. They stop at the first iterate that the pass leaves
unchanged, and at the last one if there is none (`untilStable_stops`). Where every pass that changes
something leaves less to spare, and there is no more to spare than there are passes, the last pass
changes nothing (`untilStable_settled`), and so a second application of the fix changes nothing
either. Where there is more to spare, the passes still come to rest some time
(`UsesUp.comes_to_rest`), but the fix may stop short of that: it is at rest exactly if the bound on
the passes was enough (`rests_iff_enough`).
-/

namespace Wikitext.Fix

variable {step : Text → Text} {spare : Text → Nat}

/-- A pass that changes the text leaves less to spare. -/
def UsesUp (spare : Text → Nat) (step : Text → Text) : Prop :=
  ∀ t, step t ≠ t → spare (step t) < spare t

theorem settle_of_fixed (h : step t = t) (n : Nat) : settle step n t = t := by
  cases n with
  | zero => rfl
  | succ n => rw [settle, h, if_pos BEq.rfl]

theorem untilStable_of_fixed (h : step t = t) : untilStable step t = t := by
  rw [untilStable, h, settle_of_fixed h]

/-- One pass is enough if a second one changes nothing. -/
theorem untilStable_of_idempotent (h : step (step t) = step t) : untilStable step t = step t :=
  settle_of_fixed h _

/-- By induction on the number of passes. -/
theorem settle_settled (hstep : UsesUp spare step) (hn : spare t ≤ n) :
    step (settle step n t) = settle step n t := by
  induction n generalizing t with
  | zero =>
    refine Decidable.byContradiction fun hchange => ?_
    have hless := hstep t hchange
    omega
  | succ n ih =>
    by_cases hfixed : step t = t
    · rw [settle_of_fixed hfixed, hfixed]
    · have hless := hstep t hfixed
      rw [settle, if_neg (by simpa using hfixed)]
      exact ih (by omega)

theorem untilStable_settled (hstep : UsesUp spare step) (hn : spare t ≤ maxPasses) :
    step (untilStable step t) = untilStable step t := by
  by_cases hfixed : step t = t
  · rw [untilStable_of_fixed hfixed, hfixed]
  · have hless : spare (step t) < maxPasses := Nat.lt_of_lt_of_le (hstep t hfixed) hn
    exact settle_settled hstep (Nat.le_sub_one_of_lt hless)

-- -----------------------------------------------------------------------------------------
-- Iterates
-- -----------------------------------------------------------------------------------------

open Function (IsFixedPt)

theorem settle_eq_iterate (step : Text → Text) (n : Nat) (t : Text) : settle step n t = step^[n] t := by
  induction n generalizing t with
  | zero => rfl
  | succ n ih =>
    by_cases hfixed : step t = t
    · rw [settle_of_fixed hfixed, Function.iterate_fixed hfixed]
    · rw [settle, if_neg (by simpa using hfixed), ih, Function.iterate_succ_apply]

/-- Stopping early where nothing changes makes no difference. -/
theorem untilStable_eq_iterate (step : Text → Text) (t : Text) :
    untilStable step t = step^[maxPasses] t :=
  settle_eq_iterate step (maxPasses - 1) (step t)

/-- From rest on nothing changes. -/
theorem rests_of_le (h : IsFixedPt step (step^[n] t)) (hle : n ≤ m) :
    IsFixedPt step (step^[m] t) := by
  obtain ⟨k, rfl⟩ := Nat.exists_eq_add_of_le' hle
  rw [Function.iterate_add_apply, Function.iterate_fixed h]
  exact h

/-- The passes that a fix makes are enough for the text to come to rest. -/
def Enough (step : Text → Text) (t : Text) : Prop :=
  ∃ n ≤ maxPasses, IsFixedPt step (step^[n] t)

theorem rests_iff_enough : IsFixedPt step (untilStable step t) ↔ Enough step t := by
  rw [untilStable_eq_iterate]
  constructor
  · exact fun h => ⟨maxPasses, Nat.le_refl _, h⟩
  · rintro ⟨n, hle, h⟩
    exact rests_of_le h hle

-- -----------------------------------------------------------------------------------------
-- The first iterate at rest
-- -----------------------------------------------------------------------------------------

/-- The `k`-th iterate, one of those that the bound on the passes allows, is at rest. The text itself
is not one of them: the first pass is made in any case. -/
def RestsAt (step : Text → Text) (t : Text) (k : Nat) : Prop :=
  1 ≤ k ∧ k ≤ maxPasses ∧ IsFixedPt step (step^[k] t)

theorem enough_iff_restsAt : Enough step t ↔ ∃ k, RestsAt step t k := by
  constructor
  · rintro ⟨n, hle, h⟩
    cases n with
    | zero => exact ⟨1, Nat.le_refl 1, by decide, rests_of_le h (Nat.zero_le 1)⟩
    | succ n => exact ⟨n + 1, Nat.le_add_left 1 n, hle, h⟩
  · exact fun ⟨k, _, hle, h⟩ => ⟨k, hle, h⟩

/-- By induction on the number of passes. The iterate after the last of them is not looked at. -/
theorem settle_stops (step : Text → Text) (n : Nat) (t : Text) :
    ∃ k ≤ n, settle step n t = step^[k] t ∧ (∀ j < k, ¬ IsFixedPt step (step^[j] t)) ∧
      (IsFixedPt step (step^[k] t) ∨ k = n) := by
  induction n generalizing t with
  | zero => exact ⟨0, Nat.le_refl 0, rfl, fun j hj => absurd hj (Nat.not_lt_zero j), .inr rfl⟩
  | succ n ih =>
    by_cases hfixed : step t = t
    · refine ⟨0, Nat.zero_le _, settle_of_fixed hfixed _, fun j hj => ?_, .inl hfixed⟩
      exact absurd hj (Nat.not_lt_zero j)
    · obtain ⟨k, hle, hsettle, hbefore, hstop⟩ := ih (step t)
      refine ⟨k + 1, Nat.succ_le_succ hle, ?_, fun j hj => ?_, ?_⟩
      · rw [settle, if_neg (by simpa using hfixed), hsettle, Function.iterate_succ_apply]
      · cases j with
        | zero => exact hfixed
        | succ j =>
          rw [Function.iterate_succ_apply]
          exact hbefore j (Nat.lt_of_succ_lt_succ hj)
      · rw [Function.iterate_succ_apply]
        exact hstop.imp_right (congrArg Nat.succ)

/-- The passes stop at the first iterate that is at rest, if there is one, and at the last one
otherwise. -/
theorem untilStable_stops (step : Text → Text) (t : Text) :
    ∃ k, 1 ≤ k ∧ k ≤ maxPasses ∧ untilStable step t = step^[k] t ∧
      ((RestsAt step t k ∧ ∀ j, RestsAt step t j → k ≤ j) ∨
        (k = maxPasses ∧ ∀ j, ¬ RestsAt step t j)) := by
  obtain ⟨k, hle, hsettle, hbefore, hstop⟩ := settle_stops step (maxPasses - 1) (step t)
  have hmax : k + 1 ≤ maxPasses := Nat.succ_le_succ hle
  have hfirst : ∀ j, RestsAt step t j → k + 1 ≤ j := by
    rintro j ⟨hpos, -, hj⟩
    obtain ⟨j, rfl⟩ := Nat.exists_eq_add_of_le' hpos
    refine Nat.succ_le_succ (Nat.le_of_not_lt fun hlt => hbefore j hlt ?_)
    rwa [Function.iterate_succ_apply] at hj
  refine ⟨k + 1, Nat.le_add_left 1 k, hmax, by rw [Function.iterate_succ_apply]; exact hsettle, ?_⟩
  by_cases hrest : RestsAt step t (k + 1)
  · exact .inl ⟨hrest, hfirst⟩
  · -- Then the passes ran out, and no iterate before the last one was at rest.
    have hmoves : ¬ IsFixedPt step (step^[k + 1] t) := fun h => hrest ⟨Nat.le_add_left 1 k, hmax, h⟩
    rw [Function.iterate_succ_apply] at hmoves
    have hk : k = maxPasses - 1 := hstop.resolve_left hmoves
    refine .inr ⟨congrArg Nat.succ hk, fun j hj => hrest ?_⟩
    have hj' : j = k + 1 := Nat.le_antisymm (hk ▸ hj.2.1) (hfirst j hj)
    exact hj' ▸ hj

/-- What repeating a pass comes to: the result is the first iterate that the pass leaves unchanged, or
the last one. So it is at rest exactly if some iterate is, and then repeating the pass again changes
nothing. -/
theorem untilStable_first (step : Text → Text) (t : Text) :
    (∃ k, 1 ≤ k ∧ k ≤ maxPasses ∧ untilStable step t = step^[k] t ∧
        ((RestsAt step t k ∧ ∀ j, RestsAt step t j → k ≤ j) ∨
          (k = maxPasses ∧ ∀ j, ¬ RestsAt step t j))) ∧
      (IsFixedPt step (untilStable step t) ↔ ∃ k, RestsAt step t k) ∧
      (IsFixedPt step (untilStable step t) →
        untilStable step (untilStable step t) = untilStable step t) :=
  ⟨untilStable_stops step t, rests_iff_enough.trans enough_iff_restsAt, untilStable_of_fixed⟩

/-- A pass that never comes to rest is made as often as the bound allows. -/
example : untilStable (fun t => 'x' :: t) [] = List.replicate 32 'x' := by decide

namespace UsesUp

theorem le (h : UsesUp spare step) (t : Text) : spare (step t) ≤ spare t := by
  by_cases hfixed : step t = t
  · rw [hfixed]
  · exact Nat.le_of_lt (h t hfixed)

theorem comp (hf : UsesUp spare f) (hg : UsesUp spare g) : UsesUp spare fun t => f (g t) := by
  intro t hchange
  dsimp only at hchange ⊢
  by_cases hfixed : g t = t
  · rw [hfixed] at hchange ⊢
    exact hf t hchange
  · exact Nat.lt_of_le_of_lt (hf.le (g t)) (hg t hfixed)

/-- If two passes together change nothing, neither of them does. -/
theorem both_rest (hf : UsesUp spare f) (hg : UsesUp spare g) (h : f (g t) = t) :
    g t = t ∧ f t = t := by
  have hfixed : g t = t := by
    refine Decidable.byContradiction fun hchange => ?_
    have hless := hg t hchange
    have hle := hf.le (g t)
    rw [h] at hle
    omega
  exact ⟨hfixed, by rwa [hfixed] at h⟩

theorem iterate (h : UsesUp spare step) (n : Nat) : UsesUp spare step^[n] := by
  induction n with
  | zero => exact fun t hchange => absurd rfl hchange
  | succ n ih => exact ih.comp h

theorem untilStable (h : UsesUp spare step) : UsesUp spare (untilStable step) := by
  rw [funext (untilStable_eq_iterate step)]
  exact h.iterate maxPasses

theorem comes_to_rest (h : UsesUp spare step) (t : Text) :
    ∃ n ≤ spare t, IsFixedPt step (step^[n] t) := by
  refine ⟨spare t, Nat.le_refl _, ?_⟩
  rw [← settle_eq_iterate]
  exact settle_settled h (Nat.le_refl _)

/-- A text to which several passes lead back was not changed by the first of them. -/
theorem fixed_of_iterate_fixed (h : UsesUp spare step) (hn : step^[n + 1] t = t) : step t = t := by
  refine Decidable.byContradiction fun hchange => ?_
  have hless := h t hchange
  have hle := (h.iterate n).le (step t)
  rw [← Function.iterate_succ_apply, hn] at hle
  omega

/-- A second application of the fix changes nothing exactly if the passes of the first one are
enough. -/
theorem again_iff_enough (h : UsesUp spare step) :
    Fix.untilStable step (Fix.untilStable step t) = Fix.untilStable step t ↔ Enough step t := by
  rw [← rests_iff_enough]
  constructor
  · intro hagain
    rw [untilStable_eq_iterate] at hagain
    exact h.fixed_of_iterate_fixed hagain
  · exact untilStable_of_fixed

end UsesUp

end Wikitext.Fix
