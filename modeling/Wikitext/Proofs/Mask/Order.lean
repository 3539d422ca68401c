import Mathlib.Logic.Function.Iterate
import Wikitext.Proofs.Mask.Visible

/-!
# The order of the stretches

A later pass can hide a stretch with placeholders of earlier ones in it, but
never a part of a placeholder. So a stretch only names stretches with smaller
numbers, and every number stands in one place, in the masked text or in a
stretch (`Numbered`). A placeholder that was there before a text is masked
would spoil this; such a text is refused.

`run_numbered` says so for every mask that can be reached, whatever becomes of
the masked texts, and that the templates are hidden in finitely many passes.
-/

namespace Wikitext.Mask

open Pattern

-- -----------------------------------------------------------------------------------------
-- Which numbers stand where
-- -----------------------------------------------------------------------------------------

/-- A placeholder with the number `i` stands in the text. -/
def Names (kind : Kind) (t : Text) (i : Nat) : Prop :=
  ∃ ds, IsIndex ds ∧ written kind ds <:+: t ∧ Text.numberOfDigits 10 ds = i

/-- The scan of a text finds every placeholder. -/
theorem names_iff : Names kind t i ↔ i ∈ numbers (parts kind t) := by
  constructor
  · rintro ⟨ds, hi, ⟨u, v, rfl⟩, rfl⟩
    rw [List.append_assoc, parts_append_written kind hi, numbers_append]
    exact List.mem_append_right _ List.mem_cons_self
  · intro h
    induction t using parts.induct kind with
    | case1 => simp [numbers] at h
    | case2 c cs k rest hr ih =>
      obtain ⟨ds, hi, ht, rfl⟩ := readPlaceholder?_eq_some hr
      rw [parts_of_read hr] at h
      rcases List.mem_cons.mp h with rfl | h
      · exact ⟨ds, hi, ⟨[], rest, by simpa using ht.symm⟩, rfl⟩
      · obtain ⟨es, he, hinfix, rfl⟩ := ih h
        exact ⟨es, he, ht ▸ List.infix_append_of_infix_right hinfix, rfl⟩
    | case3 c cs hr ih =>
      rw [parts_of_not_read hr] at h
      obtain ⟨ds, hi, hinfix, rfl⟩ := ih h
      exact ⟨ds, hi, List.infix_cons hinfix, rfl⟩

/-- Each stretch only names stretches that were stored before it. -/
def Ordered (kind : Kind) (spans : Array Text) : Prop :=
  ∀ i w, spans[i]? = some w → ∀ j, Names kind w j → j < i

/-- The numbers that stand in the stretches. -/
def inner (kind : Kind) (spans : Array Text) : List Nat :=
  spans.toList.flatMap fun w => numbers (parts kind w)

/-- Every number stands exactly once among the parts and in the stretches, and no other number
does. -/
def NamedOnce (kind : Kind) (spans : Array Text) (ps : List Part) : Prop :=
  (numbers ps ++ inner kind spans).Perm (List.range spans.size)

theorem ordered_empty (kind : Kind) : Ordered kind #[] := by simp [Ordered]

-- -----------------------------------------------------------------------------------------
-- Storing a stretch
-- -----------------------------------------------------------------------------------------

/-- The parts and the stretches together name every stretch once. -/
structure Numbered (kind : Kind) (spans : Array Text) (ps : List Part) : Prop where
  ordered : Ordered kind spans
  once : NamedOnce kind spans ps

namespace Numbered

variable {spans : Array Text}

theorem start (kind : Kind) (t : Text) : Numbered kind #[] (t.map .char) :=
  ⟨ordered_empty kind, by simp [NamedOnce, numbers_map_char, inner]⟩

/-- The new stretch takes over the numbers that stand in it. -/
theorem store (h : Numbered kind spans (ps ++ (parts kind w ++ qs))) :
    Numbered kind (spans.push w) (ps ++ .placeholder spans.size :: qs) := by
  have honce := h.once
  rw [NamedOnce, numbers_append, numbers_append] at honce
  constructor
  · intro i v hv j hj
    rcases Nat.lt_trichotomy i spans.size with hi | rfl | hi
    · rw [Array.getElem?_push_lt hi, ← Array.getElem?_eq_getElem hi] at hv
      exact h.ordered i v hv j hj
    · rw [Array.getElem?_push_size] at hv
      obtain rfl : w = v := Option.some.inj hv
      have hmem := honce.mem_iff (a := j)
      simp only [List.mem_append, names_iff.mp hj, true_or, or_true, true_iff] at hmem
      exact List.mem_range.mp hmem
    · rw [Array.getElem?_eq_none (by simpa using hi)] at hv
      cases hv
  · have hinner : inner kind (spans.push w) = inner kind spans ++ numbers (parts kind w) := by
      simp [inner]
    -- What stood in the stretch is now found behind the other stretches.
    have hmoved : (numbers qs ++ (inner kind spans ++ numbers (parts kind w))).Perm
        (numbers (parts kind w) ++ numbers qs ++ inner kind spans) := by
      rw [← List.append_assoc, List.append_assoc (numbers (parts kind w))]
      exact List.perm_append_comm
    have hrest := hmoved.append_left (numbers ps)
    rw [← List.append_assoc (numbers ps) (numbers (parts kind w) ++ numbers qs)] at hrest
    rw [NamedOnce, numbers_append, numbers, hinner, Array.size_push, List.range_succ,
      List.append_assoc]
    exact (List.perm_middle.trans ((hrest.trans honce).cons spans.size)).trans
      (List.perm_append_singleton _ _).symm

end Numbered

-- -----------------------------------------------------------------------------------------
-- Masking a text
-- -----------------------------------------------------------------------------------------

section
variable {m : Mask} (hm : ∃ p, m.images = Region.images p)
include hm

theorem hide_numbered (h : m.hide t = .ok (u, m')) : Numbered .plain m'.plain (parts .plain u) :=
  hide_induction (P := Numbered .plain) hm Numbered.store (Numbered.start .plain t) h

theorem hideMore_numbered (h : m.hideMore onlyTargets t = .ok (u, m')) :
    Numbered .broad m'.broad (parts .broad u) :=
  hideMore_induction (P := Numbered .broad) hm Numbered.store (Numbered.start .broad t) h

end

-- -----------------------------------------------------------------------------------------
-- The passes for templates
-- -----------------------------------------------------------------------------------------

namespace Hidden

def templatePass (kind : Kind) (s : Hidden) : Hidden := s.hide kind Region.innermostTemplate

/-- The first `n` passes for templates store something, and the next one does not. -/
structure EndsAfter (kind : Kind) (s : Hidden) (n : Nat) : Prop where
  grows : ∀ k < n,
    ((templatePass kind)^[k] s).spans.size < ((templatePass kind)^[k + 1] s).spans.size
  stops : ((templatePass kind)^[n + 1] s).spans.size = ((templatePass kind)^[n] s).spans.size

/-- A pass stores a stretch just if it leaves fewer braces. -/
theorem size_lt_iff (kind : Kind) (s : Hidden) :
    s.spans.size < (s.templatePass kind).spans.size ↔
      (s.templatePass kind).text.count '\x7b' < s.text.count '\x7b' := by
  obtain ⟨found, tail, hpass⟩ := exists_templates kind s
  have hsize : (s.templatePass kind).spans.size = s.spans.size + found.length := hpass.size
  have hcount : (s.templatePass kind).text.count '\x7b' + found.length ≤ s.text.count '\x7b' :=
    hpass.count
  refine ⟨fun h => by omega, fun h => ?_⟩
  cases found with
  | nil =>
    have hsame : (s.templatePass kind).text = s.text := hpass.text_of_nil
    rw [hsame] at h
    exact absurd h (Nat.lt_irrefl _)
  | cons found rest =>
    rw [hsize, List.length_cons]
    omega

/-- The templates are hidden by passes up to the first one that stores nothing. -/
theorem exists_endsAfter (kind : Kind) (s : Hidden) :
    ∃ n, s.EndsAfter kind n ∧ s.hideTemplates kind = (templatePass kind)^[n + 1] s := by
  fun_induction Hidden.hideTemplates kind s with
  | case1 s next hlt ih =>
    obtain ⟨n, ⟨hgrows, hstops⟩, heq⟩ := ih
    refine ⟨n + 1, ⟨fun k hk => ?_, hstops⟩, heq⟩
    cases k with
    | zero => exact (size_lt_iff kind s).mpr hlt
    | succ k => exact hgrows k (Nat.lt_of_succ_lt_succ hk)
  | case2 s next hle =>
    have hsize : ¬ s.spans.size < next.spans.size := fun h => hle ((size_lt_iff kind s).mp h)
    have hgrows : s.spans.size ≤ next.spans.size := by simp [next, spans_hide]
    exact ⟨0, ⟨by simp, Nat.le_antisymm (Nat.le_of_not_lt hsize) hgrows⟩, rfl⟩

end Hidden

-- -----------------------------------------------------------------------------------------
-- Masks that can be reached
-- -----------------------------------------------------------------------------------------

/-- What can be done with a mask. The texts need not have anything to do with each other. -/
inductive Action
  | hide (t : Text)
  | addBack (t : Text)
  | hideMore (onlyTargets : Bool) (t : Text)
  | addBackMore (t : Text)
  | reset

/-- The mask after an action; one that refuses to hide a text stays as it is. -/
def act (m : Mask) : Action → Mask
  | .hide t =>
    match m.hide t with
    | .ok (_, m') => m'
    | .error _ => m
  | .addBack t => (m.addBack t).2
  | .hideMore onlyTargets t =>
    match m.hideMore onlyTargets t with
    | .ok (_, m') => m'
    | .error _ => m
  | .addBackMore t => (m.addBackMore t).2
  | .reset => m.reset

/-- What every action keeps. -/
structure Layered (m : Mask) : Prop where
  images : ∃ p, m.images = Region.images p
  plain : Ordered .plain m.plain
  broad : Ordered .broad m.broad

namespace Layered

variable {m : Mask}

theorem ofProfile (p : Profile) (options : Options) : Layered (ofProfile p options) :=
  ⟨⟨p, rfl⟩, ordered_empty _, ordered_empty _⟩

theorem hide (h : Layered m) (hhide : m.hide t = .ok (u, m')) : Layered m' := by
  have hnumbered := hide_numbered h.images hhide
  unfold Mask.hide at hhide
  split at hhide
  · cases hhide
  · cases hhide
    exact ⟨h.images, hnumbered.ordered, h.broad⟩

theorem hideMore (h : Layered m) (hhide : m.hideMore onlyTargets t = .ok (u, m')) :
    Layered m' := by
  have hnumbered := hideMore_numbered h.images hhide
  unfold Mask.hideMore at hhide
  split at hhide
  · cases hhide
  · cases hhide
    exact ⟨h.images, h.plain, hnumbered.ordered⟩

theorem act (h : Layered m) (a : Action) : Layered (m.act a) := by
  cases a with
  | hide t =>
    simp only [Mask.act]
    split
    · rename_i hhide
      exact h.hide hhide
    · exact h
  | addBack t => exact ⟨h.images, ordered_empty _, h.broad⟩
  | hideMore onlyTargets t =>
    simp only [Mask.act]
    split
    · rename_i hhide
      exact h.hideMore hhide
    · exact h
  | addBackMore t => exact ⟨h.images, h.plain, ordered_empty _⟩
  | reset => exact ⟨h.images, ordered_empty _, ordered_empty _⟩

theorem foldl_act (h : Layered m) (actions : List Action) : Layered (actions.foldl Mask.act m) := by
  induction actions generalizing m with
  | nil => exact h
  | cons a actions ih => exact ih (h.act a)

end Layered

theorem run_numbered (p : Profile) (options : Options) (actions : List Action) :
    let m := actions.foldl act (ofProfile p options)
    (Ordered .plain m.plain ∧ Ordered .broad m.broad) ∧
    (∀ t u m', m.hide t = .ok (u, m') → NamedOnce .plain m'.plain (parts .plain u)) ∧
    (∀ onlyTargets t u m', m.hideMore onlyTargets t = .ok (u, m') →
      NamedOnce .broad m'.broad (parts .broad u)) ∧
    ∀ s : Hidden, ∃ n, s.EndsAfter .broad n ∧
      s.hideTemplates .broad = (Hidden.templatePass .broad)^[n + 1] s := by
  intro m
  have h : Layered m := (Layered.ofProfile p options).foldl_act actions
  refine ⟨⟨h.plain, h.broad⟩, fun t u m' hhide => ?_, fun onlyTargets t u m' hhide => ?_, ?_⟩
  · exact (hide_numbered h.images hhide).once
  · exact (hideMore_numbered h.images hhide).once
  · exact Hidden.exists_endsAfter .broad

-- The outer template is hidden with the placeholder of the inner one in it.
example :
    let m : Mask := ofProfile .englishWikipedia {}
    (m.hideMore false "\x7b\x7ba|\x7b\x7bb\x7d\x7d\x7d\x7d".toList).map (fun r => r.2.broad.toList) =
      .ok ["\x7b\x7bb\x7d\x7d".toList, "\x7b\x7ba|⌊⌊⌊⌊M0⌋⌋⌋⌋\x7d\x7d".toList] := by
  decide +kernel

end Wikitext.Mask
