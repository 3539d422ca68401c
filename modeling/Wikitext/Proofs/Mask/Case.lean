import Wikitext.Chars.Case
import Wikitext.Proofs.Mask.Edit
import Wikitext.Title

/-!
# Letter case and corner brackets

Corner brackets have no letter case, and no letter turns into one when its case
changes. So texts that name the same page agree in their placeholders
(`numbers_of_sameName`).
-/

namespace Wikitext.Mask

open Chars (CaseRun mapRuns upperRuns lowerRuns longUpper)

theorem ofNat_not_mem_corners (h : n ≠ 0x230A ∧ n ≠ 0x230B) : Char.ofNat n ∉ corners := by
  intro hm
  have hv : (Char.ofNat n).toNat = n ∨ (Char.ofNat n).toNat = 0 := by
    by_cases hn : n.isValidChar
    · exact .inl (by rw [Char.ofNat, dif_pos hn]; rfl)
    · exact .inr (by rw [Char.ofNat, dif_neg hn]; rfl)
  simp only [corners, List.mem_cons, List.not_mem_nil, or_false] at hm
  rcases hm with hm | hm <;> rw [hm] at hv <;> simp at hv <;> omega

-- -----------------------------------------------------------------------------------------
-- Tables of letters
-- -----------------------------------------------------------------------------------------

/-- The run maps no character to `n`. -/
def misses (n : Int) (run : CaseRun) : Bool := !(run.first ≤ n - run.shift && n - run.shift ≤ run.last)

theorem target?_ne {run : CaseRun} (h : misses n run = true) (hn : 0 < n)
    (ht : run.target? m = some k) : (k : Int) ≠ n := by
  unfold CaseRun.target? at ht
  split at ht
  · rename_i hr
    simp only [Bool.and_eq_true, decide_eq_true_eq] at hr
    simp only [Option.some.injEq] at ht
    simp only [misses, Bool.not_eq_true', Bool.and_eq_false_iff, decide_eq_false_iff_not] at h
    omega
  · cases ht

theorem mapRuns_eq_self {runs : Array CaseRun}
    (h : runs.toList.all (fun run => (run.target? m).isNone) = true) : mapRuns runs m = m := by
  have hf : runs.findSome? (·.target? m) = none := by
    rw [Array.findSome?_eq_none_iff]
    exact fun run hr => Option.isNone_iff_eq_none.mp
      (List.all_eq_true.mp h run (Array.mem_toList_iff.mpr hr))
  rw [mapRuns, hf, Option.getD_none]

theorem mapRuns_ne {runs : Array CaseRun} {m : Nat} (h : ∀ run ∈ runs.toList, misses n run = true)
    (hn : 0 < n) (hm : (m : Int) ≠ n) : (mapRuns runs m : Int) ≠ n := by
  unfold mapRuns
  cases hf : runs.findSome? (·.target? m) with
  | none => exact hm
  | some k =>
    obtain ⟨run, hr, ht⟩ := Array.exists_of_findSome?_eq_some hf
    exact target?_ne (h run (by simpa using hr)) hn ht

theorem mapRuns_not_mem_corners (runs : Array CaseRun)
    (h : runs.toList.all (fun run => misses 0x230A run && misses 0x230B run) = true)
    (hc : c ∉ corners) : Char.ofNat (mapRuns runs c.toNat) ∉ corners := by
  simp only [List.all_eq_true, Bool.and_eq_true] at h
  have hne : (c.toNat : Int) ≠ 0x230A ∧ (c.toNat : Int) ≠ 0x230B := by
    constructor
    all_goals
      intro he
      refine hc ?_
      have he' : c = Char.ofNat _ := (Char.ofNat_toNat c).symm.trans (congrArg _ (Int.ofNat.inj he))
      rw [he']
      decide
  have h₁ := mapRuns_ne (fun run hr => (h run hr).1) (by decide) hne.1
  have h₂ := mapRuns_ne (fun run hr => (h run hr).2) (by decide) hne.2
  exact ofNat_not_mem_corners (by omega)

-- -----------------------------------------------------------------------------------------
-- Upper and lower case of a character
-- -----------------------------------------------------------------------------------------

theorem ascii_induction {P : Char → Prop} (h : ∀ n < 128, P (Char.ofNat n)) {c : Char}
    (hc : c.toNat < 128) : P c :=
  Char.ofNat_toNat c ▸ h c.toNat hc

theorem toUpper_ascii {c : Char} (hc : c.toNat < 128) : c.toUpper ∉ corners :=
  ascii_induction (P := fun c => c.toUpper ∉ corners) (by decide) hc

theorem toLower_ascii {c : Char} (hc : c.toNat < 128) : c.toLower ∉ corners :=
  ascii_induction (P := fun c => c.toLower ∉ corners) (by decide) hc

theorem bare_toUpper (hc : c ∉ corners) : Bare (Chars.toUpper c) := by
  have hlong : ∀ entry ∈ longUpper.toList, ∀ n ∈ entry.2, n ≠ 0x230A ∧ n ≠ 0x230B := by decide
  unfold Chars.toUpper
  split
  · rename_i ha
    simp [toUpper_ascii ha]
  · split
    · rename_i n letters hf
      have hm : (n, letters) ∈ longUpper.toList := by simpa using Array.mem_of_find?_eq_some hf
      intro d hd
      obtain ⟨k, hk, rfl⟩ := List.mem_map.mp hd
      exact ofNat_not_mem_corners (hlong _ hm k hk)
    · simp [mapRuns_not_mem_corners upperRuns (by decide) hc]

theorem bare_toLower (hc : c ∉ corners) : Bare (Chars.toLower c) := by
  unfold Chars.toLower
  split
  · rename_i ha
    simp [toLower_ascii ha]
  · split
    · decide
    · simp [mapRuns_not_mem_corners lowerRuns (by decide) hc]

theorem toUpper_corner (hc : c ∈ corners) : Chars.toUpper c = [c] := by
  have hall : ∀ c ∈ corners, (128 ≤ c.toNat ∧ Char.ofNat c.toNat = c) ∧
      (longUpper.toList.all (·.1 != c.toNat) = true ∧
        upperRuns.toList.all (fun run => (run.target? c.toNat).isNone) = true) := by
    decide
  obtain ⟨⟨hle, hof⟩, hlong, hrun⟩ := hall c hc
  have hfind : longUpper.find? (·.1 == c.toNat) = none := by
    rw [Array.find?_eq_none]
    intro entry he
    simpa using List.all_eq_true.mp hlong entry (Array.mem_toList_iff.mpr he)
  rw [Chars.toUpper, if_neg (by omega), hfind]
  simp only [mapRuns_eq_self hrun, hof]

theorem toUpper_mark (hc : c ∈ marks) : Chars.toUpper c = [c] := by
  by_cases hm : c ∈ corners
  · exact toUpper_corner hm
  · have hall : ∀ c ∈ marks, c ∉ corners → Chars.toUpper c = [c] := by decide
    exact hall c hc hm

/-- In ASCII alone. -/
theorem bare_map_toUpper (h : Bare t) : Bare (t.map Char.toUpper) := by
  intro c hc
  obtain ⟨d, hd, rfl⟩ := List.mem_map.mp hc
  by_cases ha : d.toNat < 128
  · exact toUpper_ascii ha
  · have hd' : d.toUpper = d := by
      refine dif_neg fun hl => ha ?_
      have hz : d.toNat ≤ 122 := UInt32.le_iff_toNat_le.mp hl.2
      omega
    exact hd'.symm ▸ h d hd

/-- In ASCII alone. -/
theorem bare_of_map_toLower (h : Bare (t.map Char.toLower)) : Bare t := by
  intro c hc hm
  have hl : ∀ c ∈ corners, c.toLower = c := by decide
  exact h c (List.mem_map.mpr ⟨c, hc, hl c hm⟩) hm

-- -----------------------------------------------------------------------------------------
-- The first letter of a text
-- -----------------------------------------------------------------------------------------

theorem edits_upperFirst (t : Text) : Edits t (Title.upperFirst t) := by
  cases t with
  | nil => exact .refl
  | cons c t =>
    by_cases hc : c ∈ marks
    · rw [Title.upperFirst, toUpper_mark hc]
      exact .refl
    · have hb : Bare (Chars.toUpper c) := bare_toUpper fun hm => hc (corners_subset_marks hm)
      exact (Edits.of_apart (apart_singleton hc) hb).append_right t

theorem bare_upperFirst (h : Bare t) : Bare (Title.upperFirst t) := by
  cases t with
  | nil => exact h
  | cons c t =>
    obtain ⟨hc, ht⟩ := bare_cons.mp h
    exact bare_append.mpr ⟨bare_toUpper hc, ht⟩

theorem bare_of_upperFirst (h : Bare (Title.upperFirst t)) : Bare t := by
  cases t with
  | nil => exact h
  | cons c t =>
    obtain ⟨hc, ht⟩ := bare_append.mp h
    refine bare_cons.mpr ⟨fun hm => ?_, ht⟩
    rw [toUpper_mark (corners_subset_marks hm)] at hc
    exact hc c (by simp) hm

theorem numbers_upperFirst (h : Clean kind t) :
    numbers (parts kind (Title.upperFirst t)) = numbers (parts kind t) :=
  ((edits_upperFirst t).clean h).2

theorem numbers_of_sameName (ha : Clean kind a) (hb : Clean kind b)
    (h : Title.sameName a b = true) : numbers (parts kind a) = numbers (parts kind b) := by
  rw [← numbers_upperFirst ha, ← numbers_upperFirst hb, eq_of_beq h]

theorem bare_of_sameName (h : Title.sameName a b = true) (hb : Bare b) : Bare a := by
  refine bare_of_upperFirst ?_
  rw [eq_of_beq h]
  exact bare_upperFirst hb

end Wikitext.Mask
