import Mathlib.Algebra.Group.Nat.Defs
import Wikitext.Chars.Basic
import Wikitext.Chars.Word
import Wikitext.Proofs.Text.Basic

/-!
# Kinds of characters

A character is in a set of ranges exactly if it is in one of them (`Ranges.contains_iff`), so one
table is part of another where its ranges are. Digits are word characters, and white space is not.
-/

namespace Wikitext.Chars

namespace Ranges

-- -----------------------------------------------------------------------------------------
-- Halving
-- -----------------------------------------------------------------------------------------

variable {bounds : Array Nat}

/-- As many entries as are at most `n` stand in front of the place, and the others behind it. -/
structure Cut (bounds : Array Nat) (n k : Nat) : Prop where
  le : k ≤ bounds.size
  front : ∀ i < k, bounds.getD i 0 ≤ n
  behind : ∀ i, k ≤ i → i < bounds.size → n < bounds.getD i 0

/-- By induction on the number of halvings that are left, for any interval around the place. -/
theorem cut_rank (hsorted : ∀ i j, i ≤ j → j < bounds.size → bounds.getD i 0 ≤ bounds.getD j 0)
    (hlow : ∀ i < lo, bounds.getD i 0 ≤ n)
    (hhigh : ∀ i, hi ≤ i → i < bounds.size → n < bounds.getD i 0) (hle : lo ≤ hi)
    (hsize : hi ≤ bounds.size) (hfuel : hi - lo < 2 ^ fuel) :
    Cut bounds n (rank bounds n fuel lo hi) := by
  induction fuel generalizing lo hi with
  | zero =>
    obtain rfl : lo = hi := by rw [pow_zero] at hfuel; omega
    exact ⟨hsize, hlow, hhigh⟩
  | succ fuel ih =>
    rw [rank]
    split
    · rename_i hlt
      rw [pow_succ] at hfuel
      dsimp only
      split
      · rename_i hmid
        refine ih (fun i hi' => ?_) hhigh (by omega) hsize (by omega)
        exact Nat.le_trans (hsorted i _ (Nat.lt_succ_iff.mp hi') (by omega)) hmid
      · rename_i hmid
        refine ih hlow (fun i hle' hi' => ?_) (by omega) (by omega) (by omega)
        exact Nat.lt_of_lt_of_le (Nat.not_le.mp hmid) (hsorted _ i hle' hi')
    · obtain rfl : lo = hi := by omega
      exact ⟨hsize, hlow, hhigh⟩

theorem rank_eq (hsorted : bounds.toList.Pairwise (· < ·)) (n : Nat) :
    rank bounds n (bounds.size.log2 + 1) 0 bounds.size =
      (bounds.toList.takeWhile (· ≤ n)).length := by
  have hget : ∀ i (h : i < bounds.toList.length), bounds.getD i 0 = bounds.toList[i] := by
    intro i h
    simp at h
    simp [h]
  have hcut : Cut bounds n (rank bounds n (bounds.size.log2 + 1) 0 bounds.size) := by
    refine cut_rank (fun i j hij hj => ?_) (by simp) (by omega) (Nat.zero_le _) (Nat.le_refl _)
      Nat.lt_log2_self
    have hj' : j < bounds.toList.length := hj
    rw [hget i (by omega), hget j hj']
    rcases Nat.lt_or_eq_of_le hij with hlt | rfl
    · exact Nat.le_of_lt (List.pairwise_iff_getElem.mp hsorted i j _ _ hlt)
    · exact Nat.le_refl _
  generalize rank bounds n (bounds.size.log2 + 1) 0 bounds.size = k at hcut ⊢
  have hk : k ≤ bounds.toList.length := hcut.le
  conv_rhs => rw [← List.take_append_drop k bounds.toList]
  rw [Text.takeWhile_append_stop, List.length_take_of_le hk]
  · intro x hx
    obtain ⟨i, hi, rfl⟩ := List.mem_iff_getElem.mp hx
    rw [List.length_take, Nat.lt_min] at hi
    have hle := hcut.front i hi.1
    rw [hget i hi.2] at hle
    simpa using hle
  · intro x hx
    rw [List.head?_drop] at hx
    obtain ⟨hlt, rfl⟩ := List.getElem?_eq_some_iff.mp hx
    have hbehind := hcut.behind k (Nat.le_refl k) hlt
    rw [hget k hlt] at hbehind
    simpa using hbehind

-- -----------------------------------------------------------------------------------------
-- Membership
-- -----------------------------------------------------------------------------------------

/-- Each range with its first code point, and the first one behind it. -/
def pairs : List Nat → List (Nat × Nat)
  | low :: high :: bounds => (low, high) :: pairs bounds
  | _ => []

theorem lt_of_mem_pairs {bounds : List Nat} (h : ∀ b ∈ bounds, n < b) (hp : p ∈ pairs bounds) :
    n < p.1 := by
  fun_induction pairs bounds with
  | case1 low high bounds ih =>
    simp only [List.forall_mem_cons] at h
    rcases List.mem_cons.mp hp with rfl | hp
    · exact h.1
    · exact ih h.2.2 hp
  | case2 => cases hp

/-- By induction on the ranges: the first one whose end is behind `n` decides. -/
theorem odd_length_takeWhile {bounds : List Nat} (hsorted : bounds.Pairwise (· < ·))
    (heven : bounds.length % 2 = 0) (n : Nat) :
    (bounds.takeWhile (· ≤ n)).length % 2 = 1 ↔ ∃ p ∈ pairs bounds, p.1 ≤ n ∧ n < p.2 := by
  fun_induction pairs bounds with
  | case1 low high bounds ih =>
    simp only [List.pairwise_cons, List.forall_mem_cons] at hsorted
    obtain ⟨⟨hlow, hlows⟩, hhigh, hsorted⟩ := hsorted
    have hrest := ih hsorted (by simp only [List.length_cons] at heven; omega)
    have hlater : n < high → ¬ ∃ p ∈ pairs bounds, p.1 ≤ n ∧ n < p.2 := by
      rintro hn ⟨p, hp, hle, -⟩
      have := lt_of_mem_pairs (fun b hb => Nat.lt_trans hn (hhigh b hb)) hp
      omega
    simp only [List.mem_cons, exists_eq_or_imp]
    by_cases h₁ : low ≤ n
    · by_cases h₂ : high ≤ n
      · rw [List.takeWhile_cons_of_pos (by simpa using h₁),
          List.takeWhile_cons_of_pos (by simpa using h₂), List.length_cons, List.length_cons,
          Nat.add_assoc, Nat.add_mod_right, hrest]
        exact ⟨.inr, fun h => h.resolve_left (by omega)⟩
      · rw [List.takeWhile_cons_of_pos (by simpa using h₁),
          List.takeWhile_cons_of_neg (by simpa using h₂)]
        exact ⟨fun _ => .inl ⟨h₁, Nat.not_le.mp h₂⟩, fun _ => rfl⟩
    · rw [List.takeWhile_cons_of_neg (by simpa using h₁)]
      simp [h₁, hlater (by omega)]
  | case2 bounds hshort =>
    cases bounds with
    | nil => simp
    | cons b bounds =>
      cases bounds with
      | nil => simp at heven
      | cons b' bounds => exact absurd rfl (hshort b b' bounds)

/-- The entries of the table ascend, and every range has an end. -/
def WellFormed (r : Ranges) : Prop := r.bounds.toList.IsChain (· < ·) ∧ r.bounds.size % 2 = 0

instance (r : Ranges) : Decidable r.WellFormed := inferInstanceAs (Decidable (_ ∧ _))

theorem contains_iff {r : Ranges} (hr : r.WellFormed) :
    r.contains c = true ↔ ∃ p ∈ pairs r.bounds.toList, p.1 ≤ c.toNat ∧ c.toNat < p.2 := by
  have hsorted := List.isChain_iff_pairwise.mp hr.1
  rw [contains, rank_eq hsorted, beq_iff_eq, odd_length_takeWhile hsorted hr.2]

/-- Every range of the one table lies in one of the other. -/
def within (r r' : Ranges) : Bool :=
  (pairs r.bounds.toList).all fun p =>
    (pairs r'.bounds.toList).any fun q => Nat.ble q.1 p.1 && Nat.ble p.2 q.2

theorem contains_of_within {r r' : Ranges} (hr : r.WellFormed) (hr' : r'.WellFormed)
    (hwithin : r.within r' = true) (h : r.contains c = true) : r'.contains c = true := by
  obtain ⟨p, hp, hlow, hhigh⟩ := (contains_iff hr).mp h
  obtain ⟨q, hq, hinside⟩ := List.any_eq_true.mp (List.all_eq_true.mp hwithin p hp)
  rw [Bool.and_eq_true, Nat.ble_eq, Nat.ble_eq] at hinside
  exact (contains_iff hr').mpr
    ⟨q, hq, Nat.le_trans hinside.1 hlow, Nat.lt_of_lt_of_le hhigh hinside.2⟩

end Ranges

-- -----------------------------------------------------------------------------------------
-- Digits and white space
-- -----------------------------------------------------------------------------------------

theorem isWord_of_isDigit (h : isDigit c = true) : isWord c = true := by
  unfold isDigit at h
  unfold isWord
  split
  · rename_i hc
    rw [if_pos hc] at h
    simp [isAsciiAlphanumeric, h]
  · rename_i hc
    rw [if_neg hc] at h
    exact Ranges.contains_of_within (by decide +kernel) (by decide +kernel) (by decide +kernel) h

theorem isDigit_of_isAsciiDigit (h : isAsciiDigit c = true) : isDigit c = true := by
  have hle : c.toNat ≤ 57 := by
    simp only [isAsciiDigit, Bool.and_eq_true, decide_eq_true_eq] at h
    exact h.2
  rw [isDigit, if_pos (by omega), h]

/-- The numbers of the characters that are white space. -/
def blankNumbers : List Nat :=
  [0x09, 0x0A, 0x0B, 0x0C, 0x0D, 0x20, 0x85, 0xA0, 0x1680, 0x2000, 0x2001, 0x2002, 0x2003, 0x2004,
    0x2005, 0x2006, 0x2007, 0x2008, 0x2009, 0x200A, 0x2028, 0x2029, 0x202F, 0x205F, 0x3000]

/-- What holds of their numbers holds of all white space. -/
theorem of_isBlank {P : Nat → Bool} (hall : blankNumbers.all P = true) (h : isBlank c = true) :
    P c.toNat = true := by
  refine List.all_eq_true.mp hall _ ?_
  simp only [isBlank, Bool.or_eq_true, Bool.and_eq_true, decide_eq_true_eq, beq_iff_eq] at h
  simp only [blankNumbers, List.mem_cons, List.not_mem_nil, or_false]
  omega

theorem not_isWord_of_isBlank (h : isBlank c = true) : isWord c = false := by
  have hnone := of_isBlank (P := fun n => !isWord (Char.ofNat n)) (by decide +kernel) h
  simpa [Char.ofNat_toNat] using hnone

/-- There is a character, and it belongs to a word. -/
def inWord (c : Option Char) : Bool := c.any isWord

@[simp] theorem inWord_none : inWord none = false := rfl

@[simp] theorem inWord_some (c : Char) : inWord (some c) = isWord c := rfl

end Wikitext.Chars
