import Wikitext.Diff.Matching
import Mathlib.Data.List.Basic

/-!
# Lengths of common subsequences

`lcsLength` is the textbook table, filled row by row: a row for each left
element, a cell for each prefix of the right sequence. `le_lcsLength_iff`: it
bounds the lengths of the common subsequences, and every length up to it is
reached.
-/

namespace Wikitext.Diff

variable {α : Type}

/-- The two sequences have a common subsequence of length `k`. -/
def Shares (left right : List α) (k : Nat) : Prop :=
  ∃ s : List α, s.Sublist left ∧ s.Sublist right ∧ s.length = k

-- -----------------------------------------------------------------------------------------
-- The table
-- -----------------------------------------------------------------------------------------

section
variable [DecidableEq α]

/-- The cells for the left element `a` behind the cell `before`, given the row above from the
column of that cell on. -/
def nextCells (a : α) : (right : List α) → (before : Nat) → (above : List Nat) → List Nat
  | b :: right, before, corner :: up :: above =>
    let cell := if a = b then corner + 1 else max up before
    cell :: nextCells a right cell (up :: above)
  | _, _, _ => []

def nextRow (right : List α) (above : List Nat) (a : α) : List Nat := 0 :: nextCells a right 0 above

/-- The length of a longest common subsequence. -/
def lcsLength (left right : List α) : Nat :=
  (left.foldl (nextRow right) (List.replicate (right.length + 1) 0)).getLastD 0

end

-- -----------------------------------------------------------------------------------------
-- Common subsequences of longer sequences
-- -----------------------------------------------------------------------------------------

namespace Shares

variable {left right : List α}

theorem zero (left right : List α) : Shares left right 0 := ⟨[], by simp, by simp, rfl⟩

theorem of_le (h : Shares left right k) (hj : j ≤ k) : Shares left right j := by
  obtain ⟨s, hl, hr, rfl⟩ := h
  have ht := List.take_sublist j s
  exact ⟨s.take j, ht.trans hl, ht.trans hr, List.length_take_of_le hj⟩

theorem mono (h : Shares left right k) (hl : left.Sublist left') (hr : right.Sublist right') :
    Shares left' right' k := by
  obtain ⟨s, hsl, hsr, hk⟩ := h
  exact ⟨s, hsl.trans hl, hsr.trans hr, hk⟩

theorem reverse (h : Shares left right k) : Shares left.reverse right.reverse k := by
  obtain ⟨s, hl, hr, hk⟩ := h
  exact ⟨s.reverse, hl.reverse, hr.reverse, by simpa using hk⟩

theorem reverse_iff : Shares left.reverse right.reverse k ↔ Shares left right k := by
  refine ⟨fun h => ?_, reverse⟩
  simpa using h.reverse

theorem nil_left_iff : Shares [] right k ↔ k = 0 := by
  constructor
  · rintro ⟨s, hl, -, rfl⟩
    simp [List.sublist_nil.mp hl]
  · rintro rfl
    exact zero [] right

theorem nil_right_iff : Shares left [] k ↔ k = 0 := by
  constructor
  · rintro ⟨s, -, hr, rfl⟩
    simp [List.sublist_nil.mp hr]
  · rintro rfl
    exact zero left []

/-- What both sequences begin with belongs to a longest common subsequence. -/
theorem cons_self_iff : Shares (a :: left) (a :: right) (k + 1) ↔ Shares left right k := by
  constructor
  · rintro ⟨s, hl, hr, hk⟩
    obtain ⟨x, s, rfl⟩ := List.exists_cons_of_ne_nil (List.ne_nil_of_length_eq_add_one hk)
    exact ⟨s, hl.tail, hr.tail, by simpa using hk⟩
  · rintro ⟨s, hl, hr, rfl⟩
    exact ⟨a :: s, hl.cons_cons a, hr.cons_cons a, rfl⟩

/-- Two different elements at the start do not both belong to a common subsequence. -/
theorem cons_ne_iff (hab : a ≠ b) :
    Shares (a :: left) (b :: right) k ↔ Shares left (b :: right) k ∨ Shares (a :: left) right k := by
  constructor
  · rintro ⟨s, hl, hr, hk⟩
    cases hl with
    | cons _ hl => exact .inl ⟨s, hl, hr, hk⟩
    | cons_cons _ hl =>
      cases hr with
      | cons _ hr => exact .inr ⟨_, hl.cons_cons a, hr, hk⟩
      | cons_cons _ _ => exact absurd rfl hab
  · rintro (h | h)
    · exact h.mono (List.sublist_cons_self a left) (.refl _)
    · exact h.mono (.refl _) (List.sublist_cons_self b right)

theorem snoc_self_iff : Shares (left ++ [a]) (right ++ [a]) (k + 1) ↔ Shares left right k := by
  rw [← reverse_iff, List.reverse_append, List.reverse_append]
  exact cons_self_iff.trans reverse_iff

theorem snoc_ne_iff (hab : a ≠ b) :
    Shares (left ++ [a]) (right ++ [b]) k ↔
      Shares left (right ++ [b]) k ∨ Shares (left ++ [a]) right k := by
  have h : Shares (a :: left.reverse) (b :: right.reverse) k ↔
      Shares left.reverse (b :: right.reverse) k ∨ Shares (a :: left.reverse) right.reverse k :=
    cons_ne_iff hab
  simpa only [← List.reverse_concat, reverse_iff] using h

/-- What both sequences begin with counts in full. -/
theorem append_left_iff (p : List α) :
    Shares (p ++ left) (p ++ right) (p.length + k) ↔ Shares left right k := by
  induction p with
  | nil => simp
  | cons a p ih =>
    rw [List.length_cons, Nat.add_right_comm]
    exact cons_self_iff.trans ih

theorem append_right_iff (s : List α) :
    Shares (left ++ s) (right ++ s) (s.length + k) ↔ Shares left right k := by
  rw [← reverse_iff, List.reverse_append, List.reverse_append, ← List.length_reverse]
  exact (append_left_iff s.reverse).trans reverse_iff

end Shares

-- -----------------------------------------------------------------------------------------
-- What the cells of the table say
-- -----------------------------------------------------------------------------------------

/-- The number is the greatest length of a common subsequence. -/
def Cell (left right : List α) (n : Nat) : Prop := ∀ k, k ≤ n ↔ Shares left right k

/-- The row for `left`, from the column after `done` on. -/
inductive Cells (left : List α) : (done right : List α) → List Nat → Prop
  | last : Cell left done n → Cells left done [] [n]
  | cons : Cell left done n → Cells left (done ++ [b]) right ns →
      Cells left done (b :: right) (n :: ns)

namespace Cell

variable {left right : List α}

theorem unique (h : Cell left right n) (h' : Cell left right m) : n = m :=
  Nat.le_antisymm ((h' n).mpr ((h n).mp n.le_refl)) ((h m).mpr ((h' m).mp m.le_refl))

theorem nil_left (right : List α) : Cell [] right 0 := fun k => by
  rw [Shares.nil_left_iff, Nat.le_zero]

theorem nil_right (left : List α) : Cell left [] 0 := fun k => by
  rw [Shares.nil_right_iff, Nat.le_zero]

/-- A cell comes from the three cells around it. -/
theorem next [DecidableEq α] (corner : Cell left right c) (up : Cell left (right ++ [b]) u)
    (before : Cell (left ++ [a]) right d) :
    Cell (left ++ [a]) (right ++ [b]) (if a = b then c + 1 else max u d) := by
  intro k
  by_cases hab : a = b
  · rw [if_pos hab, ← hab]
    cases k with
    | zero => exact iff_of_true (Nat.zero_le _) (.zero _ _)
    | succ k => rw [Nat.add_le_add_iff_right, corner k, Shares.snoc_self_iff]
  · rw [if_neg hab, Shares.snoc_ne_iff hab, ← up k, ← before k]
    omega

/-- Elements that both sequences begin or end with count in full. -/
theorem surrounded (p s : List α) (h : Cell left right n) :
    Cell (p ++ left ++ s) (p ++ right ++ s) (p.length + n + s.length) := by
  have hiff : ∀ k, Shares (p ++ left ++ s) (p ++ right ++ s) (s.length + (p.length + k)) ↔
      k ≤ n := fun k => by rw [Shares.append_right_iff, Shares.append_left_iff, h k]
  intro k
  constructor
  · intro hk
    exact ((hiff n).mpr (Nat.le_refl n)).of_le (by omega)
  · intro hk
    by_contra hlt
    have hmore := (hiff (n + 1)).mp (hk.of_le (by omega))
    omega

end Cell

theorem Cells.getLastD (h : Cells left done right ns) : Cell left (done ++ right) (ns.getLastD 0) := by
  induction h with
  | last h => simpa using h
  | cons _ hs ih =>
    rw [List.append_assoc] at ih
    cases hs <;> simpa using ih

theorem Cells.zero (done right : List α) :
    Cells [] done right (List.replicate (right.length + 1) 0) := by
  induction right generalizing done with
  | nil => exact .last (.nil_left done)
  | cons b right ih => exact .cons (.nil_left done) (ih (done ++ [b]))

section
variable [DecidableEq α] {left right : List α}

theorem Cells.nextCells (h : Cells left done right above)
    (hbefore : Cell (left ++ [a]) done before) :
    Cells (left ++ [a]) done right (before :: nextCells a right before above) := by
  induction h generalizing before with
  | last _ => exact .last hbefore
  | cons hcorner hs ih =>
    cases hs with
    | last hup => exact .cons hbefore (ih (hcorner.next hup hbefore))
    | cons hup _ => exact .cons hbefore (ih (hcorner.next hup hbefore))

theorem Cells.nextRow (h : Cells left [] right above) :
    Cells (left ++ [a]) [] right (nextRow right above a) := h.nextCells (.nil_right _)

theorem Cells.foldl (h : Cells done [] right above) (left : List α) :
    Cells (done ++ left) [] right (left.foldl (Diff.nextRow right) above) := by
  induction left generalizing done above with
  | nil => simpa using h
  | cons a left ih => simpa using ih (h.nextRow (a := a))

theorem cell_lcsLength (left right : List α) : Cell left right (lcsLength left right) :=
  ((Cells.zero [] right).foldl left).getLastD

/-- The table bounds the common subsequences, and none of the lengths below is missing. -/
theorem le_lcsLength_iff : k ≤ lcsLength left right ↔ Shares left right k :=
  cell_lcsLength left right k

example : lcsLength [0, 1, 2, 1, 3, 0, 1] [1, 3, 2, 0, 1, 0] = 4 := by decide

end

end Wikitext.Diff
