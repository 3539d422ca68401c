import Wikitext.Proofs.Diff.Subsequence
import Mathlib.Data.List.Induction

/-!
# The chains of the search

The search keeps one chain for each length. `Kept` is its invariant: the kept
chains are common subsequences with the lengths 1, 2, 3 and so on, and the
number of those that end before a right position is the greatest length of a
common subsequence with what stands before that position. So the last one is a
longest common subsequence (`isChain_longestChain`, `length_longestChain`).
-/

namespace Wikitext.Diff

variable {α : Type}

/-- Pairs of positions of equal elements, which descend on both sides. -/
structure IsChain (left right : List α) (pairs : List (Nat × Nat)) : Prop where
  descends : pairs.Pairwise fun p q => q.1 < p.1 ∧ q.2 < p.2
  agree : ∀ p ∈ pairs, ∃ a, left[p.1]? = some a ∧ right[p.2]? = some a

namespace IsChain

variable {left right : List α}

theorem nil (left right : List α) : IsChain left right [] := ⟨.nil, by simp⟩

theorem cons (h : IsChain left right pairs) (hp : ∀ p ∈ pairs.head?, p.1 < i ∧ p.2 < j)
    (hl : left[i]? = some a) (hr : right[j]? = some a) : IsChain left right ((i, j) :: pairs) := by
  refine ⟨List.pairwise_cons.mpr ⟨?_, h.descends⟩, ?_⟩
  · cases pairs with
    | nil => simp
    | cons p pairs =>
      obtain ⟨hi, hj⟩ := hp p rfl
      refine List.forall_mem_cons.mpr ⟨⟨hi, hj⟩, fun q hq => ?_⟩
      obtain ⟨hqi, hqj⟩ := List.rel_of_pairwise_cons h.descends hq
      exact ⟨Nat.lt_trans hqi hi, Nat.lt_trans hqj hj⟩
  · exact List.forall_mem_cons.mpr ⟨⟨a, hl, hr⟩, h.agree⟩

theorem head_lt (h : IsChain left right ((i, j) :: pairs)) : ∀ p ∈ pairs.head?, p.2 < j :=
  fun _ hp => (List.rel_of_pairwise_cons h.descends (List.mem_of_mem_head? hp)).2

theorem left_lt (h : IsChain left right pairs) (hp : p ∈ pairs) : p.1 < left.length := by
  obtain ⟨a, hl, -⟩ := h.agree p hp
  exact (List.getElem?_eq_some_iff.mp hl).1

theorem right_lt (h : IsChain left right pairs) (hp : p ∈ pairs) : p.2 < right.length := by
  obtain ⟨a, -, hr⟩ := h.agree p hp
  exact (List.getElem?_eq_some_iff.mp hr).1

theorem snoc (h : IsChain left right pairs) : IsChain (left ++ [a]) right pairs := by
  refine ⟨h.descends, fun p hp => ?_⟩
  obtain ⟨b, hl, hr⟩ := h.agree p hp
  exact ⟨b, by rw [List.getElem?_append_left (h.left_lt hp), hl], hr⟩

end IsChain

-- -----------------------------------------------------------------------------------------
-- The kept chains, shortest first
-- -----------------------------------------------------------------------------------------

/-- Each chain is one pair longer than the one before it and ends further to the right. It need
not extend that one, which may have been replaced since. -/
inductive Ladder (left right : List α) : (before : List (Nat × Nat)) → List Chain → Prop
  | nil : Ladder left right before []
  | cons {c before cs} : IsChain left right c.pairs → c.earlier.length = before.length →
      (∀ p ∈ before.head?, p.2 < c.right) → Ladder left right c.pairs cs →
      Ladder left right before (c :: cs)

namespace Ladder

variable {left right : List α}

theorem replace (h : Ladder left right before cs) (hlength : after.length = before.length)
    (hhead : ∀ p ∈ after.head?, ∀ c ∈ cs.head?, p.2 < c.right) : Ladder left right after cs := by
  cases h with
  | nil => exact .nil
  | cons hc hlen _ hs => exact .cons hc (hlen.trans hlength.symm) (fun p hp => hhead p hp _ rfl) hs

theorem snoc (h : Ladder left right before cs) : Ladder (left ++ [a]) right before cs := by
  induction h with
  | nil => exact .nil
  | cons hc hlen hlt _ ih => exact .cons hc.snoc hlen hlt ih

theorem isChain (h : Ladder left right before cs) (hc : c ∈ cs) : IsChain left right c.pairs := by
  induction h with
  | nil => cases hc
  | cons hc' _ _ _ ih =>
    obtain rfl | hc := List.mem_cons.mp hc
    · exact hc'
    · exact ih hc

theorem sorted (h : Ladder left right before cs) :
    (∀ p ∈ before.head?, ∀ c ∈ cs, p.2 < c.right) ∧ cs.Pairwise (·.right < ·.right) := by
  induction h with
  | nil => exact ⟨by simp, .nil⟩
  | @cons c before cs _ _ hlt _ ih =>
    have hrest : ∀ c' ∈ cs, c.right < c'.right := ih.1 (c.left, c.right) rfl
    refine ⟨fun p hp => List.forall_mem_cons.mpr ⟨hlt p hp, fun c' hc' => ?_⟩, ?_⟩
    · exact Nat.lt_trans (hlt p hp) (hrest c' hc')
    · exact List.pairwise_cons.mpr ⟨hrest, ih.2⟩

theorem length_pairs (h : Ladder left right before cs) (hc : cs[k]? = some c) :
    c.pairs.length = before.length + k + 1 := by
  induction h generalizing k with
  | nil => cases hc
  | @cons c' before cs _ hlen _ _ ih =>
    cases k with
    | zero =>
      obtain rfl : c' = c := by simpa using hc
      simp [Chain.pairs, hlen]
    | succ k =>
      have hrest := ih (by simpa using hc)
      simp only [Chain.pairs, List.length_cons] at hrest ⊢
      omega

theorem length_getLast (h : Ladder left right before cs) (hc : cs.getLast? = some c) :
    c.pairs.length = before.length + cs.length := by
  have hne : 0 < cs.length := List.length_pos_of_mem (List.mem_of_getLast? hc)
  rw [List.getLast?_eq_getElem?] at hc
  rw [h.length_pairs hc]
  omega

theorem extend (h : Ladder left right before cs) (hbefore : IsChain left right ((i, j) :: before))
    (hcs : ∀ c ∈ cs, c.right < j → IsChain left right ((i, j) :: c.pairs)) :
    Ladder left right before (extend i j before cs) := by
  induction h with
  | nil => exact .cons hbefore rfl hbefore.head_lt .nil
  | @cons c before cs hc hlen hlt hs ih =>
    obtain ⟨hfirst, hrest⟩ := List.forall_mem_cons.mp hcs
    simp only [Diff.extend]
    split_ifs with hcj hjc
    · exact .cons hc hlen hlt (ih (hfirst hcj) hrest)
    · refine .cons hbefore rfl hbefore.head_lt (hs.replace ?_ ?_)
      · simp [Chain.pairs, hlen]
      · rintro p ⟨⟩ c' hc'
        exact Nat.lt_trans hjc (hs.sorted.1 _ rfl c' (List.mem_of_mem_head? hc'))
    · exact .cons hc hlen hlt hs

end Ladder

theorem mem_extend (h : c ∈ extend i j before cs) : c ∈ cs ∨ c.left = i ∧ c.right = j := by
  induction cs generalizing before with
  | nil => simp_all [extend]
  | cons c' cs ih =>
    simp only [extend] at h
    split_ifs at h
    · obtain rfl | h := List.mem_cons.mp h
      · exact .inl List.mem_cons_self
      · exact (ih h).imp_left (List.mem_cons_of_mem _)
    · obtain rfl | h := List.mem_cons.mp h
      · exact .inr ⟨rfl, rfl⟩
      · exact .inl (List.mem_cons_of_mem _ h)
    · exact .inl h

-- -----------------------------------------------------------------------------------------
-- How many chains end before a position
-- -----------------------------------------------------------------------------------------

def below (x : Nat) (cs : List Chain) : Nat := cs.countP (·.right < x)

@[simp]
theorem below_nil (x : Nat) : below x [] = 0 := rfl

theorem below_cons (x : Nat) (c : Chain) (cs : List Chain) :
    below x (c :: cs) = below x cs + if c.right < x then 1 else 0 := by
  simp [below, List.countP_cons]

theorem below_eq_zero (h : ∀ c ∈ cs, x ≤ c.right) : below x cs = 0 := by
  simpa [below, List.countP_eq_zero] using h

theorem below_eq_length (h : ∀ c ∈ cs, c.right < x) : below x cs = cs.length := by
  simpa [below, List.countP_eq_length] using h

/-- The pair makes one chain more end before the positions behind it, unless there are as many
already. -/
theorem below_extend (hs : cs.Pairwise (·.right < ·.right)) (x : Nat) :
    below x (extend i j before cs) = max (below x cs) (if j < x then below j cs + 1 else 0) := by
  induction cs generalizing before with
  | nil => simp [extend, below_cons]
  | cons c cs ih =>
    obtain ⟨hc, hs⟩ := List.pairwise_cons.mp hs
    -- None of the chains ends before a position that the first one does not end before.
    have hnone : ∀ y, y ≤ c.right → below y cs = 0 := fun y hy =>
      below_eq_zero fun c' hc' => Nat.le_trans hy (Nat.le_of_lt (hc c' hc'))
    rcases Nat.lt_trichotomy c.right j with hj | hj | hj
    · simp only [extend, if_pos hj, below_cons, ih hs]
      split_ifs <;> omega
    · have hzero := hnone j (Nat.le_of_eq hj.symm)
      simp only [extend, hj, below_cons, Nat.lt_irrefl, if_false, hzero]
      split_ifs <;> omega
    · have hzero := hnone j (Nat.le_of_lt hj)
      have hx := hnone x
      simp only [extend, if_neg (Nat.lt_asymm hj), if_pos hj, below_cons, hzero]
      split_ifs <;> omega

-- -----------------------------------------------------------------------------------------
-- The candidates of one left element
-- -----------------------------------------------------------------------------------------

/-- The candidates `js` of the left element at `i` are still to be visited. They descend, so the
chains that end before the next one do not have that element yet. -/
structure Round (left right : List α) (i : Nat) (js : List Nat) (cs : List Chain) : Prop where
  ladder : Ladder left right [] cs
  descends : js.Pairwise (· > ·)
  candidates : ∃ a, left[i]? = some a ∧ ∀ j ∈ js, right[j]? = some a
  unused : ∀ c ∈ cs, ∀ j ∈ js.head?, c.right < j → c.left < i

namespace Round

variable {left right : List α}

theorem next (h : Round left right i (j :: js) cs) :
    Round left right i js (extend i j [] cs) := by
  obtain ⟨hj, hjs⟩ := List.pairwise_cons.mp h.descends
  obtain ⟨a, hl, hr⟩ := h.candidates
  obtain ⟨hrj, hr⟩ := List.forall_mem_cons.mp hr
  refine ⟨?_, hjs, ⟨a, hl, hr⟩, fun c hc k hk hck => ?_⟩
  · refine h.ladder.extend ((IsChain.nil left right).cons (by simp) hl hrj) fun c hc hcj => ?_
    refine (h.ladder.isChain hc).cons ?_ hl hrj
    rintro p ⟨⟩
    exact ⟨h.unused c hc j rfl hcj, hcj⟩
  · have hkj := hj k (List.mem_of_mem_head? hk)
    obtain hc | ⟨-, hc⟩ := mem_extend hc
    · exact h.unused c hc j rfl (Nat.lt_trans hck hkj)
    · omega

theorem ladder_foldl (h : Round left right i js cs) :
    Ladder left right [] (js.foldl (fun cs j => extend i j [] cs) cs) := by
  induction js generalizing cs with
  | nil => exact h.ladder
  | cons j js ih => exact ih h.next

/-- Each candidate is counted with the chains that were there before the round. -/
theorem le_below_foldl (h : Round left right i js cs) :
    k ≤ below x (js.foldl (fun cs j => extend i j [] cs) cs) ↔
      k ≤ below x cs ∨ ∃ j ∈ js, j < x ∧ k ≤ below j cs + 1 := by
  induction js generalizing cs with
  | nil => simp
  | cons j js ih =>
    have hbelow : ∀ x, below x (extend i j [] cs) =
        max (below x cs) (if j < x then below j cs + 1 else 0) := below_extend h.ladder.sorted.2
    have hsame : ∀ j' ∈ js, below j' (extend i j [] cs) = below j' cs := fun j' hj' => by
      have hlt : j' < j := List.rel_of_pairwise_cons h.descends hj'
      rw [hbelow, if_neg (Nat.lt_asymm hlt), Nat.max_zero]
    have hrest : (∃ j' ∈ js, j' < x ∧ k ≤ below j' (extend i j [] cs) + 1) ↔
        ∃ j' ∈ js, j' < x ∧ k ≤ below j' cs + 1 :=
      exists_congr fun j' => and_congr_right fun hj' => by rw [hsame j' hj']
    have hfirst : k ≤ below x (extend i j [] cs) ↔
        k ≤ below x cs ∨ j < x ∧ k ≤ below j cs + 1 := by
      rw [hbelow]
      split_ifs <;> omega
    rw [List.foldl_cons, ih h.next, hrest, hfirst, List.exists_mem_cons_iff, or_assoc]

end Round

-- -----------------------------------------------------------------------------------------
-- The whole search
-- -----------------------------------------------------------------------------------------

/-- What a common subsequence with one more left element can end with. -/
theorem Shares.snoc_left_iff {left right : List α} :
    Shares (left ++ [a]) right (k + 1) ↔
      Shares left right (k + 1) ∨ ∃ j, right[j]? = some a ∧ Shares left (right.take j) k := by
  constructor
  · rintro ⟨s, hl, hr, hk⟩
    obtain ⟨s, t, rfl, hs, ht⟩ := List.sublist_append_iff.mp hl
    obtain rfl | rfl := List.sublist_singleton.mp ht
    · exact .inl ⟨s, hs, by simpa using hr, by simpa using hk⟩
    · obtain ⟨front, back, rfl, hfront, hback⟩ := List.append_sublist_iff.mp hr
      obtain ⟨u, v, rfl⟩ := List.append_of_mem (List.singleton_sublist.mp hback)
      refine .inr ⟨(front ++ u).length, ?_, s, hs, ?_, by simpa using hk⟩
      · rw [← List.append_assoc, List.getElem?_append_right (Nat.le_refl _)]
        simp
      · rw [← List.append_assoc, List.take_left']
        exact hfront.trans (List.sublist_append_left front u)
        rfl
  · rintro (h | ⟨j, hj, s, hl, hr, hk⟩)
    · exact h.mono (List.sublist_append_left left [a]) (.refl right)
    · have ha : [a].Sublist (right.drop j) := by
        rw [List.singleton_sublist]
        exact List.mem_of_getElem? (i := 0) (by simpa using hj)
      refine ⟨s ++ [a], hl.append (.refl [a]), ?_, by simp [hk]⟩
      rw [← List.take_append_drop j right]
      exact hr.append ha

/-- The chains kept after the left elements `left`. -/
structure Kept (left right : List α) (cs : List Chain) : Prop where
  ladder : Ladder left right [] cs
  counts : ∀ x, Cell left (right.take x) (below x cs)

theorem Kept.nil (right : List α) : Kept [] right [] := ⟨.nil, fun _ => .nil_left _⟩

section
variable [DecidableEq α]

theorem positions_concat (a b : α) (right : List α) :
    positions a (right ++ [b]) =
      if b = a then right.length :: positions a right else positions a right := by
  simp [positions, List.zipIdx_append]

theorem mem_positions {a : α} : j ∈ positions a right ↔ right[j]? = some a := by
  induction right using List.reverseRecOn with
  | nil => simp [positions]
  | append_singleton right b ih =>
    have hmem : j ∈ positions a (right ++ [b]) ↔
        b = a ∧ j = right.length ∨ j ∈ positions a right := by
      rw [positions_concat]
      split_ifs with hb <;> simp [hb]
    rw [hmem, ih]
    rcases Nat.lt_trichotomy j right.length with hj | rfl | hj
    · rw [List.getElem?_append_left hj]
      simp [Nat.ne_of_lt hj]
    · simp
    · have hnone : (right ++ [b])[j]? = none := List.getElem?_eq_none (by simpa using Nat.succ_le_of_lt hj)
      rw [List.getElem?_eq_none (Nat.le_of_lt hj), hnone]
      simp [Nat.ne_of_gt hj]

theorem positions_descend (a : α) (right : List α) : (positions a right).Pairwise (· > ·) := by
  induction right using List.reverseRecOn with
  | nil => simp [positions]
  | append_singleton right b ih =>
    rw [positions_concat]
    split_ifs
    · refine List.pairwise_cons.mpr ⟨fun j hj => ?_, ih⟩
      exact (List.getElem?_eq_some_iff.mp (mem_positions.mp hj)).1
    · exact ih

namespace Kept

variable {left right : List α}

theorem round (h : Kept left right cs) (a : α) :
    Round (left ++ [a]) right left.length (positions a right) cs where
  ladder := h.ladder.snoc
  descends := positions_descend a right
  candidates := ⟨a, by simp, fun _ hj => mem_positions.mp hj⟩
  unused c hc _ _ _ := (h.ladder.isChain hc).left_lt (p := (c.left, c.right)) List.mem_cons_self

theorem visit (h : Kept left right cs) (a : α) :
    Kept (left ++ [a]) right (visit right cs (a, left.length)) := by
  refine ⟨(h.round a).ladder_foldl, fun x k => ?_⟩
  refine (h.round a).le_below_foldl.trans ?_
  cases k with
  | zero => exact iff_of_true (.inl (Nat.zero_le _)) (.zero _ _)
  | succ k =>
    have htaken : (∃ j, (right.take x)[j]? = some a ∧ Shares left ((right.take x).take j) k) ↔
        ∃ j ∈ positions a right, j < x ∧ k + 1 ≤ below j cs + 1 := by
      refine exists_congr fun j => ?_
      rw [mem_positions, Nat.add_le_add_iff_right, h.counts j k, List.getElem?_take, List.take_take]
      split_ifs with hj
      · simp [hj, Nat.min_eq_left (Nat.le_of_lt hj)]
      · simp [hj]
    rw [Shares.snoc_left_iff, h.counts x, htaken]

theorem foldl (h : Kept done right cs) (left : List α) :
    Kept (done ++ left) right ((left.zipIdx done.length).foldl (Diff.visit right) cs) := by
  induction left generalizing done cs with
  | nil => simpa using h
  | cons a left ih => simpa using ih (h.visit a)

end Kept

theorem kept_chains (left right : List α) : Kept left right (chains left right) :=
  (Kept.nil right).foldl left

theorem length_chains (left right : List α) : (chains left right).length = lcsLength left right := by
  have h := kept_chains left right
  have hall : below right.length (chains left right) = (chains left right).length :=
    below_eq_length fun c hc =>
      (h.ladder.isChain hc).right_lt (p := (c.left, c.right)) List.mem_cons_self
  have hcell := h.counts right.length
  rw [hall, List.take_length] at hcell
  exact hcell.unique (cell_lcsLength left right)

theorem isChain_longestChain (left right : List α) :
    IsChain left right (longestChain left right) := by
  unfold longestChain
  split
  · rename_i c hc
    exact (kept_chains left right).ladder.isChain (List.mem_of_getLast? hc)
  · exact .nil left right

theorem length_longestChain (left right : List α) :
    (longestChain left right).length = lcsLength left right := by
  rw [← length_chains]
  unfold longestChain
  split
  · rename_i c hc
    simpa using (kept_chains left right).ladder.length_getLast hc
  · rename_i hc
    simp [List.getLast?_eq_none_iff.mp hc]

end

end Wikitext.Diff
