import Wikitext.Proofs.Diff.Chains

/-!
# What a matching of two sequences is worth

`lcsMatches_longest`: the matches are pairs of equal elements, ascending on both
sides, and there are as many as the textbook table says.
-/

namespace Wikitext.Diff

variable {α : Type}

-- -----------------------------------------------------------------------------------------
-- The pairs of a vector of matches
-- -----------------------------------------------------------------------------------------

/-- The matched pairs of positions, where the first match is that of left position `i`. -/
def pairsFrom (i : Nat) : List (Option Nat) → List (Nat × Nat)
  | [] => []
  | some j :: ms => (i, j) :: pairsFrom (i + 1) ms
  | none :: ms => pairsFrom (i + 1) ms

def matchedPairs (ms : List (Option Nat)) : List (Nat × Nat) := pairsFrom 0 ms

theorem pairsFrom_append (i : Nat) (ms ms' : List (Option Nat)) :
    pairsFrom i (ms ++ ms') = pairsFrom i ms ++ pairsFrom (i + ms.length) ms' := by
  induction ms generalizing i with
  | nil => rfl
  | cons m ms ih =>
    have hlength : i + 1 + ms.length = i + (m :: ms).length := by
      simp only [List.length_cons]
      omega
    cases m <;> simp only [List.cons_append, pairsFrom, ih, hlength]

theorem pairsFrom_eq_nil (i : Nat) (h : ∀ m ∈ ms, m = none) : pairsFrom i ms = [] := by
  induction ms generalizing i with
  | nil => rfl
  | cons m ms ih =>
    obtain ⟨rfl, hms⟩ := List.forall_mem_cons.mp h
    exact ih (i + 1) hms

theorem pairsFrom_shift (d e i : Nat) (ms : List (Option Nat)) :
    pairsFrom (d + i) (ms.map (·.map (e + ·))) =
      (pairsFrom i ms).map fun p => (d + p.1, e + p.2) := by
  induction ms generalizing i with
  | nil => rfl
  | cons m ms ih =>
    cases m with
    | none => exact ih (i + 1)
    | some j => exact congrArg ((d + i, e + j) :: ·) (ih (i + 1))

theorem pairsFrom_diagonal (i j n : Nat) :
    pairsFrom i ((List.range' j n).map some) =
      (List.range n).map fun k => (i + k, j + k) := by
  induction n generalizing i j with
  | zero => rfl
  | succ n ih =>
    rw [List.range'_succ, List.map_cons, pairsFrom, ih, List.range_succ_eq_map, List.map_cons,
      List.map_map]
    refine congrArg ((i, j) :: ·) (List.map_congr_left fun k _ => ?_)
    simp only [Function.comp_apply, Nat.succ_eq_add_one, Prod.mk.injEq]
    omega

theorem left_mem_pairsFrom (h : p ∈ pairsFrom i ms) : i ≤ p.1 ∧ p.1 < i + ms.length := by
  induction ms generalizing i with
  | nil => cases h
  | cons m ms ih =>
    cases m with
    | none =>
      have hp := ih h
      simp only [List.length_cons]
      omega
    | some j =>
      simp only [List.length_cons]
      obtain rfl | h := List.mem_cons.mp h
      · simp
      · have hp := ih h
        omega

theorem mem_pairsFrom : (i + k, j) ∈ pairsFrom i ms ↔ ms[k]? = some (some j) := by
  induction ms generalizing i k with
  | nil => simp [pairsFrom]
  | cons m ms ih =>
    cases k with
    | zero =>
      have hlater : (i, j) ∉ pairsFrom (i + 1) ms := fun h => by
        have hi := (left_mem_pairsFrom h).1
        omega
      cases m <;> simp [pairsFrom, hlater, eq_comm]
    | succ k =>
      rw [List.getElem?_cons_succ, ← ih (i := i + 1), Nat.add_right_comm, Nat.add_assoc]
      cases m <;> simp [pairsFrom]

theorem mem_matchedPairs {i j : Nat} : (i, j) ∈ matchedPairs ms ↔ ms[i]? = some (some j) := by
  rw [← mem_pairsFrom (i := 0), Nat.zero_add, matchedPairs]

/-- Left and right positions ascend together, and what is matched is equal. -/
structure IsMatching (left right : List α) (ms : List (Option Nat)) : Prop where
  length_eq : ms.length = left.length
  ascends : (matchedPairs ms).Pairwise fun p q => p.1 < q.1 ∧ p.2 < q.2
  agree : ∀ p ∈ matchedPairs ms, ∃ a, left[p.1]? = some a ∧ right[p.2]? = some a

namespace IsMatching

variable {left right left' right' : List α}

theorem right_lt (h : IsMatching left right ms) (hp : p ∈ matchedPairs ms) :
    p.2 < right.length := by
  obtain ⟨a, -, hr⟩ := h.agree p hp
  exact (List.getElem?_eq_some_iff.mp hr).1

theorem matchedPairs_append (h : IsMatching left right ms) (ms' : List (Option Nat)) :
    matchedPairs (ms ++ ms'.map (·.map (right.length + ·))) =
      matchedPairs ms ++ (matchedPairs ms').map fun p => (left.length + p.1, right.length + p.2) := by
  rw [matchedPairs, pairsFrom_append, Nat.zero_add, h.length_eq, ← Nat.add_zero left.length,
    pairsFrom_shift]
  rfl

/-- Matchings of two parts make one of the whole. -/
theorem append (h : IsMatching left right ms) (h' : IsMatching left' right' ms') :
    IsMatching (left ++ left') (right ++ right') (ms ++ ms'.map (·.map (right.length + ·))) := by
  refine ⟨by simp [h.length_eq, h'.length_eq], ?_, ?_⟩
  · rw [h.matchedPairs_append, List.pairwise_append, List.pairwise_map]
    refine ⟨h.ascends, h'.ascends.imp fun hpq => ?_, fun p hp q hq => ?_⟩
    · exact ⟨Nat.add_lt_add_left hpq.1 _, Nat.add_lt_add_left hpq.2 _⟩
    · obtain ⟨q, -, rfl⟩ := List.mem_map.mp hq
      have hl := (left_mem_pairsFrom hp).2
      rw [Nat.zero_add, h.length_eq] at hl
      exact ⟨Nat.lt_add_right q.1 hl, Nat.lt_add_right q.2 (h.right_lt hp)⟩
  · intro p hp
    rw [h.matchedPairs_append, List.mem_append] at hp
    obtain hp | hp := hp
    · obtain ⟨a, hl, hr⟩ := h.agree p hp
      exact ⟨a, by rw [List.getElem?_append_left (List.getElem?_eq_some_iff.mp hl).1, hl],
        by rw [List.getElem?_append_left (List.getElem?_eq_some_iff.mp hr).1, hr]⟩
    · obtain ⟨q, hq, rfl⟩ := List.mem_map.mp hp
      obtain ⟨a, hl, hr⟩ := h'.agree q hq
      refine ⟨a, ?_, ?_⟩
      · rw [List.getElem?_append_right (Nat.le_add_right _ _), Nat.add_sub_cancel_left, hl]
      · rw [List.getElem?_append_right (Nat.le_add_right _ _), Nat.add_sub_cancel_left, hr]

end IsMatching

-- -----------------------------------------------------------------------------------------
-- The matches of equal sequences, and those of a chain
-- -----------------------------------------------------------------------------------------

/-- The matches of a sequence of length `n` with itself. -/
def diagonal (n : Nat) : List (Option Nat) := (List.range n).map some

theorem matchedPairs_diagonal (n : Nat) :
    matchedPairs (diagonal n) = (List.range n).map fun k => (k, k) := by
  simpa [matchedPairs, diagonal, List.range_eq_range'] using pairsFrom_diagonal 0 0 n

theorem isMatching_diagonal (l : List α) : IsMatching l l (diagonal l.length) := by
  refine ⟨by simp [diagonal], ?_, ?_⟩
  · rw [matchedPairs_diagonal, List.pairwise_map]
    exact List.pairwise_lt_range.imp fun h => ⟨h, h⟩
  · rw [matchedPairs_diagonal]
    intro p hp
    obtain ⟨k, hk, rfl⟩ := List.mem_map.mp hp
    have hget := List.getElem?_eq_getElem (List.mem_range.mp hk)
    exact ⟨_, hget, hget⟩

/-- Looking up every position gives the pairs back in ascending order. -/
theorem matchedPairs_lookup {pairs : List (Nat × Nat)}
    (h : pairs.Pairwise fun p q => q.1 < p.1 ∧ q.2 < p.2) (hn : ∀ p ∈ pairs.head?, p.1 < n) :
    matchedPairs ((List.range n).map fun i => List.lookup i pairs) = pairs.reverse := by
  induction pairs generalizing n with
  | nil => exact pairsFrom_eq_nil 0 (by simp)
  | cons p pairs ih =>
    obtain ⟨i, j⟩ := p
    obtain ⟨hp, hpairs⟩ := List.pairwise_cons.mp h
    obtain ⟨m, rfl⟩ := Nat.exists_eq_add_of_lt (hn (i, j) rfl)
    have hbefore : ((List.range i).map fun k => List.lookup k ((i, j) :: pairs)) =
        (List.range i).map fun k => List.lookup k pairs := by
      refine List.map_congr_left fun k hk => ?_
      have hne : (k == i) = false := by simpa using Nat.ne_of_lt (List.mem_range.mp hk)
      simp [List.lookup_cons, hne]
    have hat : ((List.range (m + 1)).map (i + ·)).map (fun k => List.lookup k ((i, j) :: pairs)) =
        some j :: (List.range m).map fun _ => none := by
      rw [List.range_succ_eq_map, List.map_map, List.map_cons, List.map_map]
      refine List.cons_eq_cons.mpr ⟨by simp, List.map_congr_left fun k _ => ?_⟩
      refine List.lookup_eq_none_iff.mpr fun p hpm => ?_
      have hle : p.1 ≤ i := by
        obtain rfl | hpm := List.mem_cons.mp hpm
        · exact Nat.le_refl i
        · exact Nat.le_of_lt (hp p hpm).1
      simp only [bne_iff_ne, Nat.succ_eq_add_one]
      omega
    rw [Nat.add_assoc, List.range_add, List.map_append, hbefore, hat, matchedPairs,
      pairsFrom_append, List.reverse_cons]
    refine congr (congrArg _ (ih hpairs fun p hpm => ?_)) ?_
    · exact (hp p (List.mem_of_mem_head? hpm)).1
    · rw [pairsFrom, pairsFrom_eq_nil _ (by simp)]
      simp

section
variable [DecidableEq α]

theorem matchedPairs_searchMatches (left right : List α) :
    matchedPairs (searchMatches left right) = (longestChain left right).reverse := by
  have h := isChain_longestChain left right
  exact matchedPairs_lookup h.descends fun p hp => h.left_lt (List.mem_of_mem_head? hp)

theorem isMatching_searchMatches (left right : List α) :
    IsMatching left right (searchMatches left right) := by
  have h := isChain_longestChain left right
  refine ⟨by simp [searchMatches], ?_, ?_⟩
  · rw [matchedPairs_searchMatches]
    exact List.pairwise_reverse.mpr h.descends
  · rw [matchedPairs_searchMatches]
    exact fun p hp => h.agree p (List.mem_reverse.mp hp)

-- -----------------------------------------------------------------------------------------
-- What the sequences begin and end with in common
-- -----------------------------------------------------------------------------------------

theorem exists_commonPrefix (left right : List α) :
    ∃ p left' right', p.length = commonPrefix left right ∧ left = p ++ left' ∧
      right = p ++ right' := by
  induction left generalizing right with
  | nil => exact ⟨[], [], right, by simp [commonPrefix], rfl, rfl⟩
  | cons a left ih =>
    cases right with
    | nil => exact ⟨[], a :: left, [], by simp [commonPrefix], rfl, rfl⟩
    | cons b right =>
      by_cases hab : a = b
      · obtain ⟨p, left', right', hp, rfl, rfl⟩ := ih right
        exact ⟨a :: p, left', right', by simp [commonPrefix, hab, hp], rfl, by rw [hab]; rfl⟩
      · exact ⟨[], a :: left, b :: right, by simp [commonPrefix, hab], rfl, rfl⟩

/-- The search is left with what stands between a common start and a common end. -/
theorem exists_lcsMatches (left right : List α) :
    ∃ p inner inner' s, left = p ++ inner ++ s ∧ right = p ++ inner' ++ s ∧
      lcsMatches left right = diagonal p.length ++
        (searchMatches inner inner').map (·.map (p.length + ·)) ++
        (diagonal s.length).map (·.map ((p ++ inner').length + ·)) := by
  obtain ⟨p, left', right', hp, hl, hr⟩ := exists_commonPrefix left right
  obtain ⟨s, inner, inner', hs, hl', hr'⟩ := exists_commonPrefix left'.reverse right'.reverse
  rw [List.reverse_eq_iff, List.reverse_append] at hl' hr'
  have htake : left'.take (left'.length - s.length) = inner.reverse := by
    rw [hl', List.take_left' (by simp)]
  have htake' : right'.take (right'.length - s.length) = inner'.reverse := by
    rw [hr', List.take_left' (by simp)]
  have hend : right.length - s.length = (p ++ inner'.reverse).length := by
    rw [hr, hr']
    simp only [List.length_append, List.length_reverse]
    omega
  refine ⟨p, inner.reverse, inner'.reverse, s.reverse, ?_, ?_, ?_⟩
  · rw [hl, hl', List.append_assoc]
  · rw [hr, hr', List.append_assoc]
  · have hstart : left.drop p.length = left' ∧ right.drop p.length = right' := by
      rw [hl, hr, List.drop_left, List.drop_left]
      exact ⟨rfl, rfl⟩
    simp only [lcsMatches, ← hp, hstart.1, hstart.2, ← hs, htake, htake', hend, diagonal,
      List.length_reverse, List.map_map]
    rfl

theorem isMatching_lcsMatches (left right : List α) :
    IsMatching left right (lcsMatches left right) := by
  obtain ⟨p, inner, inner', s, rfl, rfl, hms⟩ := exists_lcsMatches left right
  rw [hms]
  exact ((isMatching_diagonal p).append (isMatching_searchMatches inner inner')).append
    (isMatching_diagonal s)

theorem length_matchedPairs_lcsMatches (left right : List α) :
    (matchedPairs (lcsMatches left right)).length = lcsLength left right := by
  obtain ⟨p, inner, inner', s, rfl, rfl, hms⟩ := exists_lcsMatches left right
  have hstart := isMatching_diagonal p
  have hinner := hstart.append (isMatching_searchMatches inner inner')
  have hcell := (cell_lcsLength inner inner').surrounded p s
  rw [hms, hinner.matchedPairs_append, hstart.matchedPairs_append, matchedPairs_diagonal,
    matchedPairs_diagonal, matchedPairs_searchMatches, (cell_lcsLength _ _).unique hcell,
    ← length_longestChain inner inner']
  simp [Nat.add_assoc]

/-- The matches are a common subsequence, and the table knows no longer one. -/
theorem lcsMatches_longest (left right : List α) :
    (lcsMatches left right).length = left.length ∧
      (matchedPairs (lcsMatches left right)).Pairwise (fun p q => p.1 < q.1 ∧ p.2 < q.2) ∧
      (∀ i j : Nat, (lcsMatches left right)[i]? = some (some j) →
        ∃ a, left[i]? = some a ∧ right[j]? = some a) ∧
      (matchedPairs (lcsMatches left right)).length = lcsLength left right := by
  have h := isMatching_lcsMatches left right
  refine ⟨h.length_eq, h.ascends, fun i j hij => ?_, length_matchedPairs_lcsMatches left right⟩
  exact h.agree (i, j) (mem_matchedPairs.mpr hij)

end

end Wikitext.Diff
