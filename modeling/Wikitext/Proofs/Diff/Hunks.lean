import Wikitext.Diff.Hunk
import Wikitext.Proofs.Diff.Matching
import Mathlib.Data.List.Chain

/-!
# Hunks cover both sides

`Cut` says what hunks stand for which matches, one hunk a rule, and every vector
of matches is cut so (`cut_hunksOfMatches`). What holds of the hunks is then shown
rule by rule; `hunks_cover` puts it together.
-/

namespace Wikitext.Diff

/-- Ranges that follow each other without a gap, from `start` up to `stop`. -/
inductive Tiles : (start stop : Nat) → List (Nat × Nat) → Prop
  | nil : Tiles start start []
  | cons : start ≤ next → Tiles next stop ranges → Tiles start stop ((start, next) :: ranges)

def leftRanges (hs : List Hunk) : List (Nat × Nat) := hs.map fun h => (h.leftStart, h.leftStop)

def rightRanges (hs : List Hunk) : List (Nat × Nat) := hs.map fun h => (h.rightStart, h.rightStop)

/-- The hunks for the matches `ms` from the place `(i, j)` on, where the right sequence has length
`m`; the flag is that of the first hunk. -/
inductive Cut (m : Nat) : Bool → (i j : Nat) → List (Option Nat) → List Hunk → Prop
  | done : m ≤ j → Cut m false i j [] []
  | last : 0 < n ∨ j < m →
      Cut m false i j (List.replicate n none) [⟨i, i + n, j, m, false⟩]
  | differ : 0 < n ∨ k ≠ j → Cut m true (i + n) k (some k :: ms) hs →
      Cut m false i j (List.replicate n none ++ some k :: ms) (⟨i, i + n, j, k, false⟩ :: hs)
  | same : 0 < n → Cut m false (i + n) (j + n) ms hs →
      Cut m true i j ((List.range' j n).map some ++ ms) (sameHunk i j n :: hs)

-- -----------------------------------------------------------------------------------------
-- How the loop cuts
-- -----------------------------------------------------------------------------------------

theorem gap_split (ms : List (Option Nat)) :
    ms = List.replicate (gapLength ms) none ++ ms.drop (gapLength ms) ∧
      (ms.drop (gapLength ms)).head? ≠ some none := by
  induction ms with
  | nil => simp [gapLength]
  | cons m ms ih =>
    cases m with
    | none =>
      refine ⟨?_, by simpa [gapLength] using ih.2⟩
      rw [gapLength, List.replicate_succ, List.drop_succ_cons, List.cons_append, ← ih.1]
    | some j => simp [gapLength]

theorem run_split (j : Nat) (ms : List (Option Nat)) :
    ms = (List.range' j (runLength j ms)).map some ++ ms.drop (runLength j ms) ∧
      (ms.drop (runLength j ms)).head? ≠ some (some (j + runLength j ms)) := by
  induction ms generalizing j with
  | nil => simp [runLength]
  | cons m ms ih =>
    cases m with
    | none => simp [runLength]
    | some k =>
      by_cases hk : k = j
      · obtain ⟨hsplit, hhead⟩ := ih (j + 1)
        simp only [runLength, hk, if_true, List.range'_succ, List.map_cons, List.cons_append,
          List.drop_succ_cons, ← hsplit]
        exact ⟨trivial, by rwa [Nat.add_assoc, Nat.add_comm 1] at hhead⟩
      · simp [runLength, hk]

theorem cut_changesFrom (h : ms.head? ≠ some (some j)) :
    Cut m false i j ms (changesFrom m i j ms) := by
  fun_induction changesFrom m i j ms with
  | case1 i j ms hdone =>
    simp only [Bool.and_eq_true, List.isEmpty_iff, decide_eq_true_eq] at hdone
    rw [hdone.1]
    exact .done hdone.2
  | case2 i j ms hmore gap k rest hdrop n ih =>
    have hms : ms = List.replicate gap none ++ some k :: rest :=
      (gap_split ms).1.trans (by rw [← hdrop])
    obtain ⟨hsplit, hhead⟩ := run_split (k + 1) rest
    have hrun : (List.range' k n).map some ++ rest.drop (n - 1) = some k :: rest := by
      rw [List.range'_succ, List.map_cons, List.cons_append, Nat.add_sub_cancel, ← hsplit]
    have hsame := Cut.same (i := i + gap) (Nat.succ_pos _) (ih ?_)
    · rw [hrun] at hsame
      rw [hms]
      refine .differ ?_ hsame
      by_contra hnone
      obtain ⟨hgap, rfl⟩ : gap = 0 ∧ k = j := by omega
      rw [hms, hgap] at h
      exact h rfl
    · rwa [Nat.add_assoc, Nat.add_comm 1] at hhead
  | case3 i j ms hmore gap hlast =>
    obtain ⟨hsplit, hhead⟩ := gap_split ms
    have hend : ms.drop gap = [] := by
      rcases hdrop : ms.drop gap with _ | ⟨_ | k, rest⟩
      · rfl
      · exact absurd (congrArg List.head? hdrop) hhead
      · exact absurd hdrop (hlast k rest)
    have hms : ms = List.replicate gap none := by
      rw [hend, List.append_nil] at hsplit
      exact hsplit
    have hmore' : 0 < gap ∨ j < m := by
      by_contra hnone
      obtain ⟨hgap, hj⟩ : gap = 0 ∧ m ≤ j := by omega
      rw [hgap] at hms
      simp [hms, hj] at hmore
    rw [hms]
    exact .last hmore'

/-- Whatever the matches are, the hunks are cut in turn. -/
theorem cut_hunksOfMatches (ms : List (Option Nat)) (m : Nat) :
    ∃ same, Cut m same 0 0 ms (hunksOfMatches ms m) := by
  obtain ⟨hsplit, hhead⟩ := run_split 0 ms
  rw [Nat.zero_add] at hhead
  have hrest := cut_changesFrom (m := m) (i := runLength 0 ms) hhead
  by_cases hn : runLength 0 ms = 0
  · refine ⟨false, ?_⟩
    simpa [hunksOfMatches, hn] using hrest
  · refine ⟨true, ?_⟩
    have hsame := Cut.same (i := 0) (j := 0) (Nat.pos_of_ne_zero hn) (by simpa using hrest)
    rw [← hsplit] at hsame
    simpa [hunksOfMatches, hn] using hsame

-- -----------------------------------------------------------------------------------------
-- Matches in any order
-- -----------------------------------------------------------------------------------------

/-- The pairs of positions that a hunk puts side by side. -/
def hunkPairs (h : Hunk) : List (Nat × Nat) :=
  (List.range h.leftLength).map fun k => (h.leftStart + k, h.rightStart + k)

def samePairs (hs : List Hunk) : List (Nat × Nat) := (hs.filter (·.same)).flatMap hunkPairs

namespace Cut

theorem left_tiles (h : Cut m first i j ms hs) : Tiles i (i + ms.length) (leftRanges hs) := by
  induction h with
  | done => exact .nil
  | last =>
    simp only [List.length_replicate]
    exact .cons (Nat.le_add_right _ _) .nil
  | differ _ _ ih =>
    simp only [List.length_append, List.length_replicate, ← Nat.add_assoc]
    exact .cons (Nat.le_add_right _ _) ih
  | same _ _ ih =>
    simp only [List.length_append, List.length_map, List.length_range', ← Nat.add_assoc]
    exact .cons (Nat.le_add_right _ _) ih

theorem alternates (h : Cut m first i j ms hs) :
    hs.IsChain (·.same ≠ ·.same) ∧ ∀ h ∈ hs.head?, h.same = first := by
  induction h with
  | done => exact ⟨.nil, by simp⟩
  | last => exact ⟨.singleton _, by rintro h ⟨⟩; rfl⟩
  | differ _ _ ih =>
    refine ⟨List.isChain_cons.mpr ⟨fun h hh => ?_, ih.1⟩, by rintro h ⟨⟩; rfl⟩
    simp [ih.2 h hh]
  | same _ _ ih =>
    refine ⟨List.isChain_cons.mpr ⟨fun h hh => ?_, ih.1⟩, by rintro h ⟨⟩; rfl⟩
    simp [sameHunk, ih.2 h hh]

/-- Hunks of equal elements are as long on the right, and they pair what is matched. -/
theorem samePairs_eq (h : Cut m first i j ms hs) : samePairs hs = pairsFrom i ms := by
  induction h with
  | done => rfl
  | last => exact (pairsFrom_eq_nil _ fun _ => List.eq_of_mem_replicate).symm
  | differ _ _ ih =>
    rw [pairsFrom_append, pairsFrom_eq_nil _ fun _ => List.eq_of_mem_replicate,
      List.length_replicate, List.nil_append, ← ih]
    rfl
  | same _ _ ih =>
    rw [pairsFrom_append, pairsFrom_diagonal, List.length_map, List.length_range', ← ih]
    simp [samePairs, hunkPairs, sameHunk, Hunk.leftLength]

theorem same_length (h : Cut m first i j ms hs) :
    ∀ h ∈ hs, h.same → h.leftLength = h.rightLength := by
  induction h with
  | done => simp
  | last => simp
  | differ _ _ ih => exact List.forall_mem_cons.mpr ⟨by simp, ih⟩
  | same _ _ ih =>
    exact List.forall_mem_cons.mpr ⟨by simp [sameHunk, Hunk.leftLength, Hunk.rightLength], ih⟩

end Cut

-- -----------------------------------------------------------------------------------------
-- Matches in ascending order
-- -----------------------------------------------------------------------------------------

/-- The right positions of the matches ascend from `j` on and stay below `m`. -/
inductive Fits (m : Nat) : (j : Nat) → List (Option Nat) → Prop
  | nil : j ≤ m → Fits m j []
  | skip : Fits m j ms → Fits m j (none :: ms)
  | take : j ≤ k → k < m → Fits m (k + 1) ms → Fits m j (some k :: ms)

namespace Fits

theorem of_pairs (h : (pairsFrom i ms).Pairwise fun p q => p.2 < q.2)
    (hb : ∀ p ∈ pairsFrom i ms, j ≤ p.2 ∧ p.2 < m) (hj : j ≤ m) : Fits m j ms := by
  induction ms generalizing i j with
  | nil => exact .nil hj
  | cons a ms ih =>
    cases a with
    | none => exact .skip (ih h hb hj)
    | some k =>
      obtain ⟨hk, hms⟩ := List.pairwise_cons.mp h
      obtain ⟨⟨hjk, hkm⟩, hb⟩ := List.forall_mem_cons.mp hb
      exact .take hjk hkm (ih hms (fun p hp => ⟨hk p hp, (hb p hp).2⟩) hkm)

theorem le (h : Fits m j ms) : j ≤ m := by
  induction h with
  | nil hj => exact hj
  | skip _ ih => exact ih
  | take hjk hkm _ _ => omega

theorem of_gap (h : Fits m j (List.replicate n none ++ ms)) : Fits m j ms := by
  induction n with
  | zero => exact h
  | succ n ih =>
    cases h with
    | skip h => exact ih h

theorem of_run (h : Fits m j ((List.range' j n).map some ++ ms)) : Fits m (j + n) ms := by
  induction n generalizing j with
  | zero => exact h
  | succ n ih =>
    cases h with
    | take _ _ h =>
      rw [Nat.add_comm n, ← Nat.add_assoc]
      exact ih h

theorem of_next (h : Fits m j (List.replicate n none ++ some k :: ms)) :
    j ≤ k ∧ Fits m k (some k :: ms) := by
  cases h.of_gap with
  | take hjk hkm h => exact ⟨hjk, .take (Nat.le_refl k) hkm h⟩

end Fits

namespace Cut

theorem right_tiles (h : Cut m first i j ms hs) (hfits : Fits m j ms) :
    Tiles j m (rightRanges hs) := by
  induction h with
  | done hj => exact Nat.le_antisymm hfits.le hj ▸ .nil
  | last => exact .cons hfits.le .nil
  | differ _ _ ih =>
    obtain ⟨hjk, hfits⟩ := hfits.of_next
    exact .cons hjk (ih hfits)
  | same _ _ ih => exact .cons (Nat.le_add_right _ _) (ih hfits.of_run)

theorem not_empty (h : Cut m first i j ms hs) (hfits : Fits m j ms) :
    ∀ h ∈ hs, h.leftStart < h.leftStop ∨ h.rightStart < h.rightStop := by
  induction h with
  | done => simp
  | last hmore =>
    simp only [List.forall_mem_singleton]
    omega
  | differ hmore _ ih =>
    obtain ⟨hjk, hfits⟩ := hfits.of_next
    refine List.forall_mem_cons.mpr ⟨?_, ih hfits⟩
    simp only
    omega
  | same hn _ ih =>
    refine List.forall_mem_cons.mpr ⟨?_, ih hfits.of_run⟩
    simp only [sameHunk]
    omega

end Cut

-- -----------------------------------------------------------------------------------------
-- The hunks of two sequences
-- -----------------------------------------------------------------------------------------

/-- What the hunks owe to matches against a right sequence of length `m`. -/
structure Covers (ms : List (Option Nat)) (m : Nat) (hs : List Hunk) : Prop where
  left : Tiles 0 ms.length (leftRanges hs)
  right : Tiles 0 m (rightRanges hs)
  not_empty : ∀ h ∈ hs, h.leftStart < h.leftStop ∨ h.rightStart < h.rightStop
  alternates : hs.IsChain (·.same ≠ ·.same)
  same_length : ∀ h ∈ hs, h.same → h.leftLength = h.rightLength
  pairs : samePairs hs = matchedPairs ms

theorem covers_hunksOfMatches (h : (matchedPairs ms).Pairwise fun p q => p.2 < q.2)
    (hm : ∀ p ∈ matchedPairs ms, p.2 < m) : Covers ms m (hunksOfMatches ms m) := by
  obtain ⟨first, hcut⟩ := cut_hunksOfMatches ms m
  have hfits : Fits m 0 ms := .of_pairs h (fun p hp => ⟨Nat.zero_le _, hm p hp⟩) (Nat.zero_le _)
  have hleft := hcut.left_tiles
  rw [Nat.zero_add] at hleft
  exact ⟨hleft, hcut.right_tiles hfits, hcut.not_empty hfits, hcut.alternates.1, hcut.same_length,
    hcut.samePairs_eq⟩

namespace Tiles

theorem le (h : Tiles start stop ranges) : start ≤ stop := by
  induction h with
  | nil => exact Nat.le_refl _
  | cons hle _ ih => exact Nat.le_trans hle ih

theorem bounds (h : Tiles start stop ranges) (hr : r ∈ ranges) :
    start ≤ r.1 ∧ r.1 ≤ r.2 ∧ r.2 ≤ stop := by
  induction h with
  | nil => cases hr
  | cons hle hrest ih =>
    have hstop := hrest.le
    obtain rfl | hr := List.mem_cons.mp hr
    · exact ⟨Nat.le_refl _, hle, hstop⟩
    · obtain ⟨hstart, hrange, hend⟩ := ih hr
      exact ⟨Nat.le_trans hle hstart, hrange, hend⟩

theorem slices (h : Tiles start stop ranges) (l : List α) :
    ranges.flatMap (fun r => l.extract r.1 r.2) = l.extract start stop := by
  induction h with
  | nil => simp
  | @cons start next stop ranges hle h ih =>
    have hlengths : stop - start = (next - start) + (stop - next) := by
      have := h.le
      omega
    rw [List.flatMap_cons, ih]
    simp only [List.extract_eq_take_drop]
    rw [hlengths, List.take_add, List.drop_drop, Nat.add_sub_cancel' hle]

end Tiles

section
variable [DecidableEq α] {left right : List α}

theorem covers_hunks (left right : List α) :
    Covers (lcsMatches left right) right.length (hunks left right) := by
  have h := isMatching_lcsMatches left right
  exact covers_hunksOfMatches (h.ascends.imp And.right) fun p hp => h.right_lt hp

theorem left_bounds (hh : h ∈ hunks left right) :
    h.leftStart ≤ h.leftStop ∧ h.leftStop ≤ left.length := by
  have htiles := (covers_hunks left right).left
  rw [(isMatching_lcsMatches left right).length_eq] at htiles
  exact (htiles.bounds (List.mem_map.mpr ⟨h, hh, rfl⟩)).2

theorem right_bounds (hh : h ∈ hunks left right) :
    h.rightStart ≤ h.rightStop ∧ h.rightStop ≤ right.length :=
  ((covers_hunks left right).right.bounds (List.mem_map.mpr ⟨h, hh, rfl⟩)).2

theorem left_slices (left right : List α) :
    (hunks left right).flatMap (fun h => left.extract h.leftStart h.leftStop) = left := by
  have h := (covers_hunks left right).left.slices left
  rw [(isMatching_lcsMatches left right).length_eq, leftRanges, List.flatMap_map] at h
  simpa using h

theorem right_slices (left right : List α) :
    (hunks left right).flatMap (fun h => right.extract h.rightStart h.rightStop) = right := by
  have h := (covers_hunks left right).right.slices right
  rw [rightRanges, List.flatMap_map] at h
  simpa using h

/-- The slices of a hunk of equal elements are equal, element by element. -/
theorem same_slices (hh : h ∈ hunks left right) (hsame : h.same) :
    left.extract h.leftStart h.leftStop = right.extract h.rightStart h.rightStop := by
  have hcovers := covers_hunks left right
  have hlength := hcovers.same_length h hh hsame
  simp only [List.extract_eq_take_drop]
  refine List.ext_getElem? fun k => ?_
  rw [List.getElem?_take, List.getElem?_take, List.getElem?_drop, List.getElem?_drop]
  change (if k < h.leftLength then _ else _) = if k < h.rightLength then _ else _
  rw [← hlength]
  split_ifs with hk
  · have hpair : (h.leftStart + k, h.rightStart + k) ∈ matchedPairs (lcsMatches left right) := by
      rw [← hcovers.pairs]
      refine List.mem_flatMap.mpr ⟨h, List.mem_filter.mpr ⟨hh, hsame⟩, ?_⟩
      exact List.mem_map.mpr ⟨k, List.mem_range.mpr hk, rfl⟩
    obtain ⟨a, hl, hr⟩ := (isMatching_lcsMatches left right).agree _ hpair
    rw [hl, hr]
  · rfl

end

/-- Ascending matches give hunks that cover both sides in turn; so those of two sequences give
them back. Matches in any order still give hunks that cover the left side. -/
theorem hunks_cover [DecidableEq α] :
    (∀ ms m, (matchedPairs ms).Pairwise (fun p q => p.2 < q.2) →
      (∀ p ∈ matchedPairs ms, p.2 < m) → Covers ms m (hunksOfMatches ms m)) ∧
    (∀ left right : List α,
      Covers (lcsMatches left right) right.length (hunks left right) ∧
      (hunks left right).flatMap (fun h => left.extract h.leftStart h.leftStop) = left ∧
      (hunks left right).flatMap (fun h => right.extract h.rightStart h.rightStop) = right ∧
      ∀ h ∈ hunks left right, h.same →
        left.extract h.leftStart h.leftStop = right.extract h.rightStart h.rightStop) ∧
    ∀ ms m, Tiles 0 ms.length (leftRanges (hunksOfMatches ms m)) := by
  refine ⟨fun ms m h hm => covers_hunksOfMatches h hm, fun left right => ?_, fun ms m => ?_⟩
  · exact ⟨covers_hunks left right, left_slices left right, right_slices left right,
      fun h hh hsame => same_slices hh hsame⟩
  · obtain ⟨first, hcut⟩ := cut_hunksOfMatches ms m
    have hleft := hcut.left_tiles
    rwa [Nat.zero_add] at hleft

theorem hunks_cover_gaps : Covers [none, some 1, none] 3 (hunksOfMatches [none, some 1, none] 3) :=
  (@hunks_cover Nat _).1 _ _ (by decide) (by decide)

end Wikitext.Diff
