import Wikitext.Diff.Undo
import Wikitext.Proofs.Diff.Lines
import Wikitext.Proofs.Diff.Rows
import Mathlib.Data.List.InsertIdx

/-!
# Undoing brings the right text closer to the left one

What stands before a hunk that differs and what stands behind it have a longest
common subsequence between them (`shares_around`). A left line put into the gap
makes it longer by one, and no line can do more (`lcsLength_insert_le`). So every
undo of a row is a step towards the left lines, and a chain of them that cannot
go on has arrived there: `undo_approaches`.

An undo fails if a line that it names is not there, and asks for the left one
first. Otherwise it gives a text that is read as the right lines after the edit,
with two exceptions: no lines at all become the empty text, which is one empty
line, and a carriage return at the end of the last line is taken for a part of
the line end. `undo_reads` says so of all three operations.
-/

namespace Wikitext

namespace Diff

variable {α : Type}

-- -----------------------------------------------------------------------------------------
-- Common subsequences of parts
-- -----------------------------------------------------------------------------------------

namespace Shares

variable {left right left' right' : List α}

theorem self (l : List α) : Shares l l l.length := ⟨l, .refl _, .refl _, rfl⟩

theorem append (h : Shares left right k) (h' : Shares left' right' k') :
    Shares (left ++ left') (right ++ right') (k + k') := by
  obtain ⟨s, hl, hr, rfl⟩ := h
  obtain ⟨s', hl', hr', rfl⟩ := h'
  exact ⟨s ++ s', hl.append hl', hr.append hr', List.length_append⟩

/-- One element of the right sequence is used at most once. -/
theorem without (h : Shares left (u ++ a :: v) (k + 1)) : Shares left (u ++ v) k := by
  obtain ⟨s, hl, hr, hk⟩ := h
  obtain ⟨s₁, s₂, rfl, h₁, h₂⟩ := List.sublist_append_iff.mp hr
  have hrest : (s₁ ++ s₂.tail).Sublist (u ++ v) := h₁.append h₂.tail
  have hleft : (s₁ ++ s₂.tail).Sublist left := ((List.Sublist.refl s₁).append s₂.tail_sublist).trans hl
  refine of_le ⟨_, hleft, hrest, rfl⟩ ?_
  simp only [List.length_append, List.length_tail] at hk ⊢
  omega

end Shares

section
variable [DecidableEq α] {left right right' : List α}

theorem lcsLength_mono (left : List α) (h : right.Sublist right') :
    lcsLength left right ≤ lcsLength left right' :=
  le_lcsLength_iff.mpr ((le_lcsLength_iff.mp (Nat.le_refl _)).mono (.refl _) h)

theorem lcsLength_insert_le (left u v : List α) (a : α) :
    lcsLength left (u ++ a :: v) ≤ lcsLength left (u ++ v) + 1 := by
  cases hk : lcsLength left (u ++ a :: v) with
  | zero => exact Nat.zero_le _
  | succ k => exact Nat.succ_le_succ (le_lcsLength_iff.mpr (le_lcsLength_iff.mp hk.ge).without)

theorem lcsLength_le_left (left right : List α) : lcsLength left right ≤ left.length := by
  obtain ⟨s, hl, -, hk⟩ := le_lcsLength_iff.mp (Nat.le_refl (lcsLength left right))
  exact hk ▸ hl.length_le

theorem lcsLength_le_right (left right : List α) : lcsLength left right ≤ right.length := by
  obtain ⟨s, -, hr, hk⟩ := le_lcsLength_iff.mp (Nat.le_refl (lcsLength left right))
  exact hk ▸ hr.length_le

end

theorem sublist_around {l : List α} (hi : l[i]? = some a) (hs : s ≤ i) (ht : i < t) :
    (l.take s ++ a :: l.drop t).Sublist l := by
  obtain ⟨hlt, rfl⟩ := List.getElem?_eq_some_iff.mp hi
  have hsplit : (l.take i ++ l[i] :: l.drop (i + 1)).Sublist l := by
    rw [← List.drop_eq_getElem_cons hlt, List.take_append_drop]
  have hback : (l.drop t).Sublist (l.drop (i + 1)) := List.drop_sublist_drop_left l ht
  exact ((List.take_sublist_take_left hs).append (hback.cons_cons _)).trans hsplit

-- -----------------------------------------------------------------------------------------
-- Around a hunk
-- -----------------------------------------------------------------------------------------

theorem Tiles.around (h : Tiles start stop (before ++ r :: after)) :
    Tiles start r.1 before ∧ Tiles r.2 stop after := by
  induction before generalizing start with
  | nil =>
    cases h with
    | cons _ hrest => exact ⟨.nil, hrest⟩
  | cons _ before ih =>
    cases h with
    | cons hle hrest =>
      obtain ⟨hbefore, hafter⟩ := ih hrest
      exact ⟨.cons hle hbefore, hafter⟩

theorem Tiles.pairwise (h : Tiles start stop ranges) : ranges.Pairwise fun r r' => r.2 ≤ r'.1 := by
  induction h with
  | nil => exact .nil
  | cons _ hrest ih => exact .cons (fun r hr => (hrest.bounds hr).1) ih

section
variable [DecidableEq α] {left right : List α}

/-- Hunks share as many elements as they pair. -/
theorem shares_slices {hs : List Hunk} (hsub : hs ⊆ hunks left right) :
    Shares (hs.flatMap fun h => left.extract h.leftStart h.leftStop)
      (hs.flatMap fun h => right.extract h.rightStart h.rightStop) (samePairs hs).length := by
  induction hs with
  | nil => exact .zero _ _
  | cons h hs ih =>
    obtain ⟨hh, hsub⟩ := List.cons_subset.mp hsub
    cases hsame : h.same with
    | false =>
      have hpairs : samePairs (h :: hs) = samePairs hs := by simp [samePairs, hsame]
      have hnone := Shares.zero (left.extract h.leftStart h.leftStop)
        (right.extract h.rightStart h.rightStop)
      rw [hpairs, ← Nat.zero_add (samePairs hs).length]
      exact hnone.append (ih hsub)
    | true =>
      have hpairs : (samePairs (h :: hs)).length =
          (left.extract h.leftStart h.leftStop).length + (samePairs hs).length := by
        have hbounds := left_bounds hh
        simp only [samePairs, List.filter_cons, hsame, if_true, List.flatMap_cons, hunkPairs,
          List.length_append, List.length_map, List.length_range, Hunk.leftLength,
          List.extract_eq_take_drop, List.length_take, List.length_drop]
        omega
      have hslice := Shares.self (left.extract h.leftStart h.leftStop)
      rw [hpairs, List.flatMap_cons, List.flatMap_cons, ← same_slices hh hsame]
      exact hslice.append (ih hsub)

/-- What belongs to a longest common subsequence stands before or behind a hunk that differs. -/
theorem shares_around (hh : h ∈ hunks left right) (hdiffer : h.same = false) :
    ∃ k k', lcsLength left right = k + k' ∧
      Shares (left.take h.leftStart) (right.take h.rightStart) k ∧
      Shares (left.drop h.leftStop) (right.drop h.rightStop) k' := by
  obtain ⟨before, after, hsplit⟩ := List.append_of_mem hh
  have hcovers := covers_hunks left right
  have hcount : lcsLength left right = (samePairs before).length + (samePairs after).length := by
    have hlongest := length_matchedPairs_lcsMatches left right
    rw [← hlongest, ← hcovers.pairs, hsplit]
    simp [samePairs, hdiffer]
  have hleft := hcovers.left
  have hright := hcovers.right
  rw [(isMatching_lcsMatches left right).length_eq] at hleft
  simp only [leftRanges, rightRanges, hsplit, List.map_append, List.map_cons] at hleft hright
  refine ⟨_, _, hcount, ?_, ?_⟩
  · have hbefore : before ⊆ hunks left right := by simp [hsplit]
    have hslices := shares_slices hbefore
    have hl := hleft.around.1.slices left
    have hr := hright.around.1.slices right
    rw [List.flatMap_map] at hl hr
    rw [hl, hr] at hslices
    simpa using hslices
  · have hafter : after ⊆ hunks left right := by simp [hsplit]
    have hslices := shares_slices hafter
    have hl := hleft.around.2.slices left
    have hr := hright.around.2.slices right
    rw [List.flatMap_map] at hl hr
    rw [hl, hr] at hslices
    simpa [List.extract_eq_take_drop, List.take_of_length_le] using hslices

/-- A left element belongs to one hunk. -/
theorem hunk_unique (hh : h ∈ hunks left right) (hh' : h' ∈ hunks left right)
    (hi : h.leftStart ≤ i ∧ i < h.leftStop) (hi' : h'.leftStart ≤ i ∧ i < h'.leftStop) : h = h' := by
  have hpairwise := (covers_hunks left right).left.pairwise
  rw [leftRanges, List.pairwise_map] at hpairwise
  obtain ⟨a, ha, rfl⟩ := List.getElem_of_mem hh
  obtain ⟨b, hb, rfl⟩ := List.getElem_of_mem hh'
  rw [List.pairwise_iff_getElem] at hpairwise
  obtain hab | rfl | hba := Nat.lt_trichotomy a b
  · have hle := hpairwise a b ha hb hab
    dsimp only at hle
    omega
  · rfl
  · have hle := hpairwise b a hb ha hba
    dsimp only at hle
    omega

/-- A left element that is put into the gap of its hunk is gained. -/
theorem lcsLength_gain (hh : h ∈ hunks left right) (hdiffer : h.same = false)
    (ha : left[i]? = some a) (hstart : h.leftStart ≤ i) (hstop : i < h.leftStop)
    (hr : (right.take h.rightStart ++ a :: right.drop h.rightStop).Sublist right') :
    lcsLength left right + 1 ≤ lcsLength left right' := by
  obtain ⟨k, k', hk, hbefore, hbehind⟩ := shares_around hh hdiffer
  have hone := hbefore.append ((Shares.self [a]).append hbehind)
  have hcount : lcsLength left right + 1 = k + ([a].length + k') := by
    rw [hk, List.length_singleton]
    omega
  rw [hcount]
  exact le_lcsLength_iff.mpr (hone.mono (sublist_around ha hstart hstop) hr)

/-- What stands on the right side of a hunk that differs can be left out. -/
theorem lcsLength_keep (hh : h ∈ hunks left right) (hdiffer : h.same = false)
    (hr : (right.take h.rightStart ++ right.drop h.rightStop).Sublist right') :
    lcsLength left right ≤ lcsLength left right' := by
  obtain ⟨k, k', hk, hbefore, hbehind⟩ := shares_around hh hdiffer
  have hbounds := left_bounds hh
  have hleft : (left.take h.leftStart ++ left.drop h.leftStop).Sublist left := by
    have hback := (List.Sublist.refl (left.take h.leftStart)).append
      (List.drop_sublist_drop_left left hbounds.1)
    rwa [List.take_append_drop] at hback
  rw [hk]
  exact le_lcsLength_iff.mpr ((hbefore.append hbehind).mono hleft hr)

-- -----------------------------------------------------------------------------------------
-- One element changed
-- -----------------------------------------------------------------------------------------

theorem lcsLength_set (hh : h ∈ hunks left right) (hdiffer : h.same = false)
    (ha : left[i]? = some a) (hi : h.leftStart ≤ i ∧ i < h.leftStop)
    (hj : h.rightStart ≤ j ∧ j < h.rightStop) :
    lcsLength left (right.set j a) = lcsLength left right + 1 := by
  have hlt : j < right.length := Nat.lt_of_lt_of_le hj.2 (right_bounds hh).2
  refine Nat.le_antisymm ?_ ?_
  · have hrest : (right.take j ++ right.drop (j + 1)).Sublist right := by
      have hsub := List.eraseIdx_sublist right j
      rwa [List.eraseIdx_eq_take_drop_succ] at hsub
    rw [List.set_eq_take_append_cons_drop, if_pos hlt]
    exact (lcsLength_insert_le _ _ _ _).trans (Nat.succ_le_succ (lcsLength_mono left hrest))
  · refine lcsLength_gain hh hdiffer ha hi.1 hi.2 ?_
    have hsub := sublist_around (l := right.set j a) (List.getElem?_set_self hlt) hj.1 hj.2
    rwa [List.take_set_of_le hj.1, List.drop_set_of_lt hj.2] at hsub

theorem lcsLength_eraseIdx (hh : h ∈ hunks left right) (hdiffer : h.same = false)
    (hj : h.rightStart ≤ j ∧ j < h.rightStop) :
    lcsLength left (right.eraseIdx j) = lcsLength left right := by
  refine Nat.le_antisymm (lcsLength_mono left (List.eraseIdx_sublist right j)) ?_
  refine lcsLength_keep hh hdiffer ?_
  rw [List.eraseIdx_eq_take_drop_succ]
  exact (List.take_sublist_take_left hj.1).append (List.drop_sublist_drop_left right hj.2)

theorem lcsLength_insertIdx (hh : h ∈ hunks left right) (hdiffer : h.same = false)
    (ha : left[i]? = some a) (hi : h.leftStart ≤ i ∧ i < h.leftStop)
    (hj : h.rightStart ≤ j ∧ j ≤ h.rightStop) :
    lcsLength left (right.insertIdx j a) = lcsLength left right + 1 := by
  have hle : j ≤ right.length := Nat.le_trans hj.2 (right_bounds hh).2
  have hinsert : right.insertIdx j a = right.take j ++ a :: right.drop j := by
    obtain ⟨u, v, hsplit, hlength, hcons⟩ := List.exists_of_modifyTailIdx (List.cons a) hle
    rw [List.insertIdx, hcons, hsplit, ← hlength, List.take_left, List.drop_left]
  refine Nat.le_antisymm ?_ ?_
  · have hmore := lcsLength_insert_le left (right.take j) (right.drop j) a
    rwa [List.take_append_drop, ← hinsert] at hmore
  · refine lcsLength_gain hh hdiffer ha hi.1 hi.2 ?_
    rw [hinsert]
    exact (List.take_sublist_take_left hj.1).append
      ((List.drop_sublist_drop_left right hj.2).cons_cons a)

end

end Diff

-- -----------------------------------------------------------------------------------------
-- Rows undone
-- -----------------------------------------------------------------------------------------

namespace TextDiff

open Diff

/-- How many lines of both sides are not in common. -/
def distance (left right : List Text) : Nat :=
  left.length + right.length - 2 * lcsLength left right

/-- One row of the comparison, shown in any context, is undone: the lines that the right side has
then. -/
inductive Undone (left right : List Text) : List Text → Prop
  | change {n : Nat} : .changed i j ∈ (ofLines left right n).rows → left[i]? = some line →
      Undone left right (right.set j line)
  | addition {n : Nat} : .added j ∈ (ofLines left right n).rows →
      Undone left right (right.eraseIdx j)
  | deletion {n : Nat} : .deleted i ∈ (ofLines left right n).rows → left[i]? = some line →
      h ∈ (ofLines left right n).hunks → h.leftStart ≤ i → i < h.leftStop →
      h.rightStart ≤ p → p ≤ h.rightStop → Undone left right (right.insertIdx p line)

variable {left right : List Text} {n : Nat}

/-- Every line of a row is one of the text. -/
theorem undo_change (hr : .changed i j ∈ (ofLines left right n).rows) :
    ∃ line, left[i]? = some line ∧
      (ofLines left right n).undoChange i j = .ok (joinLines (right.set j line)) ∧
      lcsLength left (right.set j line) = lcsLength left right + 1 := by
  obtain ⟨h, hh, hshows⟩ := exists_hunk_of_mem_rows hr
  cases hshows with
  | @changed k hdiffer hl hk =>
    have hleft := left_bounds hh
    have hright := right_bounds hh
    simp only [Hunk.leftLength, Hunk.rightLength] at hl hk
    have hi : h.leftStart + k < left.length := by omega
    have hj : h.rightStart + k < right.length := by omega
    have hline := leftLine_ofLines hi right n
    refine ⟨_, hline, ?_, lcsLength_set hh hdiffer hline (by omega) (by omega)⟩
    simp [undoChange, checkLeft, checkRight, ofLines, hi, hj, bind, Except.bind, pure, Except.pure]

theorem undo_addition (hr : .added j ∈ (ofLines left right n).rows) :
    (ofLines left right n).undoAddition j = .ok (joinLines (right.eraseIdx j)) ∧
      (right.eraseIdx j).length + 1 = right.length ∧
      lcsLength left (right.eraseIdx j) = lcsLength left right := by
  obtain ⟨h, hh, hshows⟩ := exists_hunk_of_mem_rows hr
  cases hshows with
  | added hdiffer hstart hstop =>
    have hj : j < right.length := Nat.lt_of_lt_of_le hstop (right_bounds hh).2
    refine ⟨?_, List.length_eraseIdx_add_one hj, lcsLength_eraseIdx hh hdiffer ⟨hstart, hstop⟩⟩
    simp [undoAddition, checkRight, ofLines, hj, bind, Except.bind, pure, Except.pure]

theorem undo_deletion (hr : .deleted i ∈ (ofLines left right n).rows)
    (hh : h ∈ (ofLines left right n).hunks) (hi : h.leftStart ≤ i ∧ i < h.leftStop)
    (hp : h.rightStart ≤ p ∧ p ≤ h.rightStop) :
    ∃ line, left[i]? = some line ∧
      (ofLines left right n).undoDeletion i p = .ok (joinLines (right.insertIdx p line)) ∧
      (right.insertIdx p line).length = right.length + 1 ∧
      lcsLength left (right.insertIdx p line) = lcsLength left right + 1 := by
  rw [hunks_ofLines] at hh
  obtain ⟨h', hh', hshows⟩ := exists_hunk_of_mem_rows hr
  cases hshows with
  | deleted hdiffer hstart hstop =>
    obtain rfl := hunk_unique hh hh' hi ⟨hstart, hstop⟩
    have hlt : i < left.length := Nat.lt_of_lt_of_le hstop (left_bounds hh).2
    have hple : p ≤ right.length := Nat.le_trans hp.2 (right_bounds hh).2
    have hline := leftLine_ofLines hlt right n
    refine ⟨_, hline, ?_, List.length_insertIdx_of_le_length hple _,
      lcsLength_insertIdx hh hdiffer hline hi hp⟩
    have hlimit : p < right.length + 1 := Nat.lt_succ_of_le hple
    simp [undoDeletion, checkLeft, checkRight, ofLines, hlt, hlimit, bind, Except.bind, pure,
      Except.pure]

-- -----------------------------------------------------------------------------------------
-- Chains of undos
-- -----------------------------------------------------------------------------------------

theorem distance_add (left right : List Text) :
    distance left right + 2 * lcsLength left right = left.length + right.length := by
  have hle := lcsLength_le_left left right
  have hle' := lcsLength_le_right left right
  unfold distance
  omega

theorem Undone.distance_lt (h : Undone left right right') :
    distance left right' < distance left right := by
  have hbefore := distance_add left right
  have hafter := distance_add left right'
  cases h with
  | change hr hline =>
    obtain ⟨_, hline', -, hlcs⟩ := undo_change hr
    obtain rfl := Option.some.inj (hline.symm.trans hline')
    rw [List.length_set] at hafter
    omega
  | addition hr =>
    obtain ⟨-, hlength, hlcs⟩ := undo_addition hr
    omega
  | deletion hr hline hh hstart hstop hp hp' =>
    obtain ⟨_, hline', -, hlength, hlcs⟩ := undo_deletion hr hh ⟨hstart, hstop⟩ ⟨hp, hp'⟩
    obtain rfl := Option.some.inj (hline.symm.trans hline')
    omega

/-- As long as the sides differ, the comparison has a row to undo, whatever context it shows. -/
theorem exists_change (hne : right ≠ left) (n : Nat) :
    ∃ r ∈ (ofLines left right n).rows, r.isChange = true := by
  have hdiffer : ∃ h ∈ Diff.hunks left right, h.same = false := by
    by_contra hall
    refine hne ?_
    rw [← left_slices left right]
    conv_lhs => rw [← right_slices left right]
    refine List.flatMap_congr fun h hh => (same_slices hh ?_).symm
    by_contra hsame
    exact hall ⟨h, hh, by simpa using hsame⟩
  obtain ⟨h, hh, hdiffer⟩ := hdiffer
  obtain ⟨r, hr⟩ := List.exists_mem_of_ne_nil _
    (Row.changeRows_ne_nil h ((covers_hunks left right).not_empty h hh))
  refine ⟨r, ?_, Row.isChange_of_changeRows hr⟩
  rw [rows, hunks_ofLines]
  exact Row.changeRows_subset hh hdiffer _ _ _ hr

/-- A chain of undos is no longer than the distance from the left lines, and if the comparison at
its end has no row to undo, it has arrived at them. -/
theorem chain_undone (right : List Text) (later : List (List Text))
    (h : (right :: later).IsChain (Undone left)) :
    later.length ≤ distance left right ∧
      ∀ n, (∀ r ∈ (ofLines left ((right :: later).getLast (List.cons_ne_nil _ _)) n).rows,
        r.isChange = false) → (right :: later).getLast (List.cons_ne_nil _ _) = left := by
  refine ⟨?_, fun n hlast => ?_⟩
  · induction later generalizing right with
    | nil => exact Nat.zero_le _
    | cons right' later ih =>
      obtain ⟨hundone, hlater⟩ := List.isChain_cons_cons.mp h
      exact Nat.lt_of_le_of_lt (ih right' hlater) hundone.distance_lt
  · by_contra hne
    obtain ⟨r, hr, hchange⟩ := exists_change hne n
    rw [hlast r hr] at hchange
    cases hchange

/-- Undoing a row of a comparison of two texts is a step towards the left text: a change and a
deletion undone give a line more in common, an addition undone a line less that is not. A chain of
undos, each of a row of the comparison that the one before leaves, ends with the left lines. -/
theorem undo_approaches (left right : Text) (n : Nat) :
    let d := ofTexts left right n
    let l := splitLines left
    let r := splitLines right
    (∀ i j, .changed i j ∈ d.rows → ∃ line, l[i]? = some line ∧
      d.undoChange i j = .ok (joinLines (r.set j line)) ∧
      lcsLength l (r.set j line) = lcsLength l r + 1 ∧
      distance l (r.set j line) + 2 = distance l r) ∧
    (∀ j, .added j ∈ d.rows → d.undoAddition j = .ok (joinLines (r.eraseIdx j)) ∧
      (r.eraseIdx j).length + 1 = r.length ∧
      lcsLength l (r.eraseIdx j) = lcsLength l r ∧ distance l (r.eraseIdx j) + 1 = distance l r) ∧
    (∀ i h p, .deleted i ∈ d.rows → h ∈ d.hunks → h.leftStart ≤ i ∧ i < h.leftStop →
      h.rightStart ≤ p ∧ p ≤ h.rightStop → ∃ line, l[i]? = some line ∧
        d.undoDeletion i p = .ok (joinLines (r.insertIdx p line)) ∧
        lcsLength l (r.insertIdx p line) = lcsLength l r + 1 ∧
        distance l (r.insertIdx p line) + 1 = distance l r) ∧
    ∀ later, (r :: later).IsChain (Undone l) → later.length ≤ distance l r ∧
      ∀ m, (∀ row ∈ (ofLines l ((r :: later).getLast (List.cons_ne_nil _ _)) m).rows,
        row.isChange = false) → (r :: later).getLast (List.cons_ne_nil _ _) = l := by
  intro d l r
  have hbefore := distance_add l r
  refine ⟨fun i j hrow => ?_, fun j hrow => ?_, fun i h p hrow hh hi hp => ?_, chain_undone r⟩
  · replace hrow : .changed i j ∈ (ofLines l r n).rows := hrow
    obtain ⟨line, hline, hundo, hlcs⟩ := undo_change hrow
    have hafter := distance_add l (r.set j line)
    rw [List.length_set] at hafter
    exact ⟨line, hline, hundo, hlcs, by omega⟩
  · replace hrow : .added j ∈ (ofLines l r n).rows := hrow
    obtain ⟨hundo, hlength, hlcs⟩ := undo_addition hrow
    have hafter := distance_add l (r.eraseIdx j)
    exact ⟨hundo, hlength, hlcs, by omega⟩
  · replace hrow : .deleted i ∈ (ofLines l r n).rows := hrow
    obtain ⟨line, hline, hundo, hlength, hlcs⟩ := undo_deletion hrow hh hi hp
    have hafter := distance_add l (r.insertIdx p line)
    exact ⟨line, hline, hundo, hlcs, by omega⟩

/-- Two texts with a row of each kind, the second line of the right one a change. -/
theorem undo_approaches_change :
    let l := splitLines "a\nb\nc\nd".toList
    let r := splitLines "a\nx\nd\ny".toList
    (ofTexts "a\nb\nc\nd".toList "a\nx\nd\ny".toList 3).undoChange 1 1 =
        .ok "a\r\nb\r\nd\r\ny".toList ∧
      lcsLength l (r.set 1 "b".toList) = lcsLength l r + 1 ∧
      [r.set 1 "b".toList].length ≤ distance l r := by
  intro l r
  obtain ⟨hchange, -, -, hchain⟩ :=
    undo_approaches "a\nb\nc\nd".toList "a\nx\nd\ny".toList 3
  have hrow : .changed 1 1 ∈ (ofTexts "a\nb\nc\nd".toList "a\nx\nd\ny".toList 3).rows := by
    decide +kernel
  obtain ⟨line, hline, hundo, hlcs, -⟩ := hchange 1 1 hrow
  obtain rfl : line = "b".toList := by
    have hb : l[1]? = some "b".toList := by decide
    exact Option.some.inj (hline.symm.trans hb)
  have hstep : Undone l r (r.set 1 "b".toList) := .change hrow hline
  refine ⟨hundo.trans (congrArg Except.ok (by decide)), hlcs, (hchain [_] ?_).1⟩
  exact List.isChain_cons_cons.mpr ⟨hstep, .singleton _⟩

end TextDiff

end Wikitext

namespace Wikitext.TextDiff

open Diff

variable {lines : List Text} {line : Text}

/-- The text is read as these lines. -/
structure ReadsAs (t : Text) (lines : List Text) : Prop where
  empty : lines = [] → t = []
  /-- One carriage return is lost. -/
  carriageReturn : ∀ before line, lines = before ++ [line ++ ['\r']] →
    splitLines t = before ++ [line]
  other : ∀ before line, lines = before ++ [line] → ¬ ['\r'] <:+ line → splitLines t = lines

-- -----------------------------------------------------------------------------------------
-- Lines put together
-- -----------------------------------------------------------------------------------------

theorem joinLines_cons (line : Text) (h : lines ≠ []) :
    joinLines (line :: lines) = (line ++ ['\r']) ++ '\n' :: joinLines lines := by
  cases lines with
  | nil => exact absurd rfl h
  | cons line' lines => simp [joinLines, Text.join]

/-- Every line but the last one has a carriage return behind it when the line feeds are taken
out. -/
theorem splitOn_joinLines (hbefore : ∀ l ∈ before, '\n' ∉ l) (hline : '\n' ∉ line) :
    Text.splitOn '\n' (joinLines (before ++ [line])) = before.map (· ++ ['\r']) ++ [line] := by
  induction before with
  | nil =>
    have hsplit := Text.splitOn_append hline (Text.splitOn_nil '\n')
    simpa [joinLines, Text.join] using hsplit
  | cons l before ih =>
    rw [List.forall_mem_cons] at hbefore
    have hl : '\n' ∉ l ++ ['\r'] := by simp [hbefore.1]
    have hsplit := Text.splitOn_append hl
      (Text.splitOn_cons_self '\n' (joinLines (before ++ [line])))
    rw [List.cons_append, joinLines_cons _ (by simp), hsplit, ih hbefore.2]
    simp

theorem splitLines_joinLines (hbefore : ∀ l ∈ before, '\n' ∉ l) (hline : '\n' ∉ line) :
    splitLines (joinLines (before ++ [line])) =
      before ++ [(Text.dropSuffix? ['\r'] line).getD line] := by
  have hdrop (l : Text) : (Text.dropSuffix? ['\r'] (l ++ ['\r'])).getD (l ++ ['\r']) = l := by
    rw [Text.dropSuffix?_eq_some.mpr rfl, Option.getD_some]
  simp [splitLines, splitOn_joinLines hbefore hline, Function.comp_def, hdrop]

theorem readsAs_joinLines (h : ∀ line ∈ lines, '\n' ∉ line) : ReadsAs (joinLines lines) lines where
  empty hnil := by rw [hnil]; rfl
  carriageReturn before line he := by
    subst he
    simp only [List.forall_mem_append, List.forall_mem_singleton] at h
    rw [splitLines_joinLines h.1 h.2, Text.dropSuffix?_eq_some.mpr rfl, Option.getD_some]
  other before line he hsuffix := by
    subst he
    simp only [List.forall_mem_append, List.forall_mem_singleton] at h
    rw [splitLines_joinLines h.1 h.2]
    cases hdrop : Text.dropSuffix? ['\r'] line with
    | none => rfl
    | some u => exact absurd ⟨u, (Text.dropSuffix?_eq_some.mp hdrop).symm⟩ hsuffix

theorem readsAs_edited {edited : List Text} (hlines : ∀ l ∈ lines, '\n' ∉ l) (hline : '\n' ∉ line)
    (h : ∀ l ∈ edited, l ∈ lines ∨ l = line) : ReadsAs (joinLines edited) edited := by
  refine readsAs_joinLines fun l hl => ?_
  rcases h l hl with hmem | rfl
  · exact hlines l hmem
  · exact hline

-- -----------------------------------------------------------------------------------------
-- The three operations
-- -----------------------------------------------------------------------------------------

theorem undoChange_eq (d : TextDiff) (i j : Nat) :
    d.undoChange i j =
      if i < d.left.size then
        if j < d.right.size then .ok (joinLines (d.right.toList.set j (d.leftLine i)))
        else .error (.rightOutOfRange j d.right.size)
      else .error (.leftOutOfRange i d.left.size) := by
  unfold undoChange checkLeft checkRight
  split_ifs <;> rfl

theorem undoAddition_eq (d : TextDiff) (j : Nat) :
    d.undoAddition j =
      if j < d.right.size then .ok (joinLines (d.right.toList.eraseIdx j))
      else .error (.rightOutOfRange j d.right.size) := by
  unfold undoAddition checkRight
  split_ifs <;> rfl

theorem undoDeletion_eq (d : TextDiff) (i j : Nat) :
    d.undoDeletion i j =
      if i < d.left.size then
        if j < d.right.size + 1 then .ok (joinLines (d.right.toList.insertIdx j (d.leftLine i)))
        else .error (.rightOutOfRange j d.right.size)
      else .error (.leftOutOfRange i d.left.size) := by
  unfold undoDeletion checkLeft checkRight
  split_ifs <;> rfl

/-- An undo fails if a left line is not there, or else if a right line is not there; a deletion may
also be undone behind the last right line. Otherwise its text is read as the right lines with one of
them replaced by the left line, without one of them, or with the left line in front of one. -/
theorem undo_reads (left right : Text) (n : Nat) :
    let d := ofTexts left right n
    let l := splitLines left
    let r := splitLines right
    (∀ i j,
      (l.length ≤ i → d.undoChange i j = .error (.leftOutOfRange i l.length)) ∧
      (i < l.length → r.length ≤ j → d.undoChange i j = .error (.rightOutOfRange j r.length)) ∧
      (∀ line, l[i]? = some line → j < r.length →
        ∃ t, d.undoChange i j = .ok t ∧ ReadsAs t (r.set j line))) ∧
    (∀ j,
      (r.length ≤ j → d.undoAddition j = .error (.rightOutOfRange j r.length)) ∧
      (j < r.length → ∃ t, d.undoAddition j = .ok t ∧ ReadsAs t (r.eraseIdx j))) ∧
    (∀ i j,
      (l.length ≤ i → d.undoDeletion i j = .error (.leftOutOfRange i l.length)) ∧
      (i < l.length → r.length < j → d.undoDeletion i j = .error (.rightOutOfRange j r.length)) ∧
      (∀ line, l[i]? = some line → j ≤ r.length →
        ∃ t, d.undoDeletion i j = .ok t ∧ ReadsAs t (r.insertIdx j line))) := by
  intro d l r
  have hr := newline_not_mem_splitLines right
  have hleft : d.left.size = l.length := List.size_toArray
  have hright : d.right.size = r.length := List.size_toArray
  have hlines : d.right.toList = r := List.toList_toArray
  have hline {i : Nat} {line : Text} (h : l[i]? = some line) :
      i < l.length ∧ d.leftLine i = line ∧ '\n' ∉ line := by
    refine ⟨(List.getElem?_eq_some_iff.mp h).1, ?_, ?_⟩
    · simp [d, leftLine, ofTexts, Array.getD_eq_getD_getElem?, h, l]
    · exact newline_not_mem_splitLines left line (List.mem_of_getElem? h)
  simp only [undoChange_eq, undoAddition_eq, undoDeletion_eq, hleft, hright, hlines]
  refine ⟨fun i j => ⟨fun hi => ?_, fun hi hj => ?_, fun line h hj => ?_⟩,
    fun j => ⟨fun hj => ?_, fun hj => ?_⟩,
    fun i j => ⟨fun hi => ?_, fun hi hj => ?_, fun line h hj => ?_⟩⟩
  · rw [if_neg (Nat.not_lt.mpr hi)]
  · rw [if_pos hi, if_neg (Nat.not_lt.mpr hj)]
  · obtain ⟨hi, rfl, hnew⟩ := hline h
    rw [if_pos hi, if_pos hj]
    exact ⟨_, rfl, readsAs_edited hr hnew fun _ => List.mem_or_eq_of_mem_set⟩
  · rw [if_neg (Nat.not_lt.mpr hj)]
  · rw [if_pos hj]
    exact ⟨_, rfl, readsAs_joinLines fun _ h => hr _ (List.mem_of_mem_eraseIdx h)⟩
  · rw [if_neg (Nat.not_lt.mpr hi)]
  · rw [if_pos hi, if_neg (Nat.not_lt.mpr (Nat.succ_le_of_lt hj))]
  · obtain ⟨hi, rfl, hnew⟩ := hline h
    rw [if_pos hi, if_pos (Nat.lt_succ_of_le hj)]
    exact ⟨_, rfl, readsAs_edited hr hnew fun _ h => (List.eq_or_mem_of_mem_insertIdx h).symm⟩

/-- The last left line ends with a carriage return. Put behind the right lines, it has none when the
text is split again. -/
theorem undo_reads_carriageReturn :
    ∃ t, (ofTexts "a\nb\r\r".toList "a\nc".toList 2).undoDeletion 1 2 = .ok t ∧
      splitLines t = ["a".toList, "c".toList, "b".toList] := by
  obtain ⟨-, -, hdeletion⟩ := undo_reads "a\nb\r\r".toList "a\nc".toList 2
  obtain ⟨t, ht, hreads⟩ := (hdeletion 1 2).2.2 "b\r".toList (by decide) (by decide)
  exact ⟨t, ht, hreads.carriageReturn ["a".toList, "c".toList] "b".toList (by decide)⟩

end Wikitext.TextDiff
