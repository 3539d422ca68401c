import Wikitext.Proofs.Diff.Rows

/-!
# What a view leaves out

A view is described here position by position: every position of a hunk has a
row, and is shown if it belongs to a change or is near to a neighbouring hunk.
A header stands where the position before a row is not shown, and counts the
lines that stand before it on either side. `rows_eq_view`: these are the rows of
a comparison, although they are found hunk by hunk, with a flag for a header
that is still to come.
-/

namespace Wikitext

open Diff

/-- A position of a hunk with its row. -/
structure Slot where
  row : Row
  shown : Bool

def Row.hasLeft : Row → Bool
  | .header _ _ | .added _ => false
  | .context _ _ | .changed _ _ | .deleted _ => true

def Row.hasRight : Row → Bool
  | .header _ _ | .deleted _ => false
  | .context _ _ | .changed _ _ | .added _ => true

namespace Slot

/-- The row for position `k` of a hunk. Lines of both sides are paired as far as they go. -/
def rowAt (h : Hunk) (k : Nat) : Row :=
  if h.same then .context (h.leftStart + k) (h.rightStart + k)
  else if k < h.leftLength ∧ k < h.rightLength then .changed (h.leftStart + k) (h.rightStart + k)
  else if k < h.leftLength then .deleted (h.leftStart + k)
  else .added (h.rightStart + k)

/-- Changes are shown, and unchanged lines if they are among the `n` first or last ones of their
hunk, next to another hunk. -/
def isShown (n : Nat) (isFirst isLast : Bool) (h : Hunk) (k : Nat) : Bool :=
  !h.same || (k < n && !isFirst) || (h.leftLength - k ≤ n && !isLast)

def ofHunk (n : Nat) (isFirst isLast : Bool) (h : Hunk) : List Slot :=
  (List.range (max h.leftLength h.rightLength)).map fun k =>
    ⟨rowAt h k, isShown n isFirst isLast h k⟩

/-- All positions of the hunks from place `k` on, of `total` ones. -/
def ofHunks (n k total : Nat) (hs : List Hunk) : List Slot :=
  (hs.zipIdx k).flatMap fun (h, i) => ofHunk n (i == 0) (i + 1 == total) h

def leftLines (slots : List Slot) : Nat := slots.countP (·.row.hasLeft)

def rightLines (slots : List Slot) : Nat := slots.countP (·.row.hasRight)

/-- A row that comes next is the first one, or what stands before it is left out. -/
def startsBlock (before : List Slot) : Bool :=
  before.all (!·.shown) || before.getLast?.any (!·.shown)

/-- The header of a row that comes next, if it has one. -/
def headerAfter (before : List Slot) : List Row :=
  if startsBlock before then [.header (leftLines before) (rightLines before)] else []

/-- The rows that are shown behind the positions `before`. -/
def view (before : List Slot) : List Slot → List Row
  | [] => []
  | s :: rest =>
    (if s.shown then headerAfter before ++ [s.row] else []) ++ view (before ++ [s]) rest

/-- Hunks that follow each other in turn from the place `(i, j)` on. -/
inductive Laid : (i j : Nat) → List Hunk → Prop
  | nil : Laid i j []
  | cons : h.leftStart = i → h.rightStart = j → h.leftStart ≤ h.leftStop →
      h.rightStart ≤ h.rightStop → h.leftStart < h.leftStop ∨ h.rightStart < h.rightStop →
      (h.same = true → h.leftLength = h.rightLength) → (∀ g ∈ hs.head?, h.same ≠ g.same) →
      Laid h.leftStop h.rightStop hs → Laid i j (h :: hs)

-- -----------------------------------------------------------------------------------------
-- Runs of positions
-- -----------------------------------------------------------------------------------------

/-- Positions that are all shown or all left out. -/
def run (shown : Bool) (rs : List Row) : List Slot := rs.map (⟨·, shown⟩)

variable {before : List Slot} {shown pending : Bool} {rs : List Row} {h : Hunk} {hs : List Hunk}

@[simp] theorem run_nil (shown : Bool) : run shown [] = [] := rfl

theorem run_cons (shown : Bool) (r : Row) (rs : List Row) :
    run shown (r :: rs) = ⟨r, shown⟩ :: run shown rs := rfl

@[simp] theorem leftLines_append (xs ys : List Slot) :
    leftLines (xs ++ ys) = leftLines xs + leftLines ys := by
  simp [leftLines]

@[simp] theorem rightLines_append (xs ys : List Slot) :
    rightLines (xs ++ ys) = rightLines xs + rightLines ys := by
  simp [rightLines]

theorem startsBlock_snoc (before : List Slot) (s : Slot) :
    startsBlock (before ++ [s]) = !s.shown := by
  cases hs : s.shown <;> simp [startsBlock, hs]

theorem startsBlock_run (before : List Slot) (hrs : rs ≠ []) (shown : Bool) :
    startsBlock (before ++ run shown rs) = !shown := by
  rw [← List.dropLast_concat_getLast hrs]
  simp only [run, List.map_append, List.map_cons, List.map_nil, ← List.append_assoc]
  exact startsBlock_snoc _ _

theorem view_append (before xs ys : List Slot) :
    view before (xs ++ ys) = view before xs ++ view (before ++ xs) ys := by
  induction xs generalizing before with
  | nil => simp [view]
  | cons s xs ih => simp [view, ih]

theorem view_hidden (before : List Slot) (rs : List Row) : view before (run false rs) = [] := by
  induction rs generalizing before with
  | nil => rfl
  | cons r rs ih => simp [run_cons, view, ih]

/-- Only the first row of a run can have a header. -/
theorem view_shown (before : List Slot) (rs : List Row) :
    view before (run true rs) = (if rs.isEmpty then [] else headerAfter before) ++ rs := by
  induction rs generalizing before with
  | nil => rfl
  | cons r rs ih =>
    have hnone : headerAfter (before ++ [⟨r, true⟩]) = [] := by
      simp [headerAfter, startsBlock_snoc]
    simp [run_cons, view, ih, hnone]

-- -----------------------------------------------------------------------------------------
-- Positions of a hunk
-- -----------------------------------------------------------------------------------------

theorem range_add_eq (p m : Nat) : List.range (p + m) = List.range p ++ List.range' p m := by
  have hsplit := List.range'_append_1 (s := 0) (m := p) (n := m)
  rw [Nat.zero_add] at hsplit
  rw [List.range_eq_range', List.range_eq_range', hsplit]

theorem map_rowAt_change (hdiffer : h.same = false) :
    (List.range (max h.leftLength h.rightLength)).map (rowAt h) = Row.changeRows h := by
  generalize hp : min h.leftLength h.rightLength = p
  have hrange : List.range (max h.leftLength h.rightLength) =
      List.range p ++ List.range' p (h.leftLength - p) ++ List.range' p (h.rightLength - p) := by
    -- at most one side has lines left
    rcases Nat.le_total h.leftLength h.rightLength with hle | hle
    · have hmax : max h.leftLength h.rightLength = p + (h.rightLength - p) := by omega
      have hnone : h.leftLength - p = 0 := by omega
      rw [hmax, range_add_eq, hnone, List.range'_zero, List.append_nil]
    · have hmax : max h.leftLength h.rightLength = p + (h.leftLength - p) := by omega
      have hnone : h.rightLength - p = 0 := by omega
      rw [hmax, range_add_eq, hnone, List.range'_zero, List.append_nil]
  have hpaired : (List.range p).map (rowAt h) =
      (List.range p).map fun k => .changed (h.leftStart + k) (h.rightStart + k) := by
    refine List.map_congr_left fun k hk => ?_
    have hk' := List.mem_range.mp hk
    have hboth : k < h.leftLength ∧ k < h.rightLength := by omega
    simp [rowAt, hdiffer, hboth]
  have hdeleted : (List.range' p (h.leftLength - p)).map (rowAt h) =
      (List.range' (h.leftStart + p) (h.leftLength - p)).map .deleted := by
    rw [← List.map_add_range', List.map_map]
    refine List.map_congr_left fun k hk => ?_
    have hk' := List.mem_range'_1.mp hk
    have hleft : k < h.leftLength ∧ ¬ k < h.rightLength := by omega
    simp [rowAt, hdiffer, hleft]
  have hadded : (List.range' p (h.rightLength - p)).map (rowAt h) =
      (List.range' (h.rightStart + p) (h.rightLength - p)).map .added := by
    rw [← List.map_add_range', List.map_map]
    refine List.map_congr_left fun k hk => ?_
    have hk' := List.mem_range'_1.mp hk
    have hright : ¬ k < h.leftLength := by omega
    simp [rowAt, hdiffer, hright]
  rw [hrange, List.map_append, List.map_append, hpaired, hdeleted, hadded]
  simp only [Row.changeRows, hp]

theorem ofHunk_change (hdiffer : h.same = false) (n : Nat) (isFirst isLast : Bool) :
    ofHunk n isFirst isLast h = run true (Row.changeRows h) := by
  simp [ofHunk, isShown, hdiffer, run, ← map_rowAt_change hdiffer]

/-- In a hunk of unchanged lines, some of the first and some of the last are shown. -/
theorem ofHunk_same (hsame : h.same = true) (hlengths : h.leftLength = h.rightLength)
    (hle : lead + trail ≤ h.leftLength)
    (hshown : ∀ k < h.leftLength, isShown n isFirst isLast h k =
      decide (k < lead ∨ h.leftLength - trail ≤ k)) :
    ofHunk n isFirst isLast h = run true (Row.contextRows h 0 lead) ++
      run false (Row.contextRows h lead (h.leftLength - trail - lead)) ++
      run true (Row.contextRows h (h.leftLength - trail) trail) := by
  have hpart (first count : Nat) (shown : Bool) (hcount : first + count ≤ h.leftLength)
      (hpart : ∀ k, first ≤ k → k < first + count →
        decide (k < lead ∨ h.leftLength - trail ≤ k) = shown) :
      (List.range' first count).map (fun k => (⟨rowAt h k, isShown n isFirst isLast h k⟩ : Slot)) =
        run shown (Row.contextRows h first count) := by
    rw [run, Row.contextRows, List.map_map]
    refine List.map_congr_left fun k hk => ?_
    have hk' := List.mem_range'_1.mp hk
    simp only [Function.comp_apply, rowAt, hsame, if_true, hshown k (by omega), hpart k hk'.1 hk'.2]
  have hlength : h.leftLength = lead + (h.leftLength - trail - lead) + trail := by omega
  have hstart : lead + (h.leftLength - trail - lead) = h.leftLength - trail := by omega
  have hrange : List.range h.leftLength = List.range' 0 lead ++
      List.range' lead (h.leftLength - trail - lead) ++
      List.range' (h.leftLength - trail) trail := by
    conv_lhs => rw [hlength, range_add_eq, range_add_eq, List.range_eq_range', hstart]
  rw [ofHunk, ← hlengths, Nat.max_self, hrange, List.map_append, List.map_append,
    hpart 0 lead true (by omega) (fun k _ hk => by simp; omega),
    hpart lead _ false (by omega) (fun k hk hk' => by simp; omega),
    hpart _ trail true (by omega) (fun k hk _ => by simp; omega)]

theorem leftLines_run_context (shown : Bool) (h : Hunk) (first count : Nat) :
    leftLines (run shown (Row.contextRows h first count)) = count := by
  simp [leftLines, run, Row.contextRows, Function.comp_def, Row.hasLeft]

theorem rightLines_run_context (shown : Bool) (h : Hunk) (first count : Nat) :
    rightLines (run shown (Row.contextRows h first count)) = count := by
  simp [rightLines, run, Row.contextRows, Function.comp_def, Row.hasRight]

theorem leftLines_run_change (h : Hunk) :
    leftLines (run true (Row.changeRows h)) = h.leftLength := by
  have hpaired := Nat.add_sub_cancel' (Nat.min_le_left h.leftLength h.rightLength)
  simpa [leftLines, run, Row.changeRows, Function.comp_def, Row.hasLeft] using hpaired

theorem rightLines_run_change (h : Hunk) :
    rightLines (run true (Row.changeRows h)) = h.rightLength := by
  have hpaired := Nat.add_sub_cancel' (Nat.min_le_right h.leftLength h.rightLength)
  simpa [rightLines, run, Row.changeRows, Function.comp_def, Row.hasRight] using hpaired

-- -----------------------------------------------------------------------------------------
-- Hunk by hunk
-- -----------------------------------------------------------------------------------------

theorem laid_of_tiles (hleft : Tiles i m (leftRanges hs)) (hright : Tiles j m' (rightRanges hs))
    (hmore : ∀ h ∈ hs, h.leftStart < h.leftStop ∨ h.rightStart < h.rightStop)
    (hturn : hs.IsChain (·.same ≠ ·.same))
    (hlengths : ∀ h ∈ hs, h.same → h.leftLength = h.rightLength) : Laid i j hs := by
  induction hs generalizing i j with
  | nil => exact .nil
  | cons h hs ih =>
    rw [List.forall_mem_cons] at hmore hlengths
    rw [List.isChain_cons] at hturn
    cases hleft with
    | cons hl hleft =>
      cases hright with
      | cons hr hright =>
        exact .cons rfl rfl hl hr hmore.1 hlengths.1 hturn.1
          (ih hleft hright hmore.2 hturn.2 hlengths.2)

theorem laid_hunks {α : Type} [DecidableEq α] (left right : List α) :
    Laid 0 0 (Diff.hunks left right) := by
  have h := covers_hunks left right
  exact laid_of_tiles h.left h.right h.not_empty h.alternates h.same_length

/-- The rows of a change, and that no header is to come behind them. -/
theorem view_change (hdiffer : h.same = false)
    (hmore : h.leftStart < h.leftStop ∨ h.rightStart < h.rightStop) (before : List Slot) (n : Nat)
    (isFirst isLast : Bool) :
    view before (ofHunk n isFirst isLast h) = headerAfter before ++ Row.changeRows h ∧
      startsBlock (before ++ ofHunk n isFirst isLast h) = false := by
  have hrows := Row.changeRows_ne_nil h hmore
  rw [ofHunk_change hdiffer, view_shown, startsBlock_run _ hrows]
  simp [hrows]

theorem contextRows_eq_nil_iff : Row.contextRows h first count = [] ↔ count = 0 := by
  simp [Row.contextRows]

/-- What is left out of a hunk of unchanged lines calls for a header in front of what follows. -/
theorem startsBlock_gap (hpending : startsBlock before = pending)
    (hlead : lead ≠ 0 → pending = false) (h : Hunk) (gap : Nat) :
    startsBlock (before ++ run true (Row.contextRows h 0 lead) ++
      run false (Row.contextRows h lead gap)) = (pending || decide (gap ≠ 0)) := by
  by_cases hgap : gap = 0
  · rw [contextRows_eq_nil_iff.mpr hgap, run_nil, List.append_nil]
    by_cases hzero : lead = 0
    · rw [contextRows_eq_nil_iff.mpr hzero, run_nil, List.append_nil]
      simp [hpending, hgap]
    · rw [startsBlock_run _ (mt contextRows_eq_nil_iff.mp hzero)]
      simp [hlead hzero, hgap]
  · rw [startsBlock_run _ (mt contextRows_eq_nil_iff.mp hgap)]
    simp [hgap]

/-- Unchanged lines that are shown, with a header if lines are left out before them. -/
theorem view_context (before : List Slot) (h : Hunk) (first count : Nat) :
    view before (run true (Row.contextRows h first count)) =
      if count = 0 then [] else headerAfter before ++ Row.contextRows h first count := by
  rw [view_shown]
  by_cases hcount : count = 0
  · rw [contextRows_eq_nil_iff.mpr hcount, if_pos hcount]
    rfl
  · simp [contextRows_eq_nil_iff, hcount]

/-- The rows of a hunk of unchanged lines, the first and the last ones of which are shown, and
whether a header is still to come behind them. -/
theorem view_same (hsame : h.same = true) (hlengths : h.leftLength = h.rightLength)
    (hle : lead + trail ≤ h.leftLength)
    (hshown : ∀ k < h.leftLength, isShown n isFirst isLast h k =
      decide (k < lead ∨ h.leftLength - trail ≤ k))
    (hl : h.leftStart ≤ h.leftStop) (hr : h.rightStart ≤ h.rightStop)
    (hleft : leftLines before = h.leftStart) (hright : rightLines before = h.rightStart)
    (hpending : startsBlock before = pending) (hlead : lead ≠ 0 → pending = false) :
    view before (ofHunk n isFirst isLast h) = Row.contextRows h 0 lead ++
        (if trail = 0 then []
        else (if pending || lead + trail < h.leftLength then
            [.header (h.leftStop - trail) (h.rightStop - trail)] else []) ++
          Row.contextRows h (h.leftLength - trail) trail) ∧
      startsBlock (before ++ ofHunk n isFirst isLast h) =
        if trail = 0 then pending || lead + trail < h.leftLength else false := by
  have hgap : (h.leftLength - trail - lead ≠ 0) ↔ lead + trail < h.leftLength := by omega
  have hstarts := startsBlock_gap hpending hlead h (h.leftLength - trail - lead)
  simp only [hgap] at hstarts
  rw [ofHunk_same hsame hlengths hle hshown]
  constructor
  · have hfirst : view before (run true (Row.contextRows h 0 lead)) = Row.contextRows h 0 lead := by
      rw [view_context]
      by_cases hzero : lead = 0
      · simp [hzero, contextRows_eq_nil_iff]
      · simp [hzero, headerAfter, hpending, hlead hzero]
    have hplace : headerAfter (before ++ run true (Row.contextRows h 0 lead) ++
        run false (Row.contextRows h lead (h.leftLength - trail - lead))) =
          if pending || lead + trail < h.leftLength then
            [.header (h.leftStop - trail) (h.rightStop - trail)] else [] := by
      have hlines : h.leftStart + lead + (h.leftLength - trail - lead) = h.leftStop - trail ∧
          h.rightStart + lead + (h.leftLength - trail - lead) = h.rightStop - trail := by
        simp only [Hunk.leftLength, Hunk.rightLength] at hle hlengths ⊢
        omega
      simp only [headerAfter, hstarts, leftLines_append, rightLines_append, leftLines_run_context,
        rightLines_run_context, hleft, hright, hlines]
    rw [view_append, view_append, hfirst, view_hidden, List.append_nil, ← List.append_assoc before,
      view_context, hplace]
  · rw [← List.append_assoc, ← List.append_assoc]
    by_cases htrail : trail = 0
    · rw [if_pos htrail, ← hstarts]
      simp [htrail, Row.contextRows]
    · rw [if_neg htrail, startsBlock_run _ (mt contextRows_eq_nil_iff.mp htrail)]
      rfl

/-- All the lines of a hunk stand before what follows it. -/
theorem lines_ofHunk (hlengths : h.same = true → h.leftLength = h.rightLength) (n : Nat)
    (isFirst isLast : Bool) :
    leftLines (ofHunk n isFirst isLast h) = h.leftLength ∧
      rightLines (ofHunk n isFirst isLast h) = h.rightLength := by
  cases hsame : h.same with
  | false =>
    rw [ofHunk_change hsame]
    exact ⟨leftLines_run_change h, rightLines_run_change h⟩
  | true =>
    simp [leftLines, rightLines, ofHunk, rowAt, hsame, ← hlengths hsame, Function.comp_def,
      Row.hasLeft, Row.hasRight]

theorem lines_append_ofHunk (hlengths : h.same = true → h.leftLength = h.rightLength)
    (hl : h.leftStart ≤ h.leftStop) (hr : h.rightStart ≤ h.rightStop)
    (hleft : leftLines before = h.leftStart) (hright : rightLines before = h.rightStart) (n : Nat)
    (isFirst isLast : Bool) :
    leftLines (before ++ ofHunk n isFirst isLast h) = h.leftStop ∧
      rightLines (before ++ ofHunk n isFirst isLast h) = h.rightStop := by
  obtain ⟨hleft', hright'⟩ := lines_ofHunk hlengths n isFirst isLast
  rw [leftLines_append, rightLines_append, hleft, hright, hleft', hright']
  exact ⟨Nat.add_sub_cancel' hl, Nat.add_sub_cancel' hr⟩

/-- The first and the last lines that are shown may meet. -/
theorem isShown_same (hsame : h.same = true) (hk : k < h.leftLength) (isFirst isLast : Bool)
    (hlead : lead = if isFirst then 0 else min n h.leftLength)
    (htrail : trail = if isLast then 0 else min n (h.leftLength - lead)) :
    isShown n isFirst isLast h k = decide (k < lead ∨ h.leftLength - trail ≤ k) := by
  simp only [isShown, hsame, Bool.not_true, Bool.false_or]
  rw [← Bool.decide_coe (_ || _), decide_eq_decide]
  cases isFirst <;> cases isLast <;> simp at hlead htrail ⊢ <;> omega

theorem ofHunks_cons (n k : Nat) (h : Hunk) (rest : List Hunk) :
    ofHunks n k (k + (h :: rest).length) (h :: rest) =
      ofHunk n (k == 0) rest.isEmpty h ++ ofHunks n (k + 1) (k + 1 + rest.length) rest := by
  have hlast : (k + 1 == k + (h :: rest).length) = rest.isEmpty := by cases rest <;> simp
  have htotal : k + 1 + rest.length = k + (h :: rest).length := by
    simp only [List.length_cons]
    omega
  rw [htotal, ← hlast]
  rfl

/-- By induction along the hunks, with what stands before them as the state: the flag for a header
says whether a row that comes next starts a block. -/
theorem ofHunks_eq_view (hlaid : Laid i j hs) (hleft : leftLines before = i)
    (hright : rightLines before = j) (hpending : startsBlock before = pending)
    (hsame : ∀ h ∈ hs.head?, h.same = true → k = 0 ∨ pending = false) :
    Row.ofHunks n (k == 0) pending hs = view before (ofHunks n k (k + hs.length) hs) := by
  induction hs generalizing before i j k pending with
  | nil => rfl
  | cons h rest ih =>
    cases hlaid with
    | cons hi hj hl hr hmore hlengths hturn hrest =>
      subst hi hj
      obtain ⟨hleft', hright'⟩ :=
        lines_append_ofHunk hlengths hl hr hleft hright n (k == 0) rest.isEmpty
      have hlater (pending : Bool) (hstarts : startsBlock (before ++
          ofHunk n (k == 0) rest.isEmpty h) = pending)
          (hsame : ∀ g ∈ rest.head?, g.same = true → k + 1 = 0 ∨ pending = false) :
          Row.ofHunks n false pending rest = view (before ++ ofHunk n (k == 0) rest.isEmpty h)
            (ofHunks n (k + 1) (k + 1 + rest.length) rest) :=
        ih hrest hleft' hright' hstarts hsame
      rw [ofHunks_cons, view_append]
      cases hkind : h.same with
      | false =>
        obtain ⟨hview, hstarts⟩ := view_change hkind hmore before n (k == 0) rest.isEmpty
        rw [hview, ← hlater false hstarts fun _ _ _ => .inr rfl]
        simp [Row.ofHunks, hkind, headerAfter, hpending, hleft, hright]
      | true =>
        have hnext (pending : Bool) :
            ∀ g ∈ rest.head?, g.same = true → k + 1 = 0 ∨ pending = false :=
          fun g hg hg' => absurd (hkind.trans hg'.symm) (hturn g hg)
        simp only [Row.ofHunks, hkind, if_true]
        generalize hlead : (if (k == 0) = true then 0 else min n h.leftLength) = lead
        generalize htrail : (if rest.isEmpty = true then 0 else min n (h.leftLength - lead)) = trail
        have hle : lead + trail ≤ h.leftLength := by
          subst hlead htrail
          split_ifs <;> omega
        have hpending' : lead ≠ 0 → pending = false := by
          intro hzero
          rcases hsame h rfl hkind with rfl | hnone
          · simp [← hlead] at hzero
          · exact hnone
        obtain ⟨hview, hstarts⟩ := view_same hkind (hlengths hkind) hle
          (fun m hm => isShown_same hkind hm _ _ hlead.symm htrail.symm) hl hr
          hleft hright hpending hpending'
        rw [hview]
        by_cases hzero : trail = 0
        · rw [if_pos hzero] at hstarts
          simp only [hzero, if_true, List.append_nil]
          rw [← hlater _ hstarts (hnext _), hzero]
        · rw [if_neg hzero] at hstarts
          simp only [hzero, if_false, List.append_assoc]
          rw [← hlater _ hstarts (hnext _)]

end Slot

-- -----------------------------------------------------------------------------------------
-- Equal sides
-- -----------------------------------------------------------------------------------------

section
variable {α : Type} [DecidableEq α]

theorem Diff.commonPrefix_self (l : List α) : commonPrefix l l = l.length := by
  induction l with
  | nil => rfl
  | cons a l ih => simp [commonPrefix, ih]

theorem Diff.lcsMatches_self (l : List α) : lcsMatches l l = diagonal l.length := by
  simp [lcsMatches, commonPrefix_self, searchMatches, diagonal]

theorem Diff.runLength_ascending (j n : Nat) :
    runLength j ((List.range' j n).map some) = n := by
  induction n generalizing j with
  | zero => rfl
  | succ n ih => simp [List.range'_succ, runLength, ih]

/-- A sequence agrees with itself from its first element to the last. -/
theorem Diff.hunks_self (l : List α) :
    Diff.hunks l l = if l.length = 0 then [] else [sameHunk 0 0 l.length] := by
  have hrun : runLength 0 (diagonal l.length) = l.length := by
    rw [diagonal, List.range_eq_range', runLength_ascending]
  have hrest : (diagonal l.length).drop l.length = [] := by simp [diagonal]
  rw [Diff.hunks, lcsMatches_self, hunksOfMatches, hrun, hrest, changesFrom]
  simp

end

/-- The rows of a comparison are those of the positions that are shown, each with a header in front
if it is the first row or if lines are left out before it. A text has no differences from itself,
and no rows. -/
theorem TextDiff.rows_eq_view (left right : Text) (n : Nat) :
    let d := ofTexts left right n
    d.rows = Slot.view [] (Slot.ofHunks n 0 d.hunks.length d.hunks) ∧
      (ofTexts left left n).rows = [] := by
  intro d
  have hhunks : d.hunks = Diff.hunks (splitLines left) (splitLines right) := hunks_ofLines _ _ n
  constructor
  · have hlaid := Slot.laid_hunks (splitLines left) (splitLines right)
    have hview : Row.ofHunks n (0 == 0) true d.hunks =
        Slot.view [] (Slot.ofHunks n 0 (0 + d.hunks.length) d.hunks) :=
      Slot.ofHunks_eq_view (hhunks ▸ hlaid) rfl rfl rfl fun _ _ _ => .inl rfl
    rwa [Nat.zero_add] at hview
  · rw [rows, ofTexts_eq_ofLines, hunks_ofLines, hunks_self]
    split_ifs
    · rfl
    · simp [Row.ofHunks, sameHunk, Row.contextRows]

end Wikitext
