import Wikitext.Proofs.Text.Blank
import Wikitext.Stretch

/-!
# What goes with a stretch

The stretches are removed from left to right, and the text is cut at places that move on with them.
It is never cut out of order (`removeAll?_eq_some`). With a stretch goes at most the white space
beside it on its lines and one line break (`Removal.Modest`), and what goes with one ends before what
goes with the next one begins (`Removes.ordered`).

A stretch that begins before the last cut is passed over: it begins inside an earlier one, or in the
white space that goes with it. So if no two stretches overlap and none begins with white space, just
what stands outside of them can be seen in the result (`visible_removeAll`).
-/

namespace Wikitext

-- -----------------------------------------------------------------------------------------
-- Cutting within bounds
-- -----------------------------------------------------------------------------------------

namespace Text

/-- The slice, refused where its bounds are out of order or do not lie in the text. -/
def slice? (t : Text) (start stop : Nat) : Option Text :=
  if start ≤ stop ∧ stop ≤ t.length then some (slice t start stop) else none

def lineStart? (t : Text) (i : Nat) : Option Nat := do
  let front ← slice? t 0 i
  return i - (front.reverse.takeWhile (· != '\n')).length

theorem slice?_eq_some (h : start ≤ stop) (h' : stop ≤ t.length) :
    slice? t start stop = some (slice t start stop) := if_pos ⟨h, h'⟩

theorem lineStart?_eq_some (h : i ≤ t.length) : lineStart? t i = some (lineStart t i) := by
  rw [lineStart?, slice?_eq_some (Nat.zero_le i) h]
  rfl

theorem slice_to_end (t : Text) (i : Nat) : slice t i t.length = t.drop i := by
  rw [slice, List.take_of_length_le (by rw [List.length_drop])]

end Text

namespace Stretch

open Text (slice slice? lineStart lineStart? lineStart_le lineStart_cases)

-- -----------------------------------------------------------------------------------------
-- Slices
-- -----------------------------------------------------------------------------------------

theorem drop_eq_slice (t : Text) (h : a ≤ b) : t.drop a = slice t a b ++ t.drop b := by
  have hdrop : t.drop b = (t.drop a).drop (b - a) := by rw [List.drop_drop, Nat.add_sub_cancel' h]
  rw [hdrop, slice, List.take_append_drop]

theorem slice_cut (t : Text) (h : a ≤ b) (h' : b ≤ c) :
    slice t a c = slice t a b ++ slice t b c := by
  have hlen : c - a = (b - a) + (c - b) := by omega
  have hdrop : t.drop b = (t.drop a).drop (b - a) := by rw [List.drop_drop, Nat.add_sub_cancel' h]
  rw [slice, hlen, List.take_add, ← hdrop]
  rfl

theorem slice_suffix (t : Text) (h : a ≤ b) (h' : b ≤ c) : slice t b c ⊆ slice t a c := by
  rw [slice_cut t h h']
  exact List.subset_append_right _ _

theorem slice_append (pre u r : Text) :
    slice (pre ++ (u ++ r)) pre.length (pre.length + u.length) = u := by
  simp [slice]

/-- What stands at a stretch. -/
theorem slice_stretch {s : Stretch} (ht : t = a ++ (w ++ b))
    (hs : s = ⟨a.length, a.length + w.length⟩) : slice t s.start s.stop = w := by
  subst ht hs
  exact slice_append a w b

theorem slice_self (t : Text) (i : Nat) : slice t i i = [] := by simp [slice]

theorem length_slice {t : Text} (h : b ≤ t.length) : (slice t a b).length = b - a := by
  rw [slice, List.length_take, List.length_drop]
  omega

/-- The part of a line up to a position. -/
theorem not_mem_slice_lineStart (h : i ≤ t.length) : '\n' ∉ slice t (lineStart t i) i := by
  obtain ⟨front, line, htake, hstart, hline, -⟩ := Text.take_eq_append_line h
  rwa [slice, ← List.drop_take, htake, hstart, List.drop_left]

/-- The line feed before a line, except before the first one. -/
theorem slice_lineFeed (t : Text) (h : i ≤ t.length) :
    slice t (lineStart t i - 1) (lineStart t i) = [] ∨
      slice t (lineStart t i - 1) (lineStart t i) = ['\n'] := by
  have hle := lineStart_le t i
  rcases lineStart_cases t h with h₀ | ⟨u, hu⟩
  · exact .inl (by rw [h₀]; simp [slice])
  · have hlen : lineStart t i = u.length + 1 := by
      have := congrArg List.length hu
      simp only [List.length_take, List.length_append, List.length_singleton] at this
      omega
    right
    rw [slice, ← List.drop_take, hu, hlen, Nat.add_sub_cancel, List.drop_left]

-- -----------------------------------------------------------------------------------------
-- Cutting in order
-- -----------------------------------------------------------------------------------------

def Within (t : Text) (s : Stretch) : Prop := s.start ≤ s.stop ∧ s.stop ≤ t.length

instance : DecidablePred (Within t) := fun s =>
  inferInstanceAs (Decidable (s.start ≤ s.stop ∧ s.stop ≤ t.length))

/-- `removeOne`, with every slice of the text refused whose bounds are out of order. -/
def removeOne? (t : Text) (last : Nat) (s : Stretch) : Option (Text × Nat) := do
  if s.start < last then return ([], last)
  let lineStart ← lineStart? t s.start
  let before ← slice? t lineStart s.start
  let behind ← slice? t s.stop t.length
  let restOfLine := behind.takeWhile (· != '\n')
  if !(Text.isBlankText before && Text.isBlankText restOfLine) then
    return (← slice? t last s.start, s.stop)
  else if s.stop + restOfLine.length < t.length then
    return (← slice? t last (max lineStart last), s.stop + restOfLine.length + 1)
  else return (← slice? t last (max (lineStart - 1) last), t.length)

def removeFrom? (t : Text) : Nat → List Stretch → Option Text
  | last, [] => slice? t last t.length
  | last, s :: ss => do
    let (kept, last) ← removeOne? t last s
    return kept ++ (← removeFrom? t last ss)

def removeAll? (t : Text) (ss : List Stretch) : Option Text := removeFrom? t 0 ss

theorem removeOne?_eq_some (hs : Within t s) (last : Nat) :
    removeOne? t last s = some (removeOne t last s) := by
  obtain ⟨hordered, hinside⟩ := hs
  have hline := lineStart_le t s.start
  have hstart := hordered.trans hinside
  unfold removeOne? removeOne
  by_cases hpass : s.start < last
  · rw [if_pos hpass, if_pos hpass]
    rfl
  · rw [if_neg hpass, if_neg hpass, Text.lineStart?_eq_some hstart]
    rw [not_lt] at hpass
    have hown : (Text.isBlankText (slice t (lineStart t s.start) s.start) &&
        Text.isBlankText ((t.drop s.stop).takeWhile (· != '\n'))) = s.hasOwnLine t := rfl
    simp only [Option.bind_eq_bind, Option.bind_some, Option.pure_def,
      Text.slice?_eq_some hline hstart, Text.slice?_eq_some hinside (Nat.le_refl _),
      Text.slice_to_end, hown]
    rw [Text.slice?_eq_some hpass hstart, Text.slice?_eq_some (Nat.le_max_right _ _) (by omega),
      Text.slice?_eq_some (Nat.le_max_right _ _) (by omega)]
    cases s.hasOwnLine t with
    | false => rfl
    | true =>
      simp only [Option.bind_some, Bool.not_true, Bool.false_eq_true, if_false]
      split <;> rfl

-- -----------------------------------------------------------------------------------------
-- What no stretch covers
-- -----------------------------------------------------------------------------------------

def covers (s : Stretch) (i : Nat) : Bool := s.start ≤ i && i < s.stop

/-- The characters outside the stretches, if the text begins at position `n`. -/
def outsideFrom (n : Nat) (t : Text) (ss : List Stretch) : Text :=
  ((t.zipIdx n).filter fun (_, i) => !ss.any (·.covers i)).map (·.1)

/-- The characters outside the stretches. -/
def outside (t : Text) (ss : List Stretch) : Text := outsideFrom 0 t ss

theorem outside_congr {ss ss' : List Stretch} (h : ∀ s, s ∈ ss ↔ s ∈ ss') :
    outside t ss = outside t ss' := by
  have hany : ∀ i, ss.any (·.covers i) = ss'.any (·.covers i) := fun i => by
    rw [Bool.eq_iff_iff, List.any_eq_true, List.any_eq_true]
    simp only [h]
  simp only [outside, outsideFrom, hany]

theorem outsideFrom_append (n : Nat) (s t : Text) (ss : List Stretch) :
    outsideFrom n (s ++ t) ss = outsideFrom n s ss ++ outsideFrom (n + s.length) t ss := by
  simp [outsideFrom, List.zipIdx_append]

theorem outsideFrom_eq_self (h : ∀ i, n ≤ i → i < n + t.length → ∀ s ∈ ss, s.covers i = false) :
    outsideFrom n t ss = t := by
  rw [outsideFrom, List.filter_eq_self.mpr, List.zipIdx_map_fst]
  intro x hx
  have hno := h _ (List.le_snd_of_mem_zipIdx hx) (List.snd_lt_add_of_mem_zipIdx hx)
  simpa using hno

theorem outsideFrom_eq_nil (hs : s ∈ ss) (h : ∀ i, n ≤ i → i < n + t.length → s.covers i = true) :
    outsideFrom n t ss = [] := by
  rw [outsideFrom, List.filter_eq_nil_iff.mpr, List.map_nil]
  intro x hx
  have hyes := h _ (List.le_snd_of_mem_zipIdx hx) (List.snd_lt_add_of_mem_zipIdx hx)
  simpa using ⟨s, hs, hyes⟩

theorem outsideFrom_cons (h : ∀ i, n ≤ i → s.covers i = false) :
    outsideFrom n t (s :: ss) = outsideFrom n t ss := by
  rw [outsideFrom, outsideFrom]
  congr 1
  refine List.filter_congr fun x hx => ?_
  simp [h _ (List.le_snd_of_mem_zipIdx hx)]

-- -----------------------------------------------------------------------------------------
-- One stretch
-- -----------------------------------------------------------------------------------------

/-- White space on one line. -/
def LineBlank (x : Text) : Prop := Blank x ∧ '\n' ∉ x

/-- What may go with a stretch: white space on its lines before and behind it, and one line break
at most. -/
inductive Beside : Text → Text → Prop
  | blanks : LineBlank x → LineBlank y → Beside x y
  | breakBefore : LineBlank x → LineBlank y → Beside ('\n' :: x) y
  | breakBehind : LineBlank x → LineBlank y → Beside x (y ++ ['\n'])

/-- A stretch that is removed, and all that is taken from the text with it. -/
structure Removal where
  stretch : Stretch
  taken : Stretch

namespace Removal

/-- At most the white space beside the stretch on its lines and one line break are taken with it, and
nothing at all if something else stands on its lines. -/
structure Modest (t : Text) (r : Removal) : Prop where
  within : Within t r.stretch
  before : r.taken.start ≤ r.stretch.start
  behind : r.stretch.stop ≤ r.taken.stop
  inside : r.taken.stop ≤ t.length
  beside : Beside (slice t r.taken.start r.stretch.start) (slice t r.stretch.stop r.taken.stop)
  shared : r.stretch.hasOwnLine t = false → r.taken = r.stretch

theorem Modest.within_taken {r : Removal} (h : r.Modest t) : Within t r.taken :=
  ⟨h.before.trans (h.within.1.trans h.behind), h.inside⟩

end Removal

theorem LineBlank.subset (hy : LineBlank y) (h : x ⊆ y) : LineBlank x :=
  ⟨hy.1.subset h, fun hx => hy.2 (h hx)⟩

theorem lineBlank_nil : LineBlank [] := ⟨blank_nil, List.not_mem_nil⟩

theorem Beside.blank (h : Beside x y) : Blank x ∧ Blank y := by
  have hfeed : Blank ['\n'] := blank_singleton.mpr (by decide)
  cases h with
  | blanks hx hy => exact ⟨hx.1, hy.1⟩
  | breakBefore hx hy => exact ⟨hfeed.append hx.1, hy.1⟩
  | breakBehind hx hy => exact ⟨hx.1, hy.1.append hfeed⟩

theorem lineBlank_takeWhile {x : Text} (h : Blank (x.takeWhile (· != '\n'))) :
    LineBlank (x.takeWhile (· != '\n')) :=
  ⟨h, fun hmem => by simpa using List.mem_takeWhile_imp hmem⟩

/-- The line goes on up to the end of the text or to a line break. -/
theorem restOfLine_cases (h : i ≤ t.length) (hrest : (t.drop i).takeWhile (· != '\n') = rest) :
    (i + rest.length = t.length ∧ slice t i t.length = rest) ∨
      (i + rest.length < t.length ∧ slice t i (i + rest.length + 1) = rest ++ ['\n']) := by
  have hsplit := List.takeWhile_append_dropWhile (p := (· != '\n')) (l := t.drop i)
  have hfeed := Text.head_dropWhile (· != '\n') (t.drop i)
  rw [hrest] at hsplit
  generalize (t.drop i).dropWhile (· != '\n') = after at hsplit hfeed
  have hlen := congrArg List.length hsplit
  rw [List.length_append, List.length_drop] at hlen
  cases after with
  | nil =>
    rw [List.append_nil] at hsplit
    rw [List.length_nil] at hlen
    exact .inl ⟨by omega, by rw [Text.slice_to_end, hsplit]⟩
  | cons c after =>
    obtain rfl : c = '\n' := by simpa using hfeed
    rw [List.length_cons] at hlen
    have hcount : i + rest.length + 1 - i = (rest ++ ['\n']).length := by
      rw [List.length_append, List.length_singleton]
      omega
    refine .inr ⟨by omega, ?_⟩
    rw [slice, ← hsplit, hcount, List.append_cons rest '\n' after, List.take_left]

section
variable (hs : Within t s) (hown : s.hasOwnLine t = true)
include hs hown

theorem lineBlank_before (ha : lineStart t s.start ≤ a) (ha' : a ≤ s.start) :
    LineBlank (slice t a s.start) := by
  have hstart := hs.1.trans hs.2
  simp only [hasOwnLine, Bool.and_eq_true, Text.isBlankText_iff] at hown
  have hline : LineBlank (slice t (lineStart t s.start) s.start) := by
    exact ⟨hown.1, not_mem_slice_lineStart hstart⟩
  exact hline.subset (slice_suffix t ha ha')

/-- White space before a stretch with the line break before it, where there is one. -/
theorem beside_before (hy : LineBlank y) (ha : lineStart t s.start - 1 ≤ a) (ha' : a ≤ s.start) :
    Beside (slice t a s.start) y := by
  have hle := lineStart_le t s.start
  rcases Nat.lt_or_ge a (lineStart t s.start) with hlt | hge
  · have ha : a = lineStart t s.start - 1 := by omega
    have hline := lineBlank_before hs hown (Nat.le_refl _) hle
    rw [slice_cut t (Nat.le_of_lt hlt) hle, ha]
    rcases slice_lineFeed t (hs.1.trans hs.2) with hfeed | hfeed
    · rw [hfeed]
      exact .blanks hline hy
    · rw [hfeed]
      exact .breakBefore hline hy
  · exact .blanks (lineBlank_before hs hown hge ha') hy

/-- A stretch that has its lines for itself is removed with white space beside it, but with nothing
in front of `last`. -/
theorem removeOne_own (hlast : last ≤ s.start) : ∃ taken : Stretch,
    (Removal.mk s taken).Modest t ∧ last ≤ taken.start ∧
      removeOne t last s = (slice t last taken.start, taken.stop) := by
  have hle := lineStart_le t s.start
  obtain ⟨hordered, hinside⟩ := id hs
  have hnotShared : ∀ taken, s.hasOwnLine t = false → taken = s := fun taken hno => by
    rw [hown] at hno
    cases hno
  have hblank : LineBlank ((t.drop s.stop).takeWhile (· != '\n')) := by
    refine lineBlank_takeWhile ?_
    simp only [hasOwnLine, Bool.and_eq_true, Text.isBlankText_iff] at hown
    exact hown.2
  unfold removeOne
  rw [if_neg (Nat.not_lt.mpr hlast), hown]
  simp only [Bool.not_true, Bool.false_eq_true, if_false]
  generalize hrest : (t.drop s.stop).takeWhile (· != '\n') = rest at hblank ⊢
  -- Where the text ends with the line, the line break before it goes; otherwise the one behind it.
  rcases restOfLine_cases hinside hrest with ⟨hend, hslice⟩ | ⟨hfeed, hslice⟩
  · rw [if_neg (by omega)]
    refine ⟨⟨max (lineStart t s.start - 1) last, t.length⟩,
      ⟨hs, max_le (by dsimp only; omega) hlast, hinside, Nat.le_refl _, ?_, hnotShared _⟩,
      Nat.le_max_right _ _, rfl⟩
    dsimp only
    rw [hslice]
    exact beside_before hs hown hblank (Nat.le_max_left _ _) (max_le (by omega) hlast)
  · rw [if_pos hfeed]
    refine ⟨⟨max (lineStart t s.start) last, s.stop + rest.length + 1⟩,
      ⟨hs, max_le hle hlast, by dsimp only; omega, hfeed, ?_, hnotShared _⟩,
      Nat.le_max_right _ _, rfl⟩
    dsimp only
    rw [hslice]
    exact .breakBehind (lineBlank_before hs hown (Nat.le_max_left _ _) (max_le hle hlast)) hblank

end

/-- A stretch is passed over, or removed with white space beside it. -/
theorem removeOne_cases (hs : Within t s) (last : Nat) :
    (s.start < last ∧ removeOne t last s = ([], last)) ∨
      ∃ taken : Stretch, (Removal.mk s taken).Modest t ∧ last ≤ taken.start ∧
        removeOne t last s = (slice t last taken.start, taken.stop) := by
  by_cases hpass : s.start < last
  · exact .inl ⟨hpass, if_pos hpass⟩
  · have hlast := Nat.le_of_not_lt hpass
    right
    cases hown : s.hasOwnLine t with
    | true => exact removeOne_own hs hown hlast
    | false =>
      have hbeside : Beside (slice t s.start s.start) (slice t s.stop s.stop) := by
        rw [slice_self, slice_self]
        exact .blanks lineBlank_nil lineBlank_nil
      refine ⟨s, ⟨hs, Nat.le_refl _, Nat.le_refl _, hs.2, hbeside, fun _ => rfl⟩, hlast, ?_⟩
      rw [removeOne, if_neg hpass, hown]
      rfl

-- -----------------------------------------------------------------------------------------
-- All stretches
-- -----------------------------------------------------------------------------------------

theorem removeOne_snd_le (hs : Within t s) (hlast : last ≤ t.length) :
    (removeOne t last s).2 ≤ t.length := by
  rcases removeOne_cases hs last with ⟨-, hone⟩ | ⟨taken, hmodest, -, hone⟩
  · rw [hone]
    exact hlast
  · rw [hone]
    exact hmodest.inside

theorem removeFrom?_eq_some {ss : List Stretch} (h : ∀ s ∈ ss, Within t s) (hlast : last ≤ t.length) :
    removeFrom? t last ss = some (removeFrom t last ss) := by
  induction ss generalizing last with
  | nil => rw [removeFrom?, Text.slice?_eq_some hlast (Nat.le_refl _), Text.slice_to_end, removeFrom]
  | cons s ss ih =>
    rw [List.forall_mem_cons] at h
    have hrest := ih h.2 (removeOne_snd_le h.1 hlast)
    rw [removeFrom?, removeOne?_eq_some h.1, removeFrom]
    simp only [Option.bind_eq_bind, Option.bind_some, hrest, Option.pure_def]

theorem removeAll?_eq_some {ss : List Stretch} (h : ∀ s ∈ ss, Within t s) :
    removeAll? t ss = some (removeAll t ss) := removeFrom?_eq_some h (Nat.zero_le _)

/-- Which of the stretches are removed from the text behind the place `last`, and what is taken with
each of them. -/
inductive Removes (t : Text) : Nat → List Stretch → List Removal → Prop
  | nil : Removes t last [] []
  | pass : s.start < last → Removes t last ss rs → Removes t last (s :: ss) rs
  | take {r : Removal} {last ss rs} : r.Modest t → last ≤ r.taken.start →
      Removes t r.taken.stop ss rs → Removes t last (r.stretch :: ss) (r :: rs)

/-- The text outside of the stretches begins in front of the first one. -/
theorem outsideFrom_first (hs : Within t s) (hlast : last ≤ s.start)
    (hss : ∀ s' ∈ ss, s.stop ≤ s'.start) : outsideFrom last (t.drop last) (s :: ss) =
      slice t last s.start ++ outsideFrom s.stop (t.drop s.stop) ss := by
  obtain ⟨hordered, hinside⟩ := hs
  have hstart := hordered.trans hinside
  rw [drop_eq_slice t hlast, drop_eq_slice t hordered, outsideFrom_append, outsideFrom_append,
    length_slice hstart, length_slice hinside, Nat.add_sub_cancel' hlast,
    Nat.add_sub_cancel' hordered]
  have hbefore : outsideFrom last (slice t last s.start) (s :: ss) = slice t last s.start := by
    refine outsideFrom_eq_self fun i _ hi s' hs' => ?_
    rw [length_slice hstart] at hi
    have hle : s.start ≤ s'.start := by
      rcases List.mem_cons.mp hs' with rfl | hs'
      · exact Nat.le_refl _
      · exact hordered.trans (hss s' hs')
    simp only [covers, Bool.and_eq_false_iff, decide_eq_false_iff_not]
    omega
  have hcovered : outsideFrom s.start (slice t s.start s.stop) (s :: ss) = [] := by
    refine outsideFrom_eq_nil List.mem_cons_self fun i hi hi' => ?_
    rw [length_slice hinside] at hi'
    simp only [covers, Bool.and_eq_true, decide_eq_true_eq]
    omega
  have hbehind : outsideFrom s.stop (t.drop s.stop) (s :: ss) =
      outsideFrom s.stop (t.drop s.stop) ss := by
    refine outsideFrom_cons fun i hi => ?_
    simp only [covers, Bool.and_eq_false_iff, decide_eq_false_iff_not]
    omega
  rw [hbefore, hcovered, hbehind, List.nil_append]

namespace Removes

variable {ss : List Stretch} {rs : List Removal}

theorem sublist (h : Removes t last ss rs) : (rs.map (·.stretch)).Sublist ss := by
  induction h with
  | nil => exact .slnil
  | pass _ _ ih => exact ih.cons _
  | take _ _ _ ih => exact ih.cons_cons _

theorem modest (h : Removes t last ss rs) : ∀ r ∈ rs, r.Modest t := by
  induction h with
  | nil => exact fun r hr => absurd hr List.not_mem_nil
  | pass _ _ ih => exact ih
  | take hr _ _ ih => exact List.forall_mem_cons.mpr ⟨hr, ih⟩

theorem le_start (h : Removes t last ss rs) : ∀ r ∈ rs, last ≤ r.taken.start := by
  induction h with
  | nil => exact fun r hr => absurd hr List.not_mem_nil
  | pass _ _ ih => exact ih
  | @take r last ss rs hr hle _ ih =>
    exact List.forall_mem_cons.mpr ⟨hle, fun r' hr' => hle.trans (hr.within_taken.1.trans (ih r' hr'))⟩

theorem ordered (h : Removes t last ss rs) :
    rs.Pairwise fun r r' => r.taken.stop ≤ r'.taken.start := by
  induction h with
  | nil => exact .nil
  | pass _ _ ih => exact ih
  | take _ _ h ih => exact .cons h.le_start ih

/-- A stretch that is not removed begins in what is taken with an earlier one. -/
theorem passed (h : Removes t last ss rs) (hsorted : ss.Pairwise fun s s' => s.start ≤ s'.start) :
    ∀ s ∈ ss, s ∈ rs.map (·.stretch) ∨ s.start < last ∨
      ∃ r ∈ rs, r.stretch.start ≤ s.start ∧ s.start < r.taken.stop := by
  induction h with
  | nil => exact fun s hs => absurd hs List.not_mem_nil
  | pass hpass _ ih =>
    rw [List.pairwise_cons] at hsorted
    exact List.forall_mem_cons.mpr ⟨.inr (.inl hpass), ih hsorted.2⟩
  | @take r last ss rs _ _ _ ih =>
    rw [List.pairwise_cons] at hsorted
    refine List.forall_mem_cons.mpr ⟨.inl List.mem_cons_self, fun s hs => ?_⟩
    rcases ih hsorted.2 s hs with hmem | hlt | ⟨r', hr', hstart⟩
    · exact .inl (List.mem_cons_of_mem _ hmem)
    · exact .inr (.inr ⟨r, List.mem_cons_self, hsorted.1 s hs, hlt⟩)
    · exact .inr (.inr ⟨r', List.mem_cons_of_mem _ hr', hstart⟩)

/-- What is taken with the stretches that are removed makes no difference to what can be seen. -/
theorem visible (h : Removes t last ss rs) :
    Text.visible (outsideFrom last (t.drop last) (rs.map (·.taken))) =
      Text.visible (outsideFrom last (t.drop last) (rs.map (·.stretch))) := by
  induction h with
  | nil => rfl
  | pass _ _ ih => exact ih
  | @take r last ss rs hr hle h ih =>
    have hbefore := hr.before
    have hbehind := hr.behind
    have hrest : ∀ s ∈ rs.map (·.taken), r.taken.stop ≤ s.start :=
      List.forall_mem_map.mpr h.le_start
    have hrest' : ∀ s ∈ rs.map (·.stretch), r.taken.stop ≤ s.start :=
      List.forall_mem_map.mpr fun r' hr' => (h.le_start r' hr').trans (h.modest r' hr').before
    -- Between the stretch and the ends of what is taken with it there is nothing to be seen.
    obtain ⟨hblank, hblank'⟩ := hr.beside.blank
    have hself : outsideFrom r.stretch.stop (slice t r.stretch.stop r.taken.stop)
        (rs.map (·.stretch)) = slice t r.stretch.stop r.taken.stop := by
      refine outsideFrom_eq_self fun i _ hi s hs => ?_
      have hle := hrest' s hs
      rw [length_slice hr.inside] at hi
      simp only [covers, Bool.and_eq_false_iff, decide_eq_false_iff_not]
      omega
    rw [List.map_cons, List.map_cons, outsideFrom_first hr.within_taken hle hrest,
      outsideFrom_first hr.within (hle.trans hbefore) fun s hs => hbehind.trans (hrest' s hs),
      slice_cut t hle hbefore, drop_eq_slice t hbehind, outsideFrom_append, hself,
      length_slice hr.inside, Nat.add_sub_cancel' hbehind]
    simp only [Text.visible_append, Text.visible_eq_nil.mpr hblank, Text.visible_eq_nil.mpr hblank',
      List.append_nil, List.nil_append, ih]

end Removes

/-- By induction on the stretches, with the place from which on the text is still to be looked at. -/
theorem exists_removes {ss : List Stretch} (h : ∀ s ∈ ss, Within t s) (last : Nat) :
    ∃ rs, Removes t last ss rs ∧
      removeFrom t last ss = outsideFrom last (t.drop last) (rs.map (·.taken)) := by
  induction ss generalizing last with
  | nil => exact ⟨[], .nil, (outsideFrom_eq_self (by simp)).symm⟩
  | cons s ss ih =>
    rw [List.forall_mem_cons] at h
    rcases removeOne_cases h.1 last with ⟨hpass, hone⟩ | ⟨taken, hmodest, hle, hone⟩
    · obtain ⟨rs, hrs, hout⟩ := ih h.2 last
      refine ⟨rs, .pass hpass hrs, ?_⟩
      rw [removeFrom, hone]
      exact hout
    · obtain ⟨rs, hrs, hout⟩ := ih h.2 taken.stop
      refine ⟨⟨s, taken⟩ :: rs, .take (r := ⟨s, taken⟩) hmodest hle hrs, ?_⟩
      rw [removeFrom, hone, List.map_cons, outsideFrom_first hmodest.within_taken hle
        (List.forall_mem_map.mpr hrs.le_start), ← hout]

-- -----------------------------------------------------------------------------------------
-- Stretches that are passed over
-- -----------------------------------------------------------------------------------------

/-- The stretches have no position in common. -/
def Disjoint (s s' : Stretch) : Prop := ∀ i, ¬ (s.covers i = true ∧ s'.covers i = true)

/-- The first character of the stretch is white space. -/
def BeginsBlank (t : Text) (s : Stretch) : Prop :=
  (slice t s.start s.stop).head?.any Chars.isBlank = true

instance : Decidable (BeginsBlank t s) := inferInstanceAs (Decidable (_ = true))

/-- What becomes of the stretches: some of them are removed, in their order, and nothing is taken from
the text twice. The others begin in what is taken with a removed one, either inside that one or in the
white space behind it. -/
structure Accounts (t : Text) (ss : List Stretch) (rs : List Removal) : Prop where
  removed : (rs.map (·.stretch)).Sublist ss
  modest : ∀ r ∈ rs, r.Modest t
  ordered : rs.Pairwise fun r r' => r.taken.stop ≤ r'.taken.start
  passed : ∀ s ∈ ss, s ∈ rs.map (·.stretch) ∨ (∃ r ∈ rs, r.stretch.covers s.start = true) ∨
    ∃ r ∈ rs, r.stretch.stop ≤ s.start ∧ s.start < r.taken.stop

variable {ss : List Stretch} {rs : List Removal}

theorem Removes.accounts (h : Removes t 0 ss rs)
    (hsorted : ss.Pairwise fun s s' => s.start ≤ s'.start) : Accounts t ss rs := by
  refine ⟨h.sublist, h.modest, h.ordered, fun s hs => ?_⟩
  rcases h.passed hsorted s hs with hmem | hlt | ⟨r, hr, hstart, hstop⟩
  · exact .inl hmem
  · exact absurd hlt (Nat.not_lt_zero _)
  · rcases Nat.lt_or_ge s.start r.stretch.stop with hlt | hge
    · exact .inr (.inl ⟨r, hr, by simp [covers, hstart, hlt]⟩)
    · exact .inr (.inr ⟨r, hr, hge, hstop⟩)

theorem disjoint_of_le (h : s.stop ≤ s'.start) : Disjoint s s' := by
  intro i
  simp only [covers, Bool.and_eq_true, decide_eq_true_eq]
  omega

instance : Std.Symm Disjoint := ⟨fun _ _ h i hi => h i hi.symm⟩

/-- A stretch that has something in it begins in no other one, if none overlap. -/
theorem Accounts.passed_of_disjoint (h : Accounts t ss rs) (hdisjoint : ss.Pairwise Disjoint) :
    ∀ s ∈ ss, s ∈ rs.map (·.stretch) ∨ s.stop ≤ s.start ∨
      ∃ r ∈ rs, r.stretch.stop ≤ s.start ∧ s.start < r.taken.stop := by
  intro s hs
  rcases h.passed s hs with hmem | ⟨r, hr, hcovers⟩ | hblank
  · exact .inl hmem
  · by_cases hmem : s ∈ rs.map (·.stretch)
    · exact .inl hmem
    · refine .inr (.inl (Nat.le_of_not_lt fun hlt => ?_))
      have hremoved := List.mem_map_of_mem (f := (·.stretch)) hr
      have hapart : Disjoint r.stretch s :=
        hdisjoint.forall (h.removed.subset hremoved) hs fun he => hmem (he ▸ hremoved)
      exact hapart s.start ⟨hcovers, by simp [covers, hlt]⟩
  · exact .inr (.inr hblank)

theorem outside_sublist {ss' : List Stretch} (h : ss' ⊆ ss) (t : Text) :
    (outside t ss).Sublist (outside t ss') := by
  refine (List.monotone_filter_right _ fun x hx => ?_).map _
  rw [Bool.not_eq_true', List.any_eq_false] at hx ⊢
  exact fun s hs => hx s (h hs)

theorem head?_slice (h : a < b) (t : Text) : (slice t a b).head? = t[a]? := by
  rw [slice, List.head?_take, if_neg (by omega), List.head?_drop]

/-- A stretch that begins in the white space behind another one begins with it. -/
theorem Removal.Modest.beginsBlank {r : Removal} (h : r.Modest t) (hstart : r.stretch.stop ≤ s.start)
    (hstop : s.start < r.taken.stop) (hs : s.start < s.stop) : BeginsBlank t s := by
  have hlt : s.start < t.length := Nat.lt_of_lt_of_le hstop h.inside
  have hchar : t[s.start]? = some t[s.start] := List.getElem?_eq_getElem hlt
  have hmem : t[s.start] ∈ slice t s.start r.taken.stop := by
    refine List.mem_of_mem_head? ?_
    rw [head?_slice hstop, hchar]
    rfl
  have hblank := h.beside.blank.2 _ (slice_suffix t hstart (Nat.le_of_lt hstop) hmem)
  rw [BeginsBlank, head?_slice hs, hchar, Option.any_some]
  exact hblank

/-- Where none overlap and none begins with white space, they are all removed, up to empty ones. -/
theorem Accounts.outside_eq (h : Accounts t ss rs) (hdisjoint : ss.Pairwise Disjoint)
    (hsolid : ∀ s ∈ ss, ¬ BeginsBlank t s) : outside t (rs.map (·.stretch)) = outside t ss := by
  have hany : ∀ i, (rs.map (·.stretch)).any (·.covers i) = ss.any (·.covers i) := by
    intro i
    rw [Bool.eq_iff_iff, List.any_eq_true, List.any_eq_true]
    constructor
    · exact fun ⟨s, hs, hi⟩ => ⟨s, h.removed.subset hs, hi⟩
    · rintro ⟨s, hs, hi⟩
      have hne : s.start < s.stop := by
        simp only [covers, Bool.and_eq_true, decide_eq_true_eq] at hi
        omega
      rcases h.passed_of_disjoint hdisjoint s hs with hmem | hempty | ⟨r, hr, hstart, hstop⟩
      · exact ⟨s, hmem, hi⟩
      · omega
      · exact absurd ((h.modest r hr).beginsBlank hstart hstop hne) (hsolid s hs)
  simp only [outside, outsideFrom, hany]

theorem visible_removeAll (hin : ∀ s ∈ ss, Within t s)
    (hsorted : ss.Pairwise fun s s' => s.start ≤ s'.start) (hdisjoint : ss.Pairwise Disjoint)
    (hsolid : ∀ s ∈ ss, ¬ BeginsBlank t s) :
    Text.visible (removeAll t ss) = Text.visible (outside t ss) := by
  obtain ⟨rs, hrs, hout⟩ := exists_removes hin 0
  rw [removeAll, hout, ← (hrs.accounts hsorted).outside_eq hdisjoint hsolid]
  exact hrs.visible

/-- The second stretch begins with the line break that goes with the first one, and is passed over. -/
example : removeAll "A\nB".toList [⟨0, 1⟩, ⟨1, 3⟩] = "B".toList := by decide

end Stretch

end Wikitext
