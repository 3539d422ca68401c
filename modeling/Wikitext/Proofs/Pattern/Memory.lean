import Wikitext.Proofs.Pattern.Pieces
import Wikitext.Proofs.Pattern.Ways

/-!
# What a search remembers

A search keeps the choices that led nowhere and does not try them twice. `walk_answers` is the
invariant behind this: every choice that is kept is one from which no way can be completed, and
under it a walk finds the first way that its continuation can complete, or none. Programs with
rounds that may be empty are left out.
-/

namespace Wikitext

-- -----------------------------------------------------------------------------------------
-- Places of one text
-- -----------------------------------------------------------------------------------------

/-- The place lies in the text, outside of idle rounds. -/
structure Cursor.In (t : Text) (c : Cursor) : Prop where
  past : ∃ w, (Cursor.ofText t).Past w c
  idle : c.idle = 0

namespace Cursor.In

theorem placed (h : In t c) : c.Placed := by
  obtain ⟨w, hw⟩ := h.past
  exact hw.placed

theorem start (t : Text) : In t (Cursor.ofText t) := ⟨⟨[], .refl (placed_ofText t)⟩, rfl⟩

theorem next (h : In t c) (hr : c.rest = x :: xs) : In t (c.past x xs) := by
  obtain ⟨w, hw⟩ := h.past
  exact ⟨⟨w ++ [x], hw.trans (.one h.placed hr)⟩, rfl⟩

/-- A place is determined by what is left of the text. -/
theorem eq_of_left (h : In t c) (h' : In t c') (hl : c.left = c'.left) : c = c' := by
  obtain ⟨⟨w, hw⟩, hidle⟩ := h
  obtain ⟨⟨w', hw'⟩, hidle'⟩ := h'
  have hlen : w.length = w'.length := by
    have := hw.left_eq (placed_ofText t)
    have := hw'.left_eq (placed_ofText t)
    omega
  obtain ⟨rfl, hrest⟩ := List.append_inj (hw.rest.symm.trans hw'.rest) hlen
  have hbefore := hw.before.trans hw'.before.symm
  cases c
  cases c'
  simp_all

end Cursor.In

-- -----------------------------------------------------------------------------------------
-- Programs without idle rounds
-- -----------------------------------------------------------------------------------------

namespace Program

/-- Every round of a repetition consumes something. -/
def Steady : Program → Prop
  | .empty | .char _ | .anchor _ | .run _ _ _ => True
  | .seq a b | .alt _ a b => a.Steady ∧ b.Steady
  | .capture _ a => a.Steady
  | .loop _ _ nullable a =>
    nullable = false ∧ a.Steady ∧ ∀ c : Cursor, c.Placed → ∀ way ∈ a.ways c, way.stop.left < c.left
  | .opening _ _ => False

theorem steady_copies {step : Site → Program × Site} (h : ∀ s, (step s).1.Steady)
    (branches : Bool) : ∀ (n : Nat) (s : Site), (copies step branches n s).1.Steady
  | 0, _ => trivial
  | 1, s => h s
  | n + 2, s => ⟨h s, steady_copies h branches (n + 1) _⟩

theorem steady_prefer (ha : a.Steady) (hb : b.Steady) : (prefer mark greedy a b).Steady := by
  cases greedy
  · exact ⟨hb, ha⟩
  · exact ⟨ha, hb⟩

theorem steady_optionals {step : Site → Program × Site} (h : ∀ s, (step s).1.Steady) (greedy : Bool)
    (n : Nat) (s : Site) : (optionals step greedy n s).1.Steady := by
  induction n generalizing s with
  | zero => trivial
  | succ n ih => exact steady_prefer ⟨h _, ih _⟩ trivial

theorem steady_compile {p : Pattern} (hp : p.steady = true) (s : Site) :
    (compile p s).1.Steady := by
  induction p generalizing s with
  | empty | char | anchor => trivial
  | seq a b iha ihb | alt a b iha ihb =>
    simp only [Pattern.steady, Bool.and_eq_true] at hp
    exact ⟨iha hp.1 _, ihb hp.2 _⟩
  | capture i a ih => exact ih hp s
  | times least most greedy a ih =>
    simp only [Pattern.steady, Bool.and_eq_true, Bool.or_eq_true, Bool.not_eq_true'] at hp
    have hform := unrolled least most greedy a s
    generalize (compile (.times least most greedy a) s).1 = P,
      (compile (.times least most greedy a) s).2.next = next at hform ⊢
    cases hform with
    | run => trivial
    | optionals => exact ⟨steady_copies (ih hp.1) _ _ _, steady_optionals (ih hp.1) _ _ _⟩
    | copiesRun => exact ⟨steady_copies (ih hp.1) _ _ _, trivial⟩
    | rounds hn =>
      refine ⟨steady_copies (ih hp.1) _ _ _, rfl, ih hp.1 _, fun c hc way hway => ?_⟩
      obtain ⟨w, hpast, hw⟩ := (Exact.compile hp.1 _).sound hc hway
      have hpos := List.length_pos_iff.mpr (hw.ne_nil hn)
      have hleft := hpast.left_eq hc
      omega
    | opening hn | optionalOpening hn => simp [hn] at hp

theorem in_of_mem_reach (hc : c.In t) (hseen : ∀ c ∈ seen, c.In t)
    (h : c' ∈ reach accepts c.rest c seen) : c'.In t := by
  generalize hr : c.rest = r at h
  induction r generalizing c seen with
  | nil =>
    rcases List.mem_cons.mp h with rfl | h
    · exact hc
    · exact hseen _ h
  | cons x r ih =>
    have hall : ∀ c' ∈ c :: seen, c'.In t := List.forall_mem_cons.mpr ⟨hc, hseen⟩
    simp only [reach] at h
    split at h
    · exact ih (hc.next hr) hall rfl h
    · exact hall _ h

/-- The ways lead to places of the text. -/
theorem Steady.in_of_mem_ways {P : Program} (hP : P.Steady) (hc : c.In t) :
    ∀ way ∈ P.ways c, way.stop.In t := by
  induction P generalizing c with
  | empty =>
    rintro way h
    obtain rfl := List.mem_singleton.mp h
    exact hc
  | char accepts =>
    rintro way h
    simp only [ways] at h
    split at h
    · cases h
    · rename_i x rest hr
      split at h
      · obtain rfl := List.mem_singleton.mp h
        exact hc.next hr
      · cases h
  | anchor a =>
    rintro way h
    simp only [ways] at h
    split at h
    · obtain rfl := List.mem_singleton.mp h
      exact hc
    · cases h
  | seq a b iha ihb =>
    rintro way h
    obtain ⟨one, hone, more, hmore, rfl⟩ := Exact.mem_andThen.mp h
    exact ihb hP.2 (iha hP.1 hc one hone) more hmore
  | alt mark a b iha ihb =>
    rintro way h
    rcases List.mem_append.mp h with h | h
    · exact iha hP.1 hc way h
    · exact ihb hP.2 hc way h
  | capture i a ih =>
    rintro way h
    obtain ⟨inner, hinner, rfl⟩ := List.mem_map.mp h
    exact ih hP hc inner hinner
  | run mark greedy accepts =>
    rintro way h
    rw [ways, List.mem_map] at h
    obtain ⟨stop, hstop, rfl⟩ := h
    have hreach : stop ∈ reach accepts c.rest c [] := by
      cases greedy <;> simpa using hstop
    exact in_of_mem_reach hc (by simp) hreach
  | loop mark greedy nullable a ih =>
    obtain ⟨rfl, ha, -⟩ := hP
    induction hn : c.left using Nat.strongRecOn generalizing c with
    | _ n ihn =>
      subst hn
      rintro way h
      rcases Exact.mem_waysOfRounds.mp h with rfl | ⟨one, hone, hlt, more, hmore, rfl⟩
      · exact hc
      · exact ihn _ hlt (ih ha hc one hone) rfl more hmore
  | opening => cases hP

-- -----------------------------------------------------------------------------------------
-- Choices
-- -----------------------------------------------------------------------------------------

/-- No way can be completed from `c`, given the places from which nothing can be completed after
the program. -/
def Hopeless (P : Program) (F : Cursor → Prop) (c : Cursor) : Prop := ∀ way ∈ P.ways c, F way.stop

/-- `Choice P F m D`: a choice in the program has the mark `m`, and the places from which it leads
nowhere are those of `D`, where `F` are those from which nothing can be completed after `P`. -/
inductive Choice : Program → (Cursor → Prop) → Nat → (Cursor → Prop) → Prop
  | first : Choice a (b.Hopeless F) m D → Choice (.seq a b) F m D
  | second : Choice b F m D → Choice (.seq a b) F m D
  | alt : Choice (.alt (some m) a b) F m ((Program.alt (some m) a b).Hopeless F)
  | left : Choice a F m D → Choice (.alt mark a b) F m D
  | right : Choice b F m D → Choice (.alt mark a b) F m D
  | capture : Choice a F m D → Choice (.capture i a) F m D
  | run : Choice (.run (some m) greedy accepts) F m
      ((Program.run (some m) greedy accepts).Hopeless F)
  | loop : Choice (.loop m greedy nullable a) F m ((Program.loop m greedy nullable a).Hopeless F)
  | body : Choice a ((Program.loop n greedy nullable a).Hopeless F) m D →
      Choice (.loop n greedy nullable a) F m D

def marks : Program → List Nat
  | .empty | .char _ | .anchor _ => []
  | .seq a b | .opening a b => a.marks ++ b.marks
  | .alt mark a b => mark.toList ++ (a.marks ++ b.marks)
  | .capture _ a => a.marks
  | .run mark _ _ => mark.toList
  | .loop mark _ _ a => mark :: a.marks

theorem Choice.mem_marks (h : Choice P F m D) : m ∈ P.marks := by
  induction h <;> simp_all [marks]

/-- A mark stands at one choice only. -/
theorem Choice.unique (h : Choice P F m D) (h' : Choice P F m D') (hP : P.marks.Nodup) : D = D' := by
  induction h generalizing D' with
  | first h ih =>
    rw [marks, List.nodup_append] at hP
    cases h' with
    | first h' => exact ih h' hP.1
    | second h' => exact absurd rfl (hP.2.2 _ h.mem_marks _ h'.mem_marks)
  | second h ih =>
    rw [marks, List.nodup_append] at hP
    cases h' with
    | first h' => exact absurd rfl (hP.2.2 _ h'.mem_marks _ h.mem_marks)
    | second h' => exact ih h' hP.2.1
  | alt =>
    simp only [marks, Option.toList_some, List.singleton_append, List.nodup_cons,
      List.mem_append, not_or] at hP
    cases h' with
    | alt => rfl
    | left h' => exact absurd h'.mem_marks hP.1.1
    | right h' => exact absurd h'.mem_marks hP.1.2
  | left h ih =>
    rw [marks, List.nodup_append] at hP
    obtain ⟨-, hab, hmark⟩ := hP
    rw [List.nodup_append] at hab
    cases h' with
    | alt => exact absurd rfl (hmark _ (by simp) _ (List.mem_append_left _ h.mem_marks))
    | left h' => exact ih h' hab.1
    | right h' => exact absurd rfl (hab.2.2 _ h.mem_marks _ h'.mem_marks)
  | right h ih =>
    rw [marks, List.nodup_append] at hP
    obtain ⟨-, hab, hmark⟩ := hP
    rw [List.nodup_append] at hab
    cases h' with
    | alt => exact absurd rfl (hmark _ (by simp) _ (List.mem_append_right _ h.mem_marks))
    | left h' => exact absurd rfl (hab.2.2 _ h'.mem_marks _ h.mem_marks)
    | right h' => exact ih h' hab.2.1
  | capture _ ih =>
    cases h' with
    | capture h' => exact ih h' hP
  | run =>
    cases h'
    rfl
  | loop =>
    rw [marks, List.nodup_cons] at hP
    cases h' with
    | loop => rfl
    | body h' => exact absurd h'.mem_marks hP.1
  | body h ih =>
    rw [marks, List.nodup_cons] at hP
    cases h' with
    | loop => exact absurd h.mem_marks hP.1
    | body h' => exact ih h' hP.2

end Program

-- -----------------------------------------------------------------------------------------
-- Memories
-- -----------------------------------------------------------------------------------------

/-- What the memory of a search of the text may hold: choices of the program that lead nowhere. -/
structure Memo.Sound (t : Text) (r : Regex) (memo : Memo) : Prop where
  marks : memo.marks = r.marks
  dead {m : Nat} {c : Cursor} : m < r.marks → c.In t → memo.isDead m c = true →
    ∃ D, Program.Choice r.program (fun _ => False) m D ∧ D c

/-- The marks of the program are different and fit into the memory. -/
structure Regex.Marked (r : Regex) : Prop where
  nodup : r.program.marks.Nodup
  lt : ∀ m ∈ r.program.marks, m < r.marks

namespace Memo

theorem sound_empty (t : Text) (r : Regex) : Sound t r { marks := r.marks } :=
  ⟨rfl, fun _ _ h => by simp [isDead] at h⟩

/-- A number in the memory stands for one choice at one place. -/
theorem key_inj {memo : Memo} (hm : m < memo.marks) (hm' : m' < memo.marks) (hc : c.In t)
    (hc' : c'.In t) (h : memo.key m c = memo.key m' c') : m = m' ∧ c = c' := by
  simp only [key, hc.idle, hc'.idle, Nat.add_zero] at h
  have hpos : 0 < memo.marks := Nat.zero_lt_of_lt hm
  have hmod := congrArg (· % memo.marks) h
  have hdiv := congrArg (· / memo.marks) h
  simp only [Nat.mul_comm _ memo.marks, Nat.mul_add_mod, Nat.mod_eq_of_lt, Nat.mul_add_div hpos,
    Nat.div_eq_of_lt, Nat.add_zero, hm, hm'] at hmod hdiv
  exact ⟨hmod, hc.eq_of_left hc' hdiv⟩

variable {r : Regex} {memo : Memo}

theorem Sound.bury (h : Sound t r memo) (hm : m < r.marks) (hc : c.In t)
    (hD : Program.Choice r.program (fun _ => False) m D) (hdead : D c) :
    Sound t r (memo.bury m c) where
  marks := h.marks
  dead {m' c'} hm' hc' hd := by
    have hkey : (memo.bury m c).key m' c' = memo.key m' c' := rfl
    rw [isDead, hkey, Memo.bury, Nat.testBit_or, Nat.one_shiftLeft, Nat.testBit_two_pow,
      Bool.or_eq_true, decide_eq_true_eq] at hd
    rcases hd with hd | hd
    · exact h.dead hm' hc' hd
    · rw [← h.marks] at hm hm'
      obtain ⟨rfl, rfl⟩ := key_inj hm hm' hc hc' hd
      exact ⟨D, hD, hdead⟩

end Memo

-- -----------------------------------------------------------------------------------------
-- Answers
-- -----------------------------------------------------------------------------------------

/-- What a search finds from a place, with what was captured before it. -/
abbrev Goal := Cursor → Captures → Option Way

/-- The first of the ways that can be completed. -/
def Goal.first (K : Goal) (captures : Captures) (ways : List Way) : Option Way :=
  ways.findSome? fun way => K way.stop (way.captures ++ captures)

/-- What is found from a place through a program. -/
def Goal.after (K : Goal) (P : Program) : Goal := fun c captures => K.first captures (P.ways c)

namespace Goal

theorem first_here {K : Goal} : K.first captures [⟨c, []⟩] = K c captures := by simp [first]

theorem first_eq_none {K : Goal} :
    K.first captures ways = none ↔ ∀ way ∈ ways, K way.stop (way.captures ++ captures) = none :=
  List.findSome?_eq_none_iff

theorem first_append {K : Goal} :
    K.first captures (ways ++ ways') = (K.first captures ways).or (K.first captures ways') :=
  List.findSome?_append

theorem first_map_andThen (K : Goal) (captures : Captures) (way : Way) (ways : List Way) :
    K.first captures (ways.map way.andThen) = K.first (way.captures ++ captures) ways := by
  simp [first, List.findSome?_map, Function.comp_def, Way.andThen]

theorem first_flatMap (K : Goal) (captures : Captures) (ways : List Way) (f : Way → List Way) :
    K.first captures (ways.flatMap f) = ways.findSome? fun way => K.first captures (f way) := by
  induction ways with
  | nil => rfl
  | cons way ways ih =>
    rw [List.flatMap_cons, first_append, ih, List.findSome?_cons]
    cases K.first captures (f way) <;> rfl

end Goal

/-- The outcome is the way that is expected, or a failure with a sound memory. -/
inductive Outcome.Is (t : Text) (r : Regex) : Outcome → Option Way → Prop
  | found : Is t r (.found way.stop way.captures) (some way)
  | failed : memo.Sound t r → Is t r (.failed memo) none

namespace Program

open Goal

variable {t : Text} {r : Regex}

theorem orElse_is {first : Outcome} (h : first.Is t r a)
    (h' : ∀ memo : Memo, memo.Sound t r → (second memo).Is t r b) :
    (orElse first second).Is t r (a.or b) := by
  cases h with
  | found => exact .found
  | failed hs => exact h' _ hs

/-- A choice may be left out if it is known to lead nowhere. -/
theorem once_is {memo : Memo} (hr : r.Marked) (hc : c.In t) (hs : memo.Sound t r)
    (hmark : ∀ m ∈ mark, ∃ D, Choice r.program (fun _ => False) m D ∧ (D c ↔ a = none))
    (h : ∀ memo : Memo, memo.Sound t r → (attempt memo).Is t r a) :
    (once mark c memo attempt).Is t r a := by
  cases mark with
  | none => exact h memo hs
  | some m =>
    obtain ⟨D, hD, hdead⟩ := hmark m rfl
    have hm := hr.lt m hD.mem_marks
    simp only [once]
    split
    · rename_i hd
      obtain ⟨D', hD', hdead'⟩ := hs.dead hm hc hd
      obtain rfl := hD.unique hD' hr.nodup
      obtain rfl := hdead.mp hdead'
      exact .failed hs
    · have hattempt := h memo hs
      generalize attempt memo = o at hattempt ⊢
      cases hattempt with
      | found => exact .found
      | failed hs' => exact .failed (hs'.bury hm hc hD (hdead.mpr rfl))

/-- The continuation and the goal agree on a place. -/
def Answers (t : Text) (r : Regex) (k : Continuation) (K : Goal) (c : Cursor) : Prop :=
  ∀ captures (memo : Memo), memo.Sound t r → (k c captures memo).Is t r (K c captures)

theorem fromEach_is {k : Continuation} {K : Goal} {memo : Memo} (hs : memo.Sound t r)
    (h : ∀ c ∈ places, Answers t r k K c) :
    (fromEach k captures places memo).Is t r (places.findSome? fun c => K c captures) := by
  induction places generalizing memo with
  | nil => exact .failed hs
  | cons c places ih =>
    rw [List.forall_mem_cons] at h
    have hone := h.1 captures memo hs
    simp only [fromEach, List.findSome?_cons]
    generalize k c captures memo = o at hone ⊢
    generalize K c captures = a at hone ⊢
    cases hone with
    | found => exact .found
    | failed hs' => exact ih hs' h.2

theorem reach_eq_append (accepts : Char → Bool) (t : Text) (c : Cursor) (seen : List Cursor) :
    reach accepts t c seen = reach accepts t c [] ++ seen := by
  induction t generalizing c seen with
  | nil => rfl
  | cons x t ih =>
    simp only [reach]
    split
    · rw [ih, ih _ [c], List.append_assoc, List.singleton_append]
    · rfl

theorem fromNearest_is {k : Continuation} {K : Goal} {memo : Memo} (hs : memo.Sound t r)
    (h : ∀ c' ∈ reach accepts rest c [], Answers t r k K c') :
    (fromNearest accepts k captures rest c memo).Is t r
      ((reach accepts rest c []).reverse.findSome? fun c => K c captures) := by
  induction rest generalizing c memo with
  | nil => simpa [fromNearest, reach] using h c (by simp [reach]) captures memo hs
  | cons x rest ih =>
    have hone := h c (Exact.seen_subset_reach _ _ _ _ List.mem_cons_self) captures memo hs
    simp only [fromNearest, reach] at h ⊢
    generalize k c captures memo = o at hone ⊢
    cases hx : accepts x with
    | false =>
      simp only [Bool.false_eq_true, if_false, List.reverse_singleton, List.findSome?_cons,
        List.findSome?_nil]
      generalize K c captures = a at hone ⊢
      cases hone with
      | found => exact .found
      | failed hs' => exact .failed hs'
    | true =>
      simp only [hx, if_true] at h ⊢
      rw [reach_eq_append] at h ⊢
      rw [List.reverse_append, List.reverse_singleton, List.singleton_append,
        List.findSome?_cons]
      generalize K c captures = a at hone ⊢
      cases hone with
      | found => exact .found
      | failed hs' => exact ih hs' fun c' hc' => h c' (List.mem_append_left _ hc')

variable {P : Program} {F : Cursor → Prop} {K : Goal}

theorem after_eq_none_iff {c : Cursor} (hF : ∀ way ∈ P.ways c, ∀ captures,
    K way.stop captures = none ↔ F way.stop) (captures : Captures) :
    K.after P c captures = none ↔ P.Hopeless F c := by
  rw [after, first_eq_none]
  exact forall₂_congr fun way hway => hF way hway _

theorem after_seq (K : Goal) (a b : Program) : K.after (seq a b) = (K.after b).after a := by
  funext c captures
  simp only [after, ways, first_flatMap, first_map_andThen]
  rfl

theorem after_alt (K : Goal) (a b : Program) (c : Cursor) (captures : Captures) :
    K.after (alt mark a b) c captures = (K.after a c captures).or (K.after b c captures) :=
  first_append

/-- No round is refused where every round consumes something. -/
theorem after_loop {a : Program} {c : Cursor} (h : ∀ way ∈ a.ways c, way.stop.left < c.left)
    (captures : Captures) :
    K.after (loop mark greedy false a) c captures =
      let more := (K.after (loop mark greedy false a)).after a c captures
      if greedy then more.or (K c captures) else (K c captures).or more := by
  have hmore : ((a.ways c).flatMap fun way => if _h : way.stop.left < c.left then
      (waysOfRounds a.ways greedy false way.stop).map way.andThen else []) =
      (a.ways c).flatMap fun way => (waysOfRounds a.ways greedy false way.stop).map way.andThen :=
    congrArg List.flatten (List.map_congr_left fun way hway => dif_pos (h way hway))
  have hrounds : K.first captures ((a.ways c).flatMap fun way =>
      (waysOfRounds a.ways greedy false way.stop).map way.andThen) =
      (K.after (loop mark greedy false a)).after a c captures := by
    simp only [first_flatMap, first_map_andThen]
    rfl
  rw [after, ways, waysOfRounds]
  simp only [Bool.false_eq_true, if_false, hmore]
  cases greedy
  · rw [if_neg (by simp), ← List.singleton_append, first_append, hrounds]
    simp [first]
  · rw [if_pos rfl, first_append, hrounds]
    simp [first]

theorem mem_ways_loop {a : Program} {c : Cursor} (hone : one ∈ a.ways c)
    (hlt : one.stop.left < c.left) (hmore : more ∈ (loop mark greedy false a).ways one.stop) :
    one.andThen more ∈ (loop mark greedy false a).ways c :=
  Exact.mem_waysOfRounds.mpr (.inr ⟨one, hone, hlt, more, hmore, rfl⟩)

/-- What a walk through the program from a place relies on. The choices of the program are choices
of the whole one, so that the memory can be asked for them, and the continuation answers wherever a
way leads. -/
structure Ready (t : Text) (r : Regex) (P : Program) (k : Continuation) (K : Goal)
    (F : Cursor → Prop) (c : Cursor) : Prop where
  choice {m : Nat} {D : Cursor → Prop} : Choice P F m D → Choice r.program (fun _ => False) m D
  place : c.In t
  answers : ∀ way ∈ P.ways c, Answers t r k K way.stop
  hopeless : ∀ way ∈ P.ways c, ∀ captures, K way.stop captures = none ↔ F way.stop

namespace Ready

variable {k : Continuation} {c : Cursor}

theorem hopeless_iff (h : Ready t r P k K F c) (captures : Captures) :
    P.Hopeless F c ↔ K.after P c captures = none :=
  (after_eq_none_iff h.hopeless captures).symm

theorem second (h : Ready t r (.seq a b) k K F c) (ha : a.Steady) (hone : one ∈ a.ways c) :
    Ready t r b k K F one.stop :=
  have hway : ∀ more ∈ b.ways one.stop, one.andThen more ∈ (Program.seq a b).ways c :=
    fun more hmore => Exact.mem_andThen.mpr ⟨one, hone, more, hmore, rfl⟩
  { choice := fun hm => h.choice (.second hm)
    place := ha.in_of_mem_ways h.place one hone
    answers := fun more hmore => h.answers (one.andThen more) (hway more hmore)
    hopeless := fun more hmore => h.hopeless (one.andThen more) (hway more hmore) }

theorem first (h : Ready t r (.seq a b) k K F c)
    (hb : ∀ one ∈ a.ways c, Answers t r (b.walk k) (K.after b) one.stop) :
    Ready t r a (b.walk k) (K.after b) (b.Hopeless F) c where
  choice hm := h.choice (.first hm)
  place := h.place
  answers := hb
  hopeless one hone := after_eq_none_iff fun more hmore =>
    h.hopeless (one.andThen more) (Exact.mem_andThen.mpr ⟨one, hone, more, hmore, rfl⟩)

theorem left (h : Ready t r (.alt mark a b) k K F c) : Ready t r a k K F c where
  choice hm := h.choice (.left hm)
  place := h.place
  answers way hway := h.answers way (List.mem_append_left _ hway)
  hopeless way hway := h.hopeless way (List.mem_append_left _ hway)

theorem right (h : Ready t r (.alt mark a b) k K F c) : Ready t r b k K F c where
  choice hm := h.choice (.right hm)
  place := h.place
  answers way hway := h.answers way (List.mem_append_right _ hway)
  hopeless way hway := h.hopeless way (List.mem_append_right _ hway)

/-- What is captured around a piece is one more capture for what comes after it. -/
theorem inner (h : Ready t r (.capture i a) k K F c) :
    Ready t r a (fun c' captures => k c' (⟨i, c, c'⟩ :: captures))
      (fun c' captures => K c' (⟨i, c, c'⟩ :: captures)) F c where
  choice hm := h.choice (.capture hm)
  place := h.place
  answers _ hway _ := h.answers _ (List.mem_map_of_mem hway) _
  hopeless _ hway _ := h.hopeless _ (List.mem_map_of_mem hway) _

theorem further (h : Ready t r (.loop mark greedy false a) k K F c) (ha : a.Steady)
    (hone : one ∈ a.ways c) (hlt : one.stop.left < c.left) :
    Ready t r (.loop mark greedy false a) k K F one.stop where
  choice := h.choice
  place := ha.in_of_mem_ways h.place one hone
  answers more hmore := h.answers (one.andThen more) (mem_ways_loop hone hlt hmore)
  hopeless more hmore := h.hopeless (one.andThen more) (mem_ways_loop hone hlt hmore)

theorem round (h : Ready t r (.loop mark greedy false a) k K F c)
    (hlt : ∀ one ∈ a.ways c, one.stop.left < c.left)
    (hmore : ∀ one ∈ a.ways c, Answers t r ((loop mark greedy false a).walk k)
      (K.after (loop mark greedy false a)) one.stop) :
    Ready t r a
      (fun c' captures memo => if _h : c'.left < c.left then
        repeatRounds a.walk k mark greedy false c' captures memo else .failed memo)
      (K.after (loop mark greedy false a)) ((loop mark greedy false a).Hopeless F) c where
  choice hm := h.choice (.body hm)
  place := h.place
  answers one hone captures memo hs := by
    simp only [dif_pos (hlt one hone)]
    exact hmore one hone captures memo hs
  hopeless one hone := after_eq_none_iff fun more hm =>
    h.hopeless (one.andThen more) (mem_ways_loop hone (hlt one hone) hm)

variable (hr : r.Marked)
include hr

theorem alt (h : Ready t r (.alt mark a b) k K F c) (ha : Answers t r (a.walk k) (K.after a) c)
    (hb : Answers t r (b.walk k) (K.after b) c) :
    Answers t r ((Program.alt mark a b).walk k) (K.after (.alt mark a b)) c := by
  intro captures memo hs
  rw [walk]
  refine once_is hr h.place hs ?_ fun memo hs => ?_
  · rintro m rfl
    exact ⟨_, h.choice .alt, h.hopeless_iff captures⟩
  · rw [after_alt]
    exact orElse_is (ha captures memo hs) (hb captures)

theorem run (h : Ready t r (.run mark greedy accepts) k K F c) :
    Answers t r ((Program.run mark greedy accepts).walk k) (K.after (.run mark greedy accepts)) c := by
  intro captures memo hs
  have hall : (Program.run mark greedy accepts).ways c = (if greedy then reach accepts c.rest c []
      else (reach accepts c.rest c []).reverse).map fun stop => ⟨stop, []⟩ := rfl
  have hfirst : K.after (.run mark greedy accepts) c captures =
      (if greedy then reach accepts c.rest c [] else (reach accepts c.rest c []).reverse).findSome?
        fun c => K c captures := by
    rw [after, hall, Goal.first, List.findSome?_map]
    rfl
  have hreach : ∀ stop ∈ reach accepts c.rest c [], Answers t r k K stop := by
    intro stop hstop
    refine h.answers ⟨stop, []⟩ (hall ▸ List.mem_map_of_mem ?_)
    cases greedy <;> simpa using hstop
  rw [walk]
  refine once_is hr h.place hs ?_ fun memo hs => ?_
  · rintro m rfl
    exact ⟨_, h.choice .run, h.hopeless_iff captures⟩
  · rw [hfirst]
    cases greedy with
    | true => exact fromEach_is hs hreach
    | false => exact fromNearest_is hs hreach

/-- By induction on what is left of the text, which every round shortens. -/
theorem loop (h : Ready t r (.loop mark greedy false a) k K F c)
    (hP : (Program.loop mark greedy false a).Steady)
    (ih : ∀ {k K F c}, Ready t r a k K F c → Answers t r (a.walk k) (K.after a) c) :
    Answers t r ((Program.loop mark greedy false a).walk k) (K.after (.loop mark greedy false a)) c := by
  obtain ⟨-, ha, hshorter⟩ := hP
  induction hn : c.left using Nat.strongRecOn generalizing c with
  | _ n ihn =>
    subst hn
    intro captures memo hs
    have hlt : ∀ one ∈ a.ways c, one.stop.left < c.left := hshorter c h.place.placed
    have hround := ih (h.round hlt fun one hone =>
      ihn _ (hlt one hone) (h.further ha hone (hlt one hone)) rfl) captures
    have hstop := h.answers ⟨c, []⟩ (Exact.mem_waysOfRounds.mpr (.inl rfl)) captures
    rw [walk, repeatRounds]
    refine once_is hr h.place hs ?_ fun memo hs => ?_
    · rintro m ⟨⟩
      exact ⟨_, h.choice .loop, h.hopeless_iff captures⟩
    · rw [after_loop hlt]
      cases greedy with
      | true => exact orElse_is (hround memo hs) hstop
      | false => exact orElse_is (hstop memo hs) hround

end Ready

/-- By induction on the program: each part of it is ready where the whole of it is. -/
theorem walk_answers (hr : r.Marked) (hP : P.Steady) (h : Ready t r P k K F c) :
    Answers t r (P.walk k) (K.after P) c := by
  induction P generalizing k K F c with
  | empty =>
    intro captures memo hs
    simpa only [walk, after, ways, first_here] using
      h.answers _ (List.mem_singleton_self _) captures memo hs
  | char accepts =>
    intro captures memo hs
    have hk := h.answers
    simp only [walk, after, ways] at hk ⊢
    cases hrest : c.rest with
    | nil => exact .failed hs
    | cons x rest =>
      simp only [hrest] at hk ⊢
      cases hx : accepts x with
      | false => exact .failed hs
      | true =>
        simp only [hx, if_true, first_here] at hk ⊢
        exact hk _ (List.mem_singleton_self _) captures memo hs
  | anchor a =>
    intro captures memo hs
    have hk := h.answers
    simp only [walk, after, ways] at hk ⊢
    cases ha : a.holds c with
    | false => exact .failed hs
    | true =>
      simp only [ha, if_true, first_here] at hk ⊢
      exact hk _ (List.mem_singleton_self _) captures memo hs
  | seq a b iha ihb =>
    rw [walk, after_seq]
    exact iha hP.1 (h.first fun one hone => ihb hP.2 (h.second hP.1 hone))
  | alt mark a b iha ihb => exact h.alt hr (iha hP.1 h.left) (ihb hP.2 h.right)
  | capture i a ih =>
    intro captures memo hs
    have hinner := ih hP h.inner captures memo hs
    simpa only [walk, after, ways, first, List.findSome?_map, Function.comp_def,
      List.cons_append] using hinner
  | run mark greedy accepts => exact h.run hr
  | loop mark greedy nullable a ih =>
    obtain rfl := hP.1
    exact h.loop hr hP fun hround => ih hP.2.1 hround
  | opening => cases hP

end Program

-- -----------------------------------------------------------------------------------------
-- The marks of compiled patterns
-- -----------------------------------------------------------------------------------------

namespace Program

/-- The marks of the program are different, at least `low` and below `high`. -/
structure Numbered (P : Program) (low high : Nat) : Prop where
  le : low ≤ high
  nodup : P.marks.Nodup
  bounds : ∀ m ∈ P.marks, low ≤ m ∧ m < high

namespace Numbered

theorem unmarked (h : P.marks = []) (n : Nat) : Numbered P n n where
  le := Nat.le_refl n
  nodup := by simp [h]
  bounds := by simp [h]

theorem seq (ha : Numbered a low mid) (hb : Numbered b mid high) : Numbered (.seq a b) low high where
  le := Nat.le_trans ha.le hb.le
  nodup := by
    refine List.nodup_append.mpr ⟨ha.nodup, hb.nodup, fun m hm n hn => ?_⟩
    have h₁ := ha.bounds m hm
    have h₂ := hb.bounds n hn
    omega
  bounds := by
    have h₁ := ha.le
    have h₂ := hb.le
    intro m hm
    rcases List.mem_append.mp hm with hm | hm
    · have := ha.bounds m hm
      omega
    · have := hb.bounds m hm
      omega

/-- One more mark, below those of the program. -/
theorem marked (h : Numbered P (low + n + 1) high) (hQ : Q.marks = low :: P.marks) :
    Numbered Q low high where
  le := by
    have := h.le
    omega
  nodup := by
    rw [hQ, List.nodup_cons]
    refine ⟨fun hm => ?_, h.nodup⟩
    have := h.bounds _ hm
    omega
  bounds := by
    rw [hQ, List.forall_mem_cons]
    have hle := h.le
    refine ⟨by omega, fun m hm => ?_⟩
    have := h.bounds m hm
    omega

theorem prefer {s : Site} (ha : Numbered a s.marked.next mid) (hb : Numbered b mid high) :
    Numbered (.alt s.mark a b) s.next high := by
  have h := ha.seq hb
  unfold Site.mark Site.marked at *
  cases hs : s.shared
  · simp only [hs, Bool.false_eq_true, if_false] at h ⊢
    exact ⟨h.le, h.nodup, h.bounds⟩
  · simp only [hs, if_true] at h ⊢
    exact h.marked rfl

theorem run (s : Site) : Numbered (.run s.mark greedy accepts) s.next s.marked.next := by
  unfold Site.mark Site.marked
  cases hs : s.shared
  · simp only [Bool.false_eq_true, if_false]
    exact .unmarked rfl _
  · simp only [if_true]
    exact Numbered.marked (P := .empty) (.unmarked rfl _) rfl

section
variable {step : Site → Program × Site} (h : ∀ s, Numbered (step s).1 s.next (step s).2.next)
include h

theorem copies (branches : Bool) : ∀ (n : Nat) (s : Site),
    Numbered (Program.copies step branches n s).1 s.next (Program.copies step branches n s).2.next
  | 0, _ => .unmarked rfl _
  | 1, s => h s
  | n + 2, s => (h s).seq (copies branches (n + 1) { (step s).2 with shared := _ })

theorem optionals (greedy : Bool) (n : Nat) (s : Site) :
    Numbered (Program.optionals step greedy n s).1 s.next
      (Program.optionals step greedy n s).2.next := by
  induction n generalizing s with
  | zero => exact .unmarked rfl _
  | succ n ih =>
    have hround := (h s.marked).seq (ih { (step s.marked).2 with shared := true })
    cases greedy
    · exact Numbered.prefer (.unmarked rfl _) hround
    · exact hround.prefer (.unmarked rfl _)

theorem rounds (greedy nullable : Bool) (s : Site) :
    Numbered (Program.rounds step greedy nullable s).1 s.next
      (Program.rounds step greedy nullable s).2.next :=
  Numbered.marked (n := s.depth) (h _) rfl

end

theorem compile {p : Pattern} (hp : p.steady = true) (s : Site) :
    Numbered (Program.compile p s).1 s.next (Program.compile p s).2.next := by
  induction p generalizing s with
  | empty | char | anchor => exact .unmarked rfl _
  | seq a b iha ihb =>
    simp only [Pattern.steady, Bool.and_eq_true] at hp
    exact (iha hp.1 s).seq (ihb hp.2 _)
  | alt a b iha ihb =>
    simp only [Pattern.steady, Bool.and_eq_true] at hp
    exact (iha hp.1 s.marked).prefer (ihb hp.2 _)
  | capture i a ih =>
    have h := ih hp s
    exact ⟨h.le, h.nodup, h.bounds⟩
  | times least most greedy a ih =>
    simp only [Pattern.steady, Bool.and_eq_true, Bool.or_eq_true, Bool.not_eq_true'] at hp
    have hform := unrolled least most greedy a s
    generalize (Program.compile (.times least most greedy a) s).1 = P,
      (Program.compile (.times least most greedy a) s).2.next = next at hform ⊢
    cases hform with
    | run => exact run s
    | optionals hs => exact (copies (ih hp.1) _ _ s).seq (hs ▸ optionals (ih hp.1) _ _ _)
    | copiesRun hs => exact (copies (ih hp.1) _ _ s).seq (hs ▸ run _)
    | rounds _ hs => exact (copies (ih hp.1) _ _ s).seq (hs ▸ rounds (ih hp.1) _ _ _)
    | opening hn | optionalOpening hn => simp [hn] at hp

end Numbered

theorem marked_compile {p : Pattern} (hp : p.steady = true) : p.compile.Marked :=
  have h := Numbered.compile hp { next := 0, depth := 0, shared := false }
  ⟨h.nodup, fun m hm => Nat.lt_succ_of_lt (h.bounds m hm).2⟩

end Program

end Wikitext
