import Wikitext.Proofs.Pattern.Found

/-!
# The ways to match

`Program.ways` lists what a search would find at a place if it remembered nothing and went on
after every success: the ways to match, in the order of preference. For a pattern in which every
round of an unbounded repetition consumes something, these are exactly the readings of the
pattern (`Exact.compile`).
-/

namespace Wikitext

/-- Where a match may end and what it captures, the last capture first. -/
structure Way where
  stop : Cursor
  captures : Captures

/-- A way, and another one from its end on. -/
def Way.andThen (way further : Way) : Way := ⟨further.stop, further.captures ++ way.captures⟩

namespace Program

/-- The ways through any number of rounds, each of which consumes something. -/
def waysOfRounds (body : Cursor → List Way) (greedy nullable : Bool) (c : Cursor) : List Way :=
  let start := if nullable then { c with idle := c.idle + 1 } else c
  let more := (body start).flatMap fun way =>
    if _h : way.stop.left < c.left then
      (waysOfRounds body greedy nullable way.stop).map way.andThen
    else []
  if greedy then more ++ [⟨c, []⟩] else ⟨c, []⟩ :: more
termination_by c.left

def ways : Program → Cursor → List Way
  | .empty, c => [⟨c, []⟩]
  | .char accepts, c =>
    match c.rest with
    | [] => []
    | x :: rest => if accepts x then [⟨c.past x rest, []⟩] else []
  | .anchor a, c => if a.holds c then [⟨c, []⟩] else []
  | .seq a b, c => (a.ways c).flatMap fun way => (b.ways way.stop).map way.andThen
  | .alt _ a b, c => a.ways c ++ b.ways c
  | .capture i a, c => (a.ways c).map fun way => ⟨way.stop, ⟨i, c, way.stop⟩ :: way.captures⟩
  | .run _ greedy accepts, c =>
    let places := reach accepts c.rest c []
    (if greedy then places else places.reverse).map fun stop => ⟨stop, []⟩
  | .loop _ greedy nullable a, c => waysOfRounds a.ways greedy nullable c
  | .opening a further, c =>
    (a.ways { c with idle := c.idle + 1 }).flatMap fun way =>
      if way.stop.left < c.left then (further.ways way.stop).map way.andThen
      else [⟨{ way.stop with idle := c.idle }, way.captures⟩]

end Program

-- -----------------------------------------------------------------------------------------
-- Readings in a row
-- -----------------------------------------------------------------------------------------

/-- What may be consumed between a character and a text, with the texts of its groups. -/
abbrev Reading := Option Char → Text → Text → Groups → Prop

namespace Reading

def nothing : Reading := fun _ w _ gs => w = [] ∧ gs = []

def either (L M : Reading) : Reading := fun b w r gs => L b w r gs ∨ M b w r gs

/-- One reading and then another, whose groups count as later ones. -/
inductive andThen (L M : Reading) : Reading
  | intro : L b u (v ++ r) gs → M (lastOf b u) v r gs' → andThen L M b (u ++ v) r (gs' ++ gs)

end Reading

namespace Pattern

open Reading (nothing either andThen)

theorem reads_empty_iff : Reads .empty b w r gs ↔ nothing b w r gs := by
  constructor
  · rintro ⟨⟩
    exact ⟨rfl, rfl⟩
  · rintro ⟨rfl, rfl⟩
    exact .empty

theorem reads_seq_iff : Reads (.seq p q) b w r gs ↔ andThen (Reads p) (Reads q) b w r gs := by
  constructor
  · rintro (_ | _)
    exact .intro ‹_› ‹_›
  · rintro ⟨hp, hq⟩
    exact .seq hp hq

theorem reads_alt_iff : Reads (.alt p q) b w r gs ↔ either (Reads p) (Reads q) b w r gs := by
  constructor
  · rintro (_ | _)
    · exact .inl ‹_›
    · exact .inr ‹_›
  · rintro (h | h)
    · exact .left h
    · exact .right h

/-- No more rounds, or one and then the others. -/
theorem reads_times_iff (h : most ≠ some 0) :
    Reads (.times 0 most greedy p) b w r gs ↔
      either nothing (andThen (Reads p) (Reads (.times 0 (most.map (· - 1)) greedy p))) b w r gs := by
  constructor
  · rintro (_ | _)
    · exact .inl ⟨rfl, rfl⟩
    · exact .inr (.intro ‹_› ‹_›)
  · rintro (⟨rfl, rfl⟩ | ⟨hp, hq⟩)
    · exact .stop
    · exact .round (.inr h) hp hq

theorem reads_noTimes_iff : Reads (.times 0 (some 0) greedy p) b w r gs ↔ nothing b w r gs := by
  constructor
  · rintro (_ | _)
    · exact ⟨rfl, rfl⟩
    · simp_all
  · rintro ⟨rfl, rfl⟩
    exact .stop

theorem reads_once_iff : Reads (.times 1 (some 1) greedy p) b w r gs ↔ Reads p b w r gs := by
  constructor
  · intro h
    cases h with
    | round _ hp hq =>
      obtain ⟨rfl, rfl⟩ := reads_noTimes_iff.mp hq
      simpa using hp
  · exact Reads.once

/-- The rounds that are needed, and then the others. -/
theorem reads_further_iff :
    Reads (.times (n + m) most greedy p) b w r gs ↔
      andThen (Reads (.times n (some n) greedy p))
        (Reads (.times m (most.map (· - n)) greedy p)) b w r gs := by
  constructor
  · intro h
    induction n generalizing b w gs most with
    | zero =>
      have hnone : Reads (.times 0 (some 0) greedy p) b [] (w ++ r) [] := .stop
      have hmost : most.map (· - 0) = most := by simp
      rw [Nat.zero_add] at h
      have hall : andThen (Reads (.times 0 (some 0) greedy p))
          (Reads (.times m (most.map (· - 0)) greedy p)) b ([] ++ w) r (gs ++ []) :=
        .intro hnone (by rwa [hmost])
      simpa using hall
    | succ n ih =>
      have hn : n + 1 + m = (n + m) + 1 := by omega
      rw [hn] at h
      cases h with
      | @round _ _ _ _ u _ _ gs _ _ _ hp hq =>
        obtain @⟨_, v, w, _, gs₁, gs₂, hfirst, hrest⟩ := ih hq
        rw [List.append_assoc] at hp
        rw [← lastOf_append] at hrest
        have hone : Reads (.times (n + 1) (some (n + 1)) greedy p) b (u ++ v) (w ++ r) (gs₁ ++ gs) :=
          .round (.inl n.succ_pos) hp hfirst
        have hmost : (most.map (· - 1)).map (· - n) = most.map (· - (n + 1)) := by
          simp [Option.map_map, Function.comp_def, Nat.sub_sub, Nat.add_comm]
        rw [← List.append_assoc, List.append_assoc gs₂]
        exact .intro hone (hmost ▸ hrest)
  · rintro ⟨hn, hm⟩
    exact hn.further hm

/-- No unbounded repetition has rounds that may be empty. -/
def steady : Pattern → Bool
  | .empty | .anchor _ | .char _ => true
  | .seq a b | .alt a b => a.steady && b.steady
  | .capture _ a => a.steady
  | .times _ most _ a => a.steady && (most.isSome || !a.nullable)

theorem Reads.ne_nil {p : Pattern} (h : p.Reads b w r gs) (hp : p.nullable = false) : w ≠ [] := by
  induction h with
  | empty | anchor => simp [nullable] at hp
  | char => simp
  | seq _ _ ihp ihq =>
    simp only [nullable, Bool.and_eq_false_iff] at hp
    intro hw
    obtain ⟨rfl, rfl⟩ := List.append_eq_nil_iff.mp hw
    exact hp.elim (fun h => ihp h rfl) (fun h => ihq h rfl)
  | left _ ih =>
    simp only [nullable, Bool.or_eq_false_iff] at hp
    exact ih hp.1
  | right _ ih =>
    simp only [nullable, Bool.or_eq_false_iff] at hp
    exact ih hp.2
  | capture _ ih => exact ih hp
  | stop => simp [nullable] at hp
  | round _ _ _ ih _ =>
    simp only [nullable, Bool.or_eq_false_iff] at hp
    exact fun hw => ih hp.2 (List.append_eq_nil_iff.mp hw).1

end Pattern

-- -----------------------------------------------------------------------------------------
-- Ways and readings
-- -----------------------------------------------------------------------------------------

theorem Cursor.Past.rest_eq {c c' : Cursor} (h : c.Past w c') (hr : c.rest = w ++ r) : c'.rest = r :=
  List.append_cancel_left (h.rest.symm.trans hr)

/-- The ways of the program are the readings of a text, each with what it captures. -/
structure Exact (P : Program) (L : Reading) : Prop where
  sound {c : Cursor} {way : Way} : c.Placed → way ∈ P.ways c →
    ∃ w, c.Past w way.stop ∧ L c.before w way.stop.rest way.captures.texts
  complete {c : Cursor} {w r : Text} {gs : Groups} : c.Placed → c.rest = w ++ r →
    L c.before w r gs → ∃ way ∈ P.ways c, c.Past w way.stop ∧ way.captures.texts = gs

namespace Exact

open Program Pattern
open Reading (nothing either andThen)

theorem congr (h : Exact P L) (hL : ∀ {b w r gs}, L' b w r gs ↔ L b w r gs) : Exact P L' where
  sound hc hway := by
    obtain ⟨w, hpast, hw⟩ := h.sound hc hway
    exact ⟨w, hpast, hL.mpr hw⟩
  complete hc hr hw := h.complete hc hr (hL.mp hw)

theorem empty : Exact .empty nothing where
  sound hc hway := by
    obtain rfl := List.mem_singleton.mp hway
    exact ⟨[], .refl hc, rfl, rfl⟩
  complete hc hr hw := by
    obtain ⟨rfl, rfl⟩ := hw
    exact ⟨_, List.mem_singleton_self _, .refl hc, rfl⟩

theorem char : Exact (.char accepts) (Reads (.char accepts)) where
  sound {c way} hc hway := by
    simp only [ways] at hway
    split at hway
    · cases hway
    · rename_i x rest hr
      split at hway
      · rename_i hx
        obtain rfl := List.mem_singleton.mp hway
        exact ⟨[x], .one hc hr, .char hx⟩
      · cases hway
  complete hc hr hw := by
    cases hw with
    | char hx =>
      refine ⟨⟨_, []⟩, ?_, .one hc hr, rfl⟩
      simp only [ways, hr, List.singleton_append, hx, if_true]
      exact List.mem_singleton_self _

theorem holds_congr {a : Anchor} {c c' : Cursor} (hb : c.before = c'.before)
    (hr : c.rest = c'.rest) : a.holds c = a.holds c' := by
  cases a <;> simp [Anchor.holds, Cursor.wordBefore, Cursor.wordAfter, hb, hr]

theorem anchor : Exact (.anchor a) (Reads (.anchor a)) where
  sound {c way} hc hway := by
    simp only [ways] at hway
    split at hway
    · rename_i ha
      obtain rfl := List.mem_singleton.mp hway
      exact ⟨[], .refl hc, .anchor ha rfl rfl⟩
    · cases hway
  complete {c w r gs} hc hr hw := by
    cases hw with
    | anchor ha hb hrest =>
      refine ⟨⟨c, []⟩, ?_, .refl hc, rfl⟩
      rw [holds_congr hb (hrest.trans hr.symm)] at ha
      simp [ways, ha]

theorem mem_andThen {ways : List Way} {further : Way → List Way} :
    way ∈ ways.flatMap (fun way => (further way).map way.andThen) ↔
      ∃ one ∈ ways, ∃ more ∈ further one, one.andThen more = way := by
  simp [List.mem_flatMap, List.mem_map]

theorem texts_andThen (way further : Way) :
    (way.andThen further).captures.texts = further.captures.texts ++ way.captures.texts :=
  List.map_append

theorem seq (ha : Exact a L) (hb : Exact b M) : Exact (.seq a b) (andThen L M) where
  sound hc hway := by
    obtain ⟨one, hone, more, hmore, rfl⟩ := mem_andThen.mp hway
    obtain ⟨u, hu, hL⟩ := ha.sound hc hone
    obtain ⟨v, hv, hM⟩ := hb.sound hu.placed hmore
    rw [hv.rest] at hL
    rw [hu.before] at hM
    rw [texts_andThen]
    exact ⟨u ++ v, hu.trans hv, .intro hL hM⟩
  complete hc hr hw := by
    obtain ⟨hL, hM⟩ := hw
    rw [List.append_assoc] at hr
    obtain ⟨one, hone, hu, rfl⟩ := ha.complete hc hr hL
    rw [← hu.before] at hM
    obtain ⟨more, hmore, hv, rfl⟩ := hb.complete hu.placed (hu.rest_eq hr) hM
    exact ⟨one.andThen more, mem_andThen.mpr ⟨one, hone, more, hmore, rfl⟩, hu.trans hv,
      texts_andThen one more⟩

theorem alt (ha : Exact a L) (hb : Exact b M) : Exact (.alt mark a b) (either L M) where
  sound hc hway := by
    rcases List.mem_append.mp hway with hway | hway
    · obtain ⟨w, hpast, hw⟩ := ha.sound hc hway
      exact ⟨w, hpast, .inl hw⟩
    · obtain ⟨w, hpast, hw⟩ := hb.sound hc hway
      exact ⟨w, hpast, .inr hw⟩
  complete hc hr hw := by
    rcases hw with hw | hw
    · obtain ⟨way, hway, h⟩ := ha.complete hc hr hw
      exact ⟨way, List.mem_append_left _ hway, h⟩
    · obtain ⟨way, hway, h⟩ := hb.complete hc hr hw
      exact ⟨way, List.mem_append_right _ hway, h⟩

theorem prefer (ha : Exact a L) (hb : Exact b M) :
    Exact (Program.prefer mark greedy a b) (either M L) := by
  cases greedy
  · exact hb.alt ha
  · exact (ha.alt hb).congr Or.comm

theorem capture (h : Exact a (Reads p)) : Exact (.capture i a) (Reads (.capture i p)) where
  sound {c way} hc hway := by
    obtain ⟨inner, hinner, rfl⟩ := List.mem_map.mp hway
    obtain ⟨w, hpast, hw⟩ := h.sound hc hinner
    have ht : Captures.texts (⟨i, c, inner.stop⟩ :: inner.captures) =
        (i, w) :: inner.captures.texts := by
      simp [Captures.texts, Capture.text, hpast.take_eq hc]
    exact ⟨w, hpast, ht ▸ .capture hw⟩
  complete {c w r gs} hc hr hw := by
    cases hw with
    | capture hw =>
      obtain ⟨inner, hinner, hpast, rfl⟩ := h.complete hc hr hw
      refine ⟨_, List.mem_map.mpr ⟨inner, hinner, rfl⟩, hpast, ?_⟩
      simp [Captures.texts, Capture.text, hpast.take_eq hc]

-- -----------------------------------------------------------------------------------------
-- Repetition
-- -----------------------------------------------------------------------------------------

theorem seen_subset_reach (accepts : Char → Bool) (t : Text) (c : Cursor) (seen : List Cursor) :
    c :: seen ⊆ reach accepts t c seen := by
  induction t generalizing c seen with
  | nil => exact List.Subset.refl _
  | cons x t ih =>
    simp only [reach]
    split
    · exact List.Subset.trans (List.subset_cons_self _ _) (ih _ _)
    · exact List.Subset.refl _

theorem exists_reach (hc : c.Placed) (hr : c.rest = w ++ r) (hw : ∀ x ∈ w, accepts x = true)
    (seen : List Cursor) : ∃ c' ∈ reach accepts c.rest c seen, c.Past w c' := by
  induction w generalizing c seen with
  | nil => exact ⟨c, seen_subset_reach _ _ _ _ List.mem_cons_self, .refl hc⟩
  | cons x w ih =>
    rw [List.forall_mem_cons] at hw
    have hone := Cursor.Past.one hc hr
    obtain ⟨c', hc', hpast⟩ := ih hone.placed rfl hw.2 (c :: seen)
    refine ⟨c', ?_, hone.trans hpast⟩
    rw [hr, List.cons_append, reach, if_pos hw.1]
    exact hc'

theorem reads_run (h : Reads (.times 0 none greedy (.char accepts)) b w r gs) :
    (∀ x ∈ w, accepts x = true) ∧ gs = [] := by
  generalize hp : Pattern.times 0 none greedy (.char accepts) = p at h
  induction h with
  | stop => simp
  | round _ hx _ _ ih =>
    cases hp
    obtain ⟨hw, rfl⟩ := ih rfl
    cases hx with
    | char hx => simpa [hx] using hw
  | _ => cases hp

theorem run : Exact (.run mark greedy accepts) (Reads (.times 0 none greedy' (.char accepts))) where
  sound {c way} hc hway := by
    simp only [ways, List.mem_map] at hway
    obtain ⟨stop, hstop, rfl⟩ := hway
    have hreach : stop ∈ reach accepts c.rest c [] := by
      cases greedy <;> simpa using hstop
    obtain ⟨w, hpast, hw⟩ := (Consumes.mem_reach hc hreach).resolve_left (by simp)
    exact ⟨w, hpast, .run hw⟩
  complete {c w r gs} hc hr hw := by
    obtain ⟨hall, rfl⟩ := reads_run hw
    obtain ⟨stop, hstop, hpast⟩ := exists_reach hc hr hall []
    refine ⟨⟨stop, []⟩, ?_, hpast, rfl⟩
    simp only [ways, List.mem_map]
    refine ⟨stop, ?_, rfl⟩
    cases greedy <;> simpa using hstop

theorem mem_waysOfRounds {body : Cursor → List Way} :
    way ∈ waysOfRounds body greedy false c ↔ way = ⟨c, []⟩ ∨
      ∃ one ∈ body c, one.stop.left < c.left ∧
        ∃ more ∈ waysOfRounds body greedy false one.stop, one.andThen more = way := by
  have hmore : ∀ way, (way ∈ (body c).flatMap fun way =>
      if _h : way.stop.left < c.left then
        (waysOfRounds body greedy false way.stop).map way.andThen
      else []) ↔ ∃ one ∈ body c, one.stop.left < c.left ∧
        ∃ more ∈ waysOfRounds body greedy false one.stop, one.andThen more = way := by
    intro way
    rw [List.mem_flatMap]
    refine exists_congr fun one => and_congr_right fun _ => ?_
    split
    · rename_i hlt
      simp [hlt]
    · rename_i hlt
      simp only [List.not_mem_nil, hlt, false_and]
  rw [waysOfRounds]
  cases greedy
  · simp only [Bool.false_eq_true, if_false, List.mem_cons, hmore]
  · simp only [Bool.false_eq_true, if_false, if_true, List.mem_append, List.mem_singleton, hmore,
      or_comm]

/-- By induction on what is left of the text, which every round shortens. -/
theorem loop (h : Exact a (Reads p)) (hp : p.nullable = false) :
    Exact (.loop mark greedy false a) (Reads (.times 0 none greedy' p)) where
  sound {c way} hc hway := by
    induction hn : c.left using Nat.strongRecOn generalizing c way with
    | _ n ih =>
      subst hn
      rcases mem_waysOfRounds.mp hway with rfl | ⟨one, hone, hlt, more, hmore, rfl⟩
      · exact ⟨[], .refl hc, .stop⟩
      · obtain ⟨u, hu, hL⟩ := h.sound hc hone
        obtain ⟨v, hv, hM⟩ := ih _ hlt hu.placed hmore rfl
        rw [hv.rest] at hL
        rw [hu.before] at hM
        rw [texts_andThen]
        exact ⟨u ++ v, hu.trans hv, .round (.inr (by simp)) hL hM⟩
  complete {c w r gs} hc hr hw := by
    induction hn : c.left using Nat.strongRecOn generalizing c w gs with
    | _ n ih =>
      subst hn
      rcases (reads_times_iff (by simp)).mp hw with ⟨rfl, rfl⟩ | ⟨hL, hM⟩
      · exact ⟨⟨c, []⟩, mem_waysOfRounds.mpr (.inl rfl), .refl hc, rfl⟩
      · rw [List.append_assoc] at hr
        obtain ⟨one, hone, hu, rfl⟩ := h.complete hc hr hL
        rw [← hu.before] at hM
        have hlt : one.stop.left < c.left := by
          have hpos := List.length_pos_iff.mpr (hL.ne_nil hp)
          have hleft := hu.left_eq hc
          omega
        obtain ⟨more, hmore, hv, rfl⟩ := ih _ hlt hu.placed (hu.rest_eq hr) hM rfl
        exact ⟨one.andThen more, mem_waysOfRounds.mpr (.inr ⟨one, hone, hlt, more, hmore, rfl⟩),
          hu.trans hv, texts_andThen one more⟩

-- -----------------------------------------------------------------------------------------
-- Compiled patterns
-- -----------------------------------------------------------------------------------------

variable {step : Site → Program × Site}

theorem copies (h : ∀ s, Exact (step s).1 (Reads p)) (greedy shared : Bool) :
    ∀ (n : Nat) (s : Site),
      Exact (Program.copies step shared n s).1 (Reads (.times n (some n) greedy p))
  | 0, _ => empty.congr reads_noTimes_iff
  | 1, s => (h s).congr reads_once_iff
  | n + 2, s => by
    refine ((h s).seq (copies h greedy shared (n + 1) _)).congr ?_
    intro b w r gs
    constructor
    · intro hw
      cases hw with
      | round _ hL hM => exact .intro hL (by simpa using hM)
    · rintro ⟨hL, hM⟩
      exact .round (.inl (by simp)) hL (by simpa using hM)

theorem optionals (h : ∀ s, Exact (step s).1 (Reads p)) (n : Nat) (s : Site) :
    Exact (Program.optionals step greedy n s).1 (Reads (.times 0 (some n) greedy p)) := by
  induction n generalizing s with
  | zero => exact empty.congr reads_noTimes_iff
  | succ n ih => exact (((h _).seq (ih _)).prefer empty).congr (reads_times_iff (by simp))

theorem rounds (h : ∀ s, Exact (step s).1 (Reads p)) (hp : p.nullable = false) (s : Site) :
    Exact (Program.rounds step greedy false s).1 (Reads (.times 0 none greedy p)) :=
  (h _).loop hp

/-- A program for the rounds after the first ones of a repetition completes it. -/
theorem after_copies {branches : Bool} (h : ∀ s, Exact (step s).1 (Reads p))
    (most : Option Nat) (ho : Exact others (Reads (.times 0 (most.map (· - least)) greedy p)))
    (s : Site) :
    Exact (.seq (Program.copies step branches least s).1 others)
      (Reads (.times least most greedy p)) :=
  ((copies h greedy branches least s).seq ho).congr (reads_further_iff (m := 0))

theorem compile {p : Pattern} (hp : p.steady = true) (s : Site) :
    Exact (Program.compile p s).1 (Reads p) := by
  induction p generalizing s with
  | empty => exact empty.congr reads_empty_iff
  | char => exact char
  | anchor => exact anchor
  | seq a b iha ihb =>
    simp only [steady, Bool.and_eq_true] at hp
    exact ((iha hp.1 s).seq (ihb hp.2 _)).congr reads_seq_iff
  | alt a b iha ihb =>
    simp only [steady, Bool.and_eq_true] at hp
    exact ((iha hp.1 s.marked).alt (ihb hp.2 _)).congr reads_alt_iff
  | capture i a ih => exact (ih hp s).capture
  | times least most greedy a ih =>
    simp only [steady, Bool.and_eq_true, Bool.or_eq_true, Bool.not_eq_true'] at hp
    have hform := unrolled least most greedy a s
    generalize (Program.compile (.times least most greedy a) s).1 = P,
      (Program.compile (.times least most greedy a) s).2.next = next at hform ⊢
    cases hform with
    | run => exact run
    | optionals => exact after_copies (ih hp.1) _ (optionals (ih hp.1) _ _) s
    | copiesRun => exact after_copies (ih hp.1) none run s
    | rounds hn => exact after_copies (ih hp.1) none (rounds (ih hp.1) hn _) s
    | opening hn | optionalOpening hn => simp [hn] at hp

end Exact

end Wikitext
