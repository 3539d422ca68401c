import Wikitext.Proofs.Pattern.Words
import Wikitext.Proofs.Text.Blank

/-!
# The preferred reading

Where a text can be read in several ways, the search takes the first one that what stands behind the
pattern allows (`Chosen`). `Pattern.Prefers` says which one that is: a greedy run goes as far as its
class reaches, a lazy one stops as soon as the rest is as wanted, and a sequence is read part by
part, each part with the next one in view (`Prefers.append`). What is preferred where a match
stands is what the match has captured (`eq_of_prefers`).

The first way through a greedy run stops where no further character of its class follows, and the
first one through a greedy repetition where no further round begins (`stops_atLeast`).
-/

namespace Wikitext

-- -----------------------------------------------------------------------------------------
-- Where a greedy search stops
-- -----------------------------------------------------------------------------------------

namespace Program

/-- The first way through the program stops at a place with this property. -/
def Stops (P : Program) (Q : Cursor → Prop) : Prop :=
  ∀ c way, c.Placed → (P.ways c).head? = some way → Q way.stop

theorem stops_run : (Program.run mark true accepts).Stops
    fun c => ∀ x ∈ c.rest.head?, accepts x = false := by
  intro c way hc hway
  obtain ⟨w, stop, others, hreach, -, -, hrest⟩ := Finishes.reach_eq accepts hc []
  obtain rfl : ⟨stop, []⟩ = way := by simpa [ways, hreach] using hway
  exact hrest

/-- The first way through both is a way through the second one that is the first there. -/
theorem head_seq {a b : Program} (h : ((Program.seq a b).ways c).head? = some way) :
    ∃ one ∈ a.ways c, ∃ more, (b.ways one.stop).head? = some more ∧ way.stop = more.stop := by
  simp only [ways, List.head?_flatMap] at h
  obtain ⟨one, hone, h⟩ := List.exists_of_findSome?_eq_some h
  rw [List.head?_map, Option.map_eq_some_iff] at h
  obtain ⟨more, hmore, rfl⟩ := h
  exact ⟨one, hone, more, hmore, rfl⟩

theorem Stops.seq {a b : Program} (ha : Exact a M) (hb : b.Stops Q) : (a.seq b).Stops Q := by
  intro c way hc hway
  obtain ⟨one, hone, more, hmore, hstop⟩ := head_seq hway
  obtain ⟨w, hpast, -⟩ := ha.sound hc hone
  exact hstop ▸ hb one.stop more hpast.placed hmore

/-- Where the second one can always be gone through, nothing but the first way through the first
one is tried. -/
theorem head_seq_of_ne_nil {a b : Program} (hb : ∀ c, b.ways c ≠ [])
    (h : ((Program.seq a b).ways c).head? = some way) :
    ∃ one, (a.ways c).head? = some one ∧
      ∃ more, (b.ways one.stop).head? = some more ∧ way.stop = more.stop := by
  simp only [ways] at h
  cases ha : a.ways c with
  | nil =>
    rw [ha] at h
    cases h
  | cons one others =>
    cases hmore : b.ways one.stop with
    | nil => exact absurd hmore (hb one.stop)
    | cons more _ =>
      simp only [ha, List.flatMap_cons, hmore, List.map_cons, List.cons_append, List.head?_cons,
        Option.some.injEq] at h
      exact ⟨one, rfl, more, by rw [hmore]; rfl, h ▸ rfl⟩

-- -----------------------------------------------------------------------------------------
-- Rounds
-- -----------------------------------------------------------------------------------------

theorem waysOfRounds_ne_nil (body : Cursor → List Way) (c : Cursor) :
    waysOfRounds body true false c ≠ [] := by
  rw [waysOfRounds]
  simp

section
variable {a : Program} {p : Pattern} (ha : Exact a p.Reads) (hp : p.nullable = false)
  (hs : a.Stops Q)
include ha hp hs

/-- By induction on what is left of the text. The first way is one round and then the first way from
there on, as long as there is a round. -/
theorem head_waysOfRounds (hc : c.Placed) (hQ : Q c)
    (h : (waysOfRounds a.ways true false c).head? = some way) : Q way.stop ∧ a.ways way.stop = [] := by
  induction hn : c.left using Nat.strongRecOn generalizing c way with
  | _ n ih =>
    subst hn
    rw [waysOfRounds] at h
    simp only [Bool.false_eq_true, if_false, if_true] at h
    cases hbody : a.ways c with
    | nil =>
      obtain rfl : ⟨c, []⟩ = way := by simpa [hbody] using h
      exact ⟨hQ, hbody⟩
    | cons one others =>
      have hone : one ∈ a.ways c := by
        rw [hbody]
        exact List.mem_cons_self
      obtain ⟨w, hpast, hreads⟩ := ha.sound hc hone
      have hlt : one.stop.left < c.left := by
        have hpos := List.length_pos_iff.mpr (hreads.ne_nil hp)
        have hleft := hpast.left_eq hc
        omega
      cases hmore : waysOfRounds a.ways true false one.stop with
      | nil => exact absurd hmore (waysOfRounds_ne_nil _ _)
      | cons more _ =>
        obtain rfl : one.andThen more = way := by simpa [hbody, hlt, hmore] using h
        have hfirst : (waysOfRounds a.ways true false one.stop).head? = some more := by
          rw [hmore]
          rfl
        have hrest : Q more.stop ∧ a.ways more.stop = [] :=
          ih _ hlt hpast.placed (hs c one hc (by rw [hbody]; rfl)) hfirst rfl
        exact hrest

theorem stops_rounds {first : Program} (hfirst : Exact first M) (hQ : first.Stops Q) :
    (first.seq (.loop mark true false a)).Stops fun c => Q c ∧ a.ways c = [] := by
  intro c way hc hway
  obtain ⟨one, hone, more, hmore, hstop⟩ :=
    head_seq_of_ne_nil (b := .loop mark true false a) (waysOfRounds_ne_nil a.ways) hway
  obtain ⟨w, hpast, -⟩ := hfirst.sound hc (List.mem_of_head? hone)
  exact hstop ▸ head_waysOfRounds ha hp hs hpast.placed (hQ c one hc hone) hmore

end

theorem stops_copies {step : Site → Program × Site} {p : Pattern}
    (hexact : ∀ s, Exact (step s).1 p.Reads) (h : ∀ s, (step s).1.Stops Q) (shared : Bool) (n : Nat)
    (s : Site) : (copies step shared (n + 1) s).1.Stops Q := by
  induction n generalizing s with
  | zero => exact h s
  | succ n ih => exact .seq (hexact s) (ih _)

end Program

namespace Pattern

/-- The first way to match the pattern stops at a place with this property. -/
def Stops (p : Pattern) (Q : Cursor → Prop) : Prop := ∀ s, (Program.compile p s).1.Stops Q

theorem stops_many {accepts : Char → Bool} :
    (many (char accepts)).Stops fun c : Cursor => ∀ x ∈ c.rest.head?, accepts x = false := fun _ =>
  Program.stops_run

theorem Stops.append {p q : Pattern} (hp : p.steady = true) (hq : q.Stops Q) :
    (p ++ q).Stops Q := fun s => .seq (Exact.compile hp s) (hq _)

/-- The first way through a repetition of two patterns in a row stops where the second one does, and
where no further round begins. -/
theorem stops_atLeast {p q : Pattern} (hsteady : (p ++ q).steady = true)
    (hnullable : (p ++ q).nullable = false) (hq : (p ++ q).Stops Q) :
    (atLeast (n + 1) (p ++ q)).Stops fun c => Q c ∧
      (c.Placed → ∀ w r gs, c.rest = w ++ r → ¬ (p ++ q).Reads c.before w r gs) := by
  intro s
  have hexact := Exact.compile hsteady
  have hcompile : ∃ mark s', (Program.compile (atLeast (n + 1) (p ++ q)) s).1 =
      .seq (Program.copies (Program.compile (p ++ q)) (p ++ q).branches (n + 1) s).1
        (.loop mark true false (Program.compile (p ++ q) s').1) := by
    rw [atLeast, Program.compile.eq_def]
    simp only [hnullable, Option.isNone_none, Bool.and_false, Bool.false_eq_true, if_false]
    exact ⟨_, _, rfl⟩
  obtain ⟨mark, s', hcompile⟩ := hcompile
  rw [hcompile]
  intro c way hc hway
  have hfirst := Program.stops_copies hexact hq (p ++ q).branches n s
  obtain ⟨hQ, hnone⟩ := Program.stops_rounds (hexact s') hnullable (hq s')
    (Exact.copies hexact true _ _ s) hfirst c way hc hway
  refine ⟨hQ, fun hplaced w r gs hr hreads => ?_⟩
  obtain ⟨further, hfurther, -⟩ := (hexact s').complete hplaced hr hreads
  simp [hnone] at hfurther

end Pattern

-- -----------------------------------------------------------------------------------------
-- The first way that is allowed
-- -----------------------------------------------------------------------------------------

/-- The first of the ways after which the rest of the text is as wanted. -/
structure Chosen (ways : List Way) (K : Text → Prop) (way : Way) : Prop where
  wanted : K way.stop.rest
  first : ∃ before others, ways = before ++ way :: others ∧ ∀ other ∈ before, ¬ K other.stop.rest

namespace Chosen

variable {K : Text → Prop}

theorem mem (h : Chosen ways K way) : way ∈ ways := by
  obtain ⟨before, others, rfl, -⟩ := h.first
  simp

theorem here (hK : K way.stop.rest) : Chosen (way :: others) K way := ⟨hK, [], others, rfl, by simp⟩

theorem head (h : Chosen ways (fun _ => True) way) : ways.head? = some way := by
  obtain ⟨before, others, rfl, hbefore⟩ := h.first
  cases before with
  | nil => rfl
  | cons other before => exact absurd trivial (hbefore other List.mem_cons_self)

theorem exists_chosen (hway : way ∈ ways) (hK : K way.stop.rest) : ∃ way, Chosen ways K way := by
  induction ways with
  | nil => cases hway
  | cons one ways ih =>
    by_cases hone : K one.stop.rest
    · exact ⟨one, .here hone⟩
    · obtain rfl | hway := List.mem_cons.mp hway
      · exact absurd hK hone
      · obtain ⟨way, hchosen, before, others, rfl, hbefore⟩ := ih hway
        exact ⟨way, hchosen, one :: before, others, rfl, List.forall_mem_cons.mpr ⟨hone, hbefore⟩⟩

theorem map {f : Way → Way} (hf : ∀ way, (f way).stop = way.stop) (h : Chosen ways K way) :
    Chosen (ways.map f) K (f way) := by
  obtain ⟨before, others, rfl, hbefore⟩ := h.first
  refine ⟨(hf way).symm ▸ h.wanted, before.map f, others.map f, by simp, fun moved hmoved => ?_⟩
  obtain ⟨other, hother, rfl⟩ := List.mem_map.mp hmoved
  rw [hf]
  exact hbefore other hother

theorem append_left {before : List Way} (hbefore : ∀ other ∈ before, ¬ K other.stop.rest)
    (h : Chosen ways K way) : Chosen (before ++ ways) K way := by
  obtain ⟨before', others, rfl, hbefore'⟩ := h.first
  refine ⟨h.wanted, before ++ before', others, by simp, fun other hother => ?_⟩
  exact (List.mem_append.mp hother).elim (hbefore other) (hbefore' other)

theorem append_right (h : Chosen ways K way) (others : List Way) : Chosen (ways ++ others) K way := by
  obtain ⟨before, others', rfl, hbefore⟩ := h.first
  exact ⟨h.wanted, before, others' ++ others, by simp, hbefore⟩

end Chosen

namespace Pattern

/-- The text begins with something that the pattern forms, and the rest is as wanted. -/
def Leads (p : Pattern) (K : Text → Prop) (t : Text) : Prop :=
  ∃ w r gs, t = w ++ r ∧ p.Forms w gs ∧ K r

/-- A group leads where its pattern does. -/
theorem leads_group : (group i p).Leads K = p.Leads K := by
  funext t
  refine propext ⟨?_, ?_⟩
  · rintro ⟨w, r, _, rfl, hw, hK⟩
    obtain ⟨gs, -, hw⟩ := forms_group.mp hw
    exact ⟨w, r, gs, rfl, hw, hK⟩
  · rintro ⟨w, r, gs, rfl, hw, hK⟩
    exact ⟨w, r, _, rfl, forms_group.mpr ⟨gs, rfl, hw⟩, hK⟩

/-- A pattern without anchors that can be read to a wanted end leads there. -/
theorem leads_of_way {p : Pattern} (hp : p.steady = true) (ha : p.anchorless = true) {K : Text → Prop}
    (hc : c.Placed) (hway : way ∈ (Program.compile p s).1.ways c) (hK : K way.stop.rest) :
    p.Leads K c.rest := by
  obtain ⟨w, hw, hreads⟩ := (Exact.compile hp s).sound hc hway
  exact ⟨w, way.stop.rest, _, hw.rest, hreads.anywhere ha _ _, hK⟩

end Pattern

open Pattern in
/-- A way through both parts: the first part is chosen with the second one in view. -/
theorem Chosen.seq {a : Program} {q : Pattern} {K : Text → Prop} (ha : Exact a L)
    (hq : q.steady = true) (hanchor : q.anchorless = true) (hc : c.Placed)
    (hone : Chosen (a.ways c) (q.Leads K) one)
    (hmore : Chosen ((Program.compile q s).1.ways one.stop) K more) :
    Chosen ((a.seq (Program.compile q s).1).ways c) K (one.andThen more) := by
  obtain ⟨before, others, hways, hbefore⟩ := hone.first
  rw [Program.ways, hways, List.flatMap_append, List.flatMap_cons]
  refine .append_left (fun other hother => ?_) (.append_right (hmore.map (f := one.andThen) fun _ => rfl) _)
  obtain ⟨two, htwo, further, hfurther, rfl⟩ := Exact.mem_andThen.mp hother
  have hmem : two ∈ a.ways c := by
    rw [hways]
    exact List.mem_append_left _ htwo
  obtain ⟨w, hw, -⟩ := ha.sound hc hmem
  exact fun hK => hbefore two htwo (leads_of_way hq hanchor hw.placed hfurther hK)

namespace Pattern

-- -----------------------------------------------------------------------------------------
-- Preference, part by part
-- -----------------------------------------------------------------------------------------

/-- Of the readings that lead to a rest that is as wanted, the search takes `w`, in front of `r`,
with these texts for the groups. -/
def Prefers (p : Pattern) (K : Text → Prop) (w r : Text) (gs : Groups) : Prop :=
  ∀ s c, Cursor.Placed c → c.rest = w ++ r → ∃ way, Chosen ((Program.compile p s).1.ways c) K way ∧
    c.Past w way.stop ∧ way.captures.texts = gs

variable {p q : Pattern} {K : Text → Prop}

theorem Prefers.leads (hp : p.steady = true) (ha : p.anchorless = true) (h : p.Prefers K w r gs) :
    p.Leads K (w ++ r) := by
  obtain ⟨way, hway, -⟩ := h ⟨0, 0, false⟩ (.ofText (w ++ r)) (Cursor.placed_ofText _) rfl
  exact leads_of_way hp ha (Cursor.placed_ofText _) hway.mem hway.wanted

/-- One way is chosen with the next part in view, and what that part prefers comes behind it. -/
theorem Prefers.behind (hp : p.steady = true) (hq : q.steady = true) (ha : q.anchorless = true)
    (hc : c.Placed) (hone : Chosen ((Program.compile p s).1.ways c) (q.Leads K) one)
    (hu : c.Past u one.stop) (hr : c.rest = u ++ (v ++ r)) (h : q.Prefers K v r gs) :
    ∃ way, Chosen ((Program.compile (p ++ q) s).1.ways c) K way ∧ c.Past (u ++ v) way.stop ∧
      way.captures.texts = gs ++ one.captures.texts := by
  obtain ⟨more, hmore, hv, rfl⟩ := h _ one.stop hu.placed (hu.rest_eq hr)
  exact ⟨one.andThen more, .seq (Exact.compile hp s) hq ha hc hone hmore, hu.trans hv,
    Exact.texts_andThen one more⟩

theorem Prefers.append (hp : p.steady = true) (hq : q.steady = true) (ha : q.anchorless = true)
    (h : p.Prefers (q.Leads K) u (v ++ r) gs) (h' : q.Prefers K v r gs') :
    (p ++ q).Prefers K (u ++ v) r (gs' ++ gs) := by
  intro s c hc hr
  rw [List.append_assoc] at hr
  obtain ⟨one, hone, hu, rfl⟩ := h s c hc hr
  exact h'.behind hp hq ha hc hone hu hr

/-- Where there is one reading only, it is preferred. -/
theorem prefers_of_unique (hp : p.steady = true) (ha : p.anchorless = true) (h : p.Forms w gs)
    (hK : K r) (honly : ∀ w' r' gs', w ++ r = w' ++ r' → p.Forms w' gs' → K r' → w' = w ∧ gs' = gs) :
    p.Prefers K w r gs := by
  intro s c hc hr
  obtain ⟨way, hway, hpast, -⟩ := (Exact.compile hp s).complete hc hr (h.anywhere ha _ _)
  obtain ⟨way, hchosen⟩ := Chosen.exists_chosen hway ((hpast.rest_eq hr).symm ▸ hK)
  obtain ⟨w', hw', hreads⟩ := (Exact.compile hp s).sound hc hchosen.mem
  obtain ⟨rfl, rfl⟩ := honly w' _ _ (hr.symm.trans hw'.rest) (hreads.anywhere ha _ _) hchosen.wanted
  exact ⟨way, hchosen, hw', rfl⟩

theorem prefers_ofText (hK : K r) : (ofText t).Prefers K t r [] :=
  prefers_of_unique (steady_ofText t) (anchorless_ofText t) (forms_ofText.mpr ⟨rfl, rfl⟩) hK
    fun _ _ _ _ hw' _ => forms_ofText.mp hw'

theorem prefers_char {accepts : Char → Bool} (hx : accepts x = true) (hK : K r) :
    (char accepts).Prefers K [x] r [] := by
  refine prefers_of_unique rfl rfl (forms_char.mpr ⟨x, hx, rfl, rfl⟩) hK ?_
  rintro w' r' gs' heq hw' -
  obtain ⟨y, -, rfl, rfl⟩ := forms_char.mp hw'
  exact ⟨by simpa using (List.cons.inj heq).1.symm, rfl⟩

theorem Prefers.group (h : p.Prefers K w r gs) (i : Nat) : (group i p).Prefers K w r ((i, w) :: gs) := by
  intro s c hc hr
  obtain ⟨way, hway, hpast, rfl⟩ := h s c hc hr
  refine ⟨_, hway.map (f := fun way => ⟨way.stop, ⟨i, c, way.stop⟩ :: way.captures⟩) fun _ => rfl,
    hpast, ?_⟩
  simp [Captures.texts, Capture.text, hpast.take_eq hc]

-- -----------------------------------------------------------------------------------------
-- Runs of one class
-- -----------------------------------------------------------------------------------------

/-- A greedy run goes on as long as there are characters of its class. -/
theorem prefers_many {accepts : Char → Bool} (hw : ∀ x ∈ w, accepts x = true)
    (hr : ∀ x ∈ r.head?, accepts x = false) (hK : K r) : (many (char accepts)).Prefers K w r [] := by
  intro s c hc hrest
  obtain ⟨u, stop, others, hreach, hpast, hu, hstop⟩ := Finishes.reach_eq accepts hc []
  obtain ⟨rfl, -⟩ := Text.append_inj_of_stop hu hstop hw hr (hpast.rest.symm.trans hrest)
  refine ⟨⟨stop, []⟩, ?_, hpast, rfl⟩
  have hways : (Program.compile (many (char accepts)) s).1.ways c =
      ⟨stop, []⟩ :: others.map fun stop => ⟨stop, []⟩ := by
    change (Program.run s.mark true accepts).ways c = _
    rw [Program.ways, if_pos rfl, hreach, List.map_cons]
  rw [hways]
  exact .here ((hpast.rest_eq hrest).symm ▸ hK)

/-- One character, and then the run. -/
theorem prefers_many1 {accepts : Char → Bool} (hx : accepts x = true) (hw : ∀ y ∈ w, accepts y = true)
    (hr : ∀ y ∈ r.head?, accepts y = false) (hK : K r) : (many1 (char accepts)).Prefers K (x :: w) r [] := by
  have hrun := prefers_many hw hr hK
  have hone := prefers_char hx (hrun.leads rfl rfl)
  exact fun s c hc hr => (hone.append rfl rfl rfl hrun) s c hc hr

theorem reach_suffix (accepts : Char → Bool) (t : Text) (c : Cursor) (seen : List Cursor) :
    ∃ further, Program.reach accepts t c seen = further ++ c :: seen := by
  induction t generalizing c seen with
  | nil => exact ⟨[], rfl⟩
  | cons x t ih =>
    rw [Program.reach]
    split
    · obtain ⟨further, hfurther⟩ := ih (c.past x t) (c :: seen)
      exact ⟨further ++ [c.past x t], by simp [hfurther]⟩
    · exact ⟨[], rfl⟩

/-- The places on the way to the end of `w` come after that end. -/
theorem exists_nearer {accepts : Char → Bool} (hc : c.Placed) (hr : c.rest = w ++ r)
    (hw : ∀ x ∈ w, accepts x = true) (seen : List Cursor) : ∃ further stop nearer,
      Program.reach accepts c.rest c seen = further ++ stop :: (nearer ++ seen) ∧ c.Past w stop ∧
        ∀ c' ∈ nearer, ∃ u v, w = u ++ v ∧ v ≠ [] ∧ c'.rest = v ++ r := by
  induction w generalizing c seen with
  | nil =>
    obtain ⟨further, hfurther⟩ := reach_suffix accepts c.rest c seen
    exact ⟨further, c, [], hfurther, .refl hc, by simp⟩
  | cons x w ih =>
    rw [List.forall_mem_cons] at hw
    have hone := Cursor.Past.one hc hr
    obtain ⟨further, stop, nearer, hreach, hpast, hnearer⟩ := ih hone.placed rfl hw.2 (c :: seen)
    refine ⟨further, stop, nearer ++ [c], ?_, hone.trans hpast, fun c' hc' => ?_⟩
    · rw [hr, List.cons_append, Program.reach, if_pos hw.1, List.append_assoc]
      exact hreach
    · rcases List.mem_append.mp hc' with hc' | hc'
      · obtain ⟨u, v, rfl, hv, hrest⟩ := hnearer c' hc'
        exact ⟨x :: u, v, rfl, hv, hrest⟩
      · obtain rfl := List.mem_singleton.mp hc'
        exact ⟨[], x :: w, rfl, by simp, hr⟩

/-- A lazy run stops as soon as the rest is as wanted. -/
theorem prefers_manyLazy {accepts : Char → Bool} (hw : ∀ x ∈ w, accepts x = true)
    (hnearest : ∀ u v, w = u ++ v → v ≠ [] → ¬ K (v ++ r)) (hK : K r) :
    (manyLazy (char accepts)).Prefers K w r [] := by
  intro s c hc hr
  obtain ⟨further, stop, nearer, hreach, hpast, hnearer⟩ := exists_nearer hc hr hw []
  refine ⟨⟨stop, []⟩, ?_, hpast, rfl⟩
  have hways : (Program.compile (manyLazy (char accepts)) s).1.ways c =
      (nearer.reverse.map fun stop => (⟨stop, []⟩ : Way)) ++
        ⟨stop, []⟩ :: further.reverse.map fun stop => ⟨stop, []⟩ := by
    change (Program.run s.mark false accepts).ways c = _
    rw [Program.ways, hreach]
    simp
  rw [hways]
  refine .append_left (fun other hother => ?_) (.here ((hpast.rest_eq hr).symm ▸ hK))
  obtain ⟨c', hc', rfl⟩ := List.mem_map.mp hother
  obtain ⟨u, v, huv, hv, hrest⟩ := hnearer c' (List.mem_reverse.mp hc')
  exact fun hwanted => hnearest u v huv hv (hrest ▸ hwanted)

/-- One character, and then the run. -/
theorem prefers_many1Lazy {accepts : Char → Bool} (hx : accepts x = true)
    (hw : ∀ y ∈ w, accepts y = true) (hnearest : ∀ u v, w = u ++ v → v ≠ [] → ¬ K (v ++ r)) (hK : K r) :
    (many1Lazy (char accepts)).Prefers K (x :: w) r [] := by
  have hrun := prefers_manyLazy hw hnearest hK
  have hone := prefers_char hx (hrun.leads rfl rfl)
  exact fun s c hc hr => (hone.append rfl rfl rfl hrun) s c hc hr

-- -----------------------------------------------------------------------------------------
-- What is to be seen next
-- -----------------------------------------------------------------------------------------

/-- The rest of the text is only as wanted where one of these characters is the next thing to see. -/
def Ending (cs : List Char) (K : Text → Prop) : Prop :=
  ∀ t, K t → ∃ c ∈ cs, (Text.visible t).head? = some c

/-- It is not as wanted in front of what has other characters and does not end in white space. -/
theorem Ending.not_before {K : Text → Prop} (hend : Ending cs K) (hne : v ≠ [])
    (hlast : ∀ c ∈ v.getLast?, Chars.isBlank c = false) (hcs : ∀ c ∈ v, c ∉ cs) (r : Text) :
    ¬ K (v ++ r) := by
  intro hK
  obtain ⟨c, hc, hhead⟩ := hend _ hK
  obtain ⟨d, ds, hvisible⟩ := List.exists_cons_of_ne_nil (Text.visible_ne_nil hne hlast)
  rw [Text.visible_append, hvisible, List.cons_append, List.head?_cons, Option.some.injEq] at hhead
  have hmem : d ∈ Text.visible v := by
    rw [hvisible]
    exact List.mem_cons_self
  exact hcs d (List.mem_of_mem_filter hmem) (hhead ▸ hc)

theorem ending_ofText (hx : Chars.isBlank x = false) (t : Text) (K : Text → Prop) :
    Ending [x] ((ofText (x :: t)).Leads K) := by
  rintro _ ⟨w, r, _, rfl, hw, -⟩
  obtain ⟨rfl, -⟩ := forms_ofText.mp hw
  exact ⟨x, List.mem_singleton_self x, congrArg List.head? (Text.visible_cons_solid hx (t ++ r))⟩

theorem Ending.blanks {K : Text → Prop} (h : Ending cs K) : Ending cs (blanks.Leads K) := by
  rintro _ ⟨b, r, _, rfl, hb, hK⟩
  rw [Text.head_visible_append (forms_run.mp hb).1]
  exact h r hK

end Pattern

-- -----------------------------------------------------------------------------------------
-- What a match has captured
-- -----------------------------------------------------------------------------------------

open Pattern

theorem Regex.Found.first_way {r : Regex} (h : Regex.Found t r c ps) (hm : .hit m ∈ ps) :
    m.start.In t ∧ (r.program.ways m.start).head? = some ⟨m.stop, m.captures⟩ := by
  induction h with
  | last => simp at hm
  | hit _ hfirst _ ih =>
    rcases List.mem_cons.mp ((List.mem_cons.mp hm).resolve_left (by simp)) with hm | hm
    · cases hm
      exact ⟨hfirst.inText, hfirst.first⟩
    · exact ih hm

section
variable {p : Pattern} (hp : p.steady = true) (hn : p.nullable = false)
include hp hn

/-- A match is the first way through the pattern where it begins. -/
theorem first_way_of_mem_matches (hm : m ∈ p.compile.matches' t) :
    m.start.Placed ∧ (p.compile.program.ways m.start).head? = some ⟨m.stop, m.captures⟩ ∧
      m.start.Past m.text m.stop := by
  rw [matches_eq_hits, mem_hits] at hm
  obtain ⟨hin, hfirst⟩ := (Regex.found_pieces hp hn t).first_way hm
  obtain ⟨w, hw, -⟩ := (Exact.compile hp _).sound hin.placed (List.mem_of_head? hfirst)
  have htext : m.text = w := hw.take_eq hin.placed
  exact ⟨hin.placed, hfirst, htext ▸ hw⟩

/-- What is preferred where the match stands is the match. -/
theorem eq_of_prefers (hm : m ∈ p.compile.matches' t) (hr : m.text ++ m.after = w ++ r)
    (h : p.Prefers (fun _ => True) w r gs) : m.text = w ∧ m.captures.texts = gs := by
  obtain ⟨hplaced, hfirst, hpast⟩ := first_way_of_mem_matches hp hn hm
  obtain ⟨way, hway, hw, rfl⟩ := h _ m.start hplaced (hpast.rest.trans hr)
  obtain rfl : way = ⟨m.stop, m.captures⟩ := Option.some.inj (hway.head.symm.trans hfirst)
  exact ⟨List.append_cancel_right (hpast.rest.symm.trans hw.rest), rfl⟩

end

end Wikitext
