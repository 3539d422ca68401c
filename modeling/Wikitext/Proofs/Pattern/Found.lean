import Wikitext.Proofs.Pattern.Language

/-!
# What a search finds

`Consumes.compile`: whatever a compiled pattern finds is read by the pattern,
with the texts that were captured. `Finishes.compile` adds what greed means at
the end of the pattern. Both hold
for any memory, since the memory only makes a search give up earlier. The
converse, that a search which fails has overlooked nothing, is not proved here.
-/

namespace Wikitext

-- Lean derives their equations here, once, and not when the first proofs ask for them side by side.
attribute [local simp] Program.walk Program.once Program.orElse Program.fromEach Program.reach
  Program.fromNearest

-- -----------------------------------------------------------------------------------------
-- How a repetition is written out
-- -----------------------------------------------------------------------------------------

namespace Program

/-- The forms in which `compile` writes out a repetition from the site `s` on, each with the next
free number after it. The copies that there have to be end at `s'`. -/
inductive Unrolled (greedy : Bool) (s : Site) :
    Nat → Option Nat → Pattern → Program → Nat → Prop
  | run : Unrolled greedy s 0 none (.char accepts) (.run s.mark greedy accepts) s.marked.next
  | optionals (hs : (copies (compile a) a.branches least s).2.next = s'.next) :
      Unrolled greedy s least (some most) a
        (.seq (copies (compile a) a.branches least s).1
          (optionals (compile a) greedy (most - least) s').1)
        (optionals (compile a) greedy (most - least) s').2.next
  | copiesRun {s' : Site} (hs : (copies (compile (.char accepts)) false least s).2.next = s'.next) :
      Unrolled greedy s least none (.char accepts)
        (.seq (copies (compile (.char accepts)) false least s).1 (.run s'.mark greedy accepts))
        s'.marked.next
  | rounds (hn : a.nullable = false)
      (hs : (copies (compile a) a.branches least s).2.next = s'.next) :
      Unrolled greedy s least none a
        (.seq (copies (compile a) a.branches least s).1 (rounds (compile a) greedy false s').1)
        (rounds (compile a) greedy false s').2.next
  | opening (hn : a.nullable = true) :
      Unrolled greedy s (n + 1) none a
        (.seq (copies (compile a) a.branches n s).1
          (.opening (compile a s').1 (rounds (compile a) greedy true s'').1))
        (rounds (compile a) greedy true s'').2.next
  | optionalOpening (hn : a.nullable = true) :
      Unrolled greedy s 0 none a
        (.seq (copies (compile a) a.branches 0 s).1
          (prefer mark greedy
            (.opening (compile a s').1 (rounds (compile a) greedy true s'').1) .empty))
        (rounds (compile a) greedy true s'').2.next

theorem unrolled (least : Nat) (most : Option Nat) (greedy : Bool) (a : Pattern) (s : Site) :
    Unrolled greedy s least most a (compile (.times least most greedy a) s).1
      (compile (.times least most greedy a) s).2.next := by
  rw [compile.eq_def]
  split
  all_goals rename_i heq
  all_goals cases heq
  · exact .run
  · cases most with
    | some most => exact .optionals rfl
    | none =>
      cases hn : a.nullable with
      | false =>
        simp only [Option.isNone_none, Bool.and_false, Bool.false_eq_true, if_false]
        split
        · contradiction
        · exact .copiesRun rfl
        · exact .rounds hn rfl
      | true =>
        simp only [Option.isNone_none, Bool.and_self, if_true]
        split
        · contradiction
        · simp [Pattern.nullable] at hn
        · cases least with
          | zero => exact .optionalOpening hn
          | succ n => exact .opening hn

end Program

-- -----------------------------------------------------------------------------------------
-- Steps of the search
-- -----------------------------------------------------------------------------------------

namespace Program

theorem once_found (h : once mark c memo attempt = .found stop captures) :
    attempt memo = .found stop captures := by
  cases mark with
  | none => exact h
  | some mark =>
    simp only [once] at h
    split at h
    · cases h
    · split at h
      · cases h
      · exact h

theorem orElse_found (h : orElse first second = .found stop captures) :
    first = .found stop captures ∨ ∃ memo, second memo = .found stop captures := by
  cases first with
  | found => exact .inl h
  | failed memo => exact .inr ⟨memo, h⟩

theorem fromEach_found {k : Continuation} (h : fromEach k cs places memo = .found stop captures) :
    ∃ c ∈ places, ∃ memo, k c cs memo = .found stop captures := by
  induction places generalizing memo with
  | nil => cases h
  | cons c places ih =>
    simp only [fromEach] at h
    split at h
    · obtain ⟨c', hc', hk⟩ := ih h
      exact ⟨c', List.mem_cons_of_mem _ hc', hk⟩
    · exact ⟨c, List.mem_cons_self, memo, h⟩

end Program

/-- Whatever is found after a step was found by the continuation, past a text of the
language and with captures of the texts that go with it. -/
def Consumes (f : Continuation → Continuation) (L : Option Char → Text → Text → Groups → Prop) :
    Prop :=
  ∀ ⦃k : Continuation⦄ ⦃c captures memo stop captures'⦄, c.Placed →
    f k c captures memo = .found stop captures' →
    ∃ w c' new memo, c.Past w c' ∧ L c.before w c'.rest new.texts ∧
      k c' (new ++ captures) memo = .found stop captures'

theorem texts_append (cs cs' : Captures) : (cs ++ cs').texts = cs.texts ++ cs'.texts :=
  List.map_append

/-- The continuation finds the answer past a text of the language that stands at `c`, with captures of
the texts that go with it. -/
def Reaches (L : Option Char → Text → Text → Groups → Prop) (k : Continuation) (c : Cursor)
    (captures : Captures) (stop : Cursor) (captures' : Captures) : Prop :=
  ∃ w c' new memo, c.Past w c' ∧ L c.before w c'.rest new.texts ∧
    k c' (new ++ captures) memo = .found stop captures'

/-- A text in front of it. -/
theorem Reaches.behind {L₁ : Option Char → Text → Text → Groups → Prop}
    (h : Reaches L₂ k c₁ (new₁ ++ captures) stop captures') (hp : c.Past u c₁)
    (hu : L₁ c.before u c₁.rest new₁.texts)
    (hL : ∀ {v r gs}, L₁ c.before u (v ++ r) new₁.texts → L₂ (lastOf c.before u) v r gs →
      L c.before (u ++ v) r (gs ++ new₁.texts)) :
    Reaches L k c captures stop captures' := by
  obtain ⟨v, c₂, new₂, m, hp₂, hv, h⟩ := h
  rw [hp.before] at hv
  rw [hp₂.rest] at hu
  rw [← List.append_assoc] at h
  exact ⟨u ++ v, c₂, new₂ ++ new₁, m, hp.trans hp₂, texts_append new₂ new₁ ▸ hL hu hv, h⟩

namespace Consumes

open Program Pattern

theorem mono (h : Consumes f L) (hL : ∀ {b w r gs}, L b w r gs → L' b w r gs) :
    Consumes f L' := by
  intro k c captures memo stop captures' hc hf
  obtain ⟨w, c', new, m, hp, hw, hk⟩ := h hc hf
  exact ⟨w, c', new, m, hp, hL hw, hk⟩

theorem empty : Consumes (walk .empty) (Reads .empty) := fun _ c _ memo _ _ hc hf =>
  ⟨[], c, [], memo, .refl hc, .empty, hf⟩

/-- Doing nothing is a way to repeat a pattern that has to occur no more. -/
theorem noRound : Consumes (walk .empty) (Reads (.times 0 most greedy p)) :=
  empty.mono fun h => by cases h; exact .stop

theorem char : Consumes (walk (.char accepts)) (Reads (.char accepts)) := by
  intro k c captures memo stop captures' hc hf
  simp only [walk] at hf
  split at hf
  · cases hf
  · rename_i x rest hr
    split at hf
    · rename_i hx
      exact ⟨[x], _, [], memo, .one hc hr, .char hx, hf⟩
    · cases hf

theorem anchor : Consumes (walk (.anchor a)) (Reads (.anchor a)) := by
  intro k c captures memo stop captures' hc hf
  simp only [walk] at hf
  split at hf
  · rename_i ha
    exact ⟨[], c, [], memo, .refl hc, .anchor ha rfl rfl, hf⟩
  · cases hf

/-- Two steps in a row, with a language for both. -/
theorem comp (hf : Consumes f L₁) (hg : Consumes g L₂)
    (hL : ∀ {b u v r gs gs'}, L₁ b u (v ++ r) gs → L₂ (lastOf b u) v r gs' →
      L b (u ++ v) r (gs' ++ gs)) :
    Consumes (fun k => f (g k)) L := by
  intro k c captures memo stop captures' hc h
  obtain ⟨u, c₁, new₁, _, hp₁, hu, h₁⟩ := hf hc h
  exact Reaches.behind (hg hp₁.placed h₁) hp₁ hu hL

theorem alt (ha : Consumes a.walk L) (hb : Consumes b.walk L) :
    Consumes (walk (.alt mark a b)) L := by
  intro k c captures memo stop captures' hc h
  simp only [walk] at h
  rcases orElse_found (once_found h) with h | ⟨m, h⟩
  · exact ha hc h
  · exact hb hc h

theorem prefer (ha : Consumes a.walk L) (hb : Consumes b.walk L) :
    Consumes (Program.prefer mark greedy a b).walk L := by
  cases greedy
  · exact hb.alt ha
  · exact ha.alt hb

theorem capture (h : Consumes a.walk (Reads p)) :
    Consumes (walk (.capture i a)) (Reads (.capture i p)) := by
  intro k c captures memo stop captures' hc hf
  obtain ⟨w, c', new, m, hp, hw, hk⟩ := h hc hf
  have ht : Captures.texts (⟨i, c, c'⟩ :: new) = (i, w) :: new.texts := by
    rw [Captures.texts, List.map_cons, Capture.text, hp.take_eq hc]
    rfl
  exact ⟨w, c', ⟨i, c, c'⟩ :: new, m, hp, ht ▸ .capture hw, hk⟩

-- -----------------------------------------------------------------------------------------
-- Repetition
-- -----------------------------------------------------------------------------------------

theorem mem_reach (hc : c.Placed) (h : c' ∈ reach accepts c.rest c seen) :
    c' ∈ seen ∨ ∃ w, c.Past w c' ∧ ∀ x ∈ w, accepts x = true := by
  generalize ht : c.rest = t at h
  induction t generalizing c seen with
  | nil =>
    rcases List.mem_cons.mp h with rfl | h
    · exact .inr ⟨[], .refl hc, by simp⟩
    · exact .inl h
  | cons x t ih =>
    have here : c' ∈ c :: seen → c' ∈ seen ∨ ∃ w, c.Past w c' ∧ ∀ x ∈ w, accepts x = true := by
      intro h
      rcases List.mem_cons.mp h with rfl | h
      · exact .inr ⟨[], .refl hc, by simp⟩
      · exact .inl h
    simp only [reach] at h
    split at h
    · rename_i hx
      rcases ih (Cursor.placed_past hc ht) rfl h with h | ⟨w, hw, ha⟩
      · exact here h
      · refine .inr ⟨x :: w, (Cursor.Past.one hc ht).trans hw, ?_⟩
        simpa [hx] using ha
    · exact here h

theorem fromNearest_found {k : Continuation} (hc : c.Placed)
    (h : fromNearest accepts k cs c.rest c memo = .found stop captures) :
    ∃ w c' memo, c.Past w c' ∧ (∀ x ∈ w, accepts x = true) ∧
      k c' cs memo = .found stop captures := by
  generalize ht : c.rest = t at h
  induction t generalizing c memo with
  | nil => exact ⟨[], c, memo, .refl hc, by simp, h⟩
  | cons x t ih =>
    simp only [fromNearest] at h
    split at h
    · split at h
      · rename_i hx
        obtain ⟨w, c', m, hp, ha, hk⟩ := ih (Cursor.placed_past hc ht) rfl h
        refine ⟨x :: w, c', m, (Cursor.Past.one hc ht).trans hp, ?_, hk⟩
        simpa [hx] using ha
      · cases h
    · exact ⟨[], c, memo, .refl hc, by simp, h⟩

theorem run : Consumes (walk (.run mark greedy accepts))
    (Reads (.times 0 none greedy' (.char accepts))) := by
  intro k c captures memo stop captures' hc h
  simp only [walk] at h
  replace h := once_found h
  split at h
  · obtain ⟨c', hm, m, hk⟩ := fromEach_found h
    rcases mem_reach hc hm with hm | ⟨w, hw, ha⟩
    · simp at hm
    · exact ⟨w, c', [], m, hw, .run ha, hk⟩
  · obtain ⟨w, c', m, hw, ha, hk⟩ := fromNearest_found hc h
    exact ⟨w, c', [], m, hw, .run ha, hk⟩

/-- By induction on what is left of the text, which every round shortens. -/
theorem repeatRounds {nullable : Bool} (h : Consumes body (Reads p)) :
    Consumes (fun k => Program.repeatRounds body k mark greedy nullable)
      (Reads (.times 0 none greedy' p)) := by
  intro k c captures memo stop captures' hc hf
  induction hn : c.left using Nat.strongRecOn generalizing c captures memo with
  | _ n ih =>
    subst hn
    have done : ∀ memo, k c captures memo = .found stop captures' →
        Reaches (Reads (.times 0 none greedy' p)) k c captures stop captures' :=
      fun m hk => ⟨[], c, [], m, .refl hc, .stop, hk⟩
    have again : ∀ idle memo, body (fun c' captures' memo' =>
          if _h : c'.left < c.left then
            Program.repeatRounds body k mark greedy nullable c' captures' memo'
          else .failed memo') { c with idle } captures memo = .found stop captures' →
        Reaches (Reads (.times 0 none greedy' p)) k c captures stop captures' := by
      intro idle m hk
      obtain ⟨u, c₁, new₁, m₁, hp₁, hu, h₁⟩ := h (show Cursor.Placed { c with idle } from hc) hk
      replace hp₁ := hp₁.of_idle
      split at h₁
      · rename_i hlt
        exact Reaches.behind (ih _ hlt hp₁.placed h₁ rfl) hp₁ hu fun hu hv =>
          .round (.inr (by simp)) hu hv
      · cases h₁
    have hstart : ∃ idle, (if nullable then { c with idle := c.idle + 1 } else c) =
        { c with idle } := by
      cases nullable
      · exact ⟨c.idle, rfl⟩
      · exact ⟨c.idle + 1, rfl⟩
    obtain ⟨idle, hstart⟩ := hstart
    replace hf : Program.repeatRounds body k mark greedy nullable c captures memo = _ := hf
    rw [Program.repeatRounds] at hf
    replace hf := once_found hf
    rw [hstart] at hf
    split at hf
    · rcases orElse_found hf with hf | ⟨m, hf⟩
      · exact again _ _ hf
      · exact done m hf
    · rcases orElse_found hf with hf | ⟨m, hf⟩
      · exact done _ hf
      · exact again _ _ hf

theorem opening (ha : Consumes a.walk (Reads p))
    (hf : Consumes further.walk (Reads (.times 0 none greedy p))) :
    Consumes (walk (.opening a further)) (Reads (.times 1 none greedy p)) := by
  intro k c captures memo stop captures' hc h
  simp only [walk] at h
  obtain ⟨u, c₁, new₁, m₁, hp₁, hu, h₁⟩ :=
    ha (show Cursor.Placed { c with idle := c.idle + 1 } from hc) h
  replace hp₁ := hp₁.of_idle
  split at h₁
  · exact Reaches.behind (hf hp₁.placed h₁) hp₁ hu fun hu hv => .round (.inl Nat.one_pos) hu hv
  · have hone : Reads (.times 1 none greedy p) c.before (u ++ []) c₁.rest ([] ++ new₁.texts) :=
      .round (.inl Nat.one_pos) (by simpa using hu) .stop
    rw [List.append_nil, List.nil_append] at hone
    exact ⟨u, { c₁ with idle := c.idle }, new₁, m₁, ⟨hp₁.rest, hp₁.before, hp₁.placed⟩, hone, h₁⟩

-- -----------------------------------------------------------------------------------------
-- Compiled patterns
-- -----------------------------------------------------------------------------------------

variable {step : Site → Program × Site}

theorem copies (h : ∀ s, Consumes (step s).1.walk (Reads p)) (greedy shared : Bool) :
    ∀ (n : Nat) (s : Site),
      Consumes (Program.copies step shared n s).1.walk (Reads (.times n (some n) greedy p))
  | 0, _ => noRound
  | 1, s => (h s).mono .once
  | n + 2, s => by
    refine (h s).comp (copies h greedy shared (n + 1) _) ?_
    intro b u v r gs gs' hu hv
    exact .round (.inl (by simp)) hu (by simpa using hv)

theorem optionals (h : ∀ s, Consumes (step s).1.walk (Reads p)) (n : Nat) (s : Site) :
    Consumes (Program.optionals step greedy n s).1.walk (Reads (.times 0 (some n) greedy p)) := by
  induction n generalizing s with
  | zero => exact noRound
  | succ n ih =>
    refine prefer ?_ noRound
    refine (h s.marked).comp (ih { (step s.marked).2 with shared := true }) ?_
    intro b u v r gs gs' hu hv
    exact .round (.inr (by simp)) hu (by simpa using hv)

theorem rounds (h : ∀ s, Consumes (step s).1.walk (Reads p)) (nullable : Bool) (s : Site) :
    Consumes (Program.rounds step greedy nullable s).1.walk (Reads (.times 0 none greedy p)) :=
  (h _).repeatRounds

/-- A program for the rounds after the first `n` of a repetition completes it. -/
theorem after_copies {branches : Bool} (h : ∀ s, Consumes (step s).1.walk (Reads p))
    (ho : Consumes others.walk (Reads (.times m (most.map (· - n)) greedy p)))
    (hn : n + m = least) (s : Site) :
    Consumes (walk (.seq (Program.copies step branches n s).1 others))
      (Reads (.times least most greedy p)) := by
  subst hn
  exact (copies h greedy branches n s).comp ho .further

theorem compile (p : Pattern) (s : Site) : Consumes (Program.compile p s).1.walk (Reads p) := by
  induction p generalizing s with
  | empty => exact empty
  | char accepts => exact char
  | anchor a => exact anchor
  | seq a b iha ihb => exact (iha s).comp (ihb _) .seq
  | alt a b iha ihb => exact ((iha s.marked).mono .left).alt ((ihb _).mono .right)
  | capture i a ih => exact (ih s).capture
  | times least most greedy a ih =>
    have hform := unrolled least most greedy a s
    generalize (Program.compile (.times least most greedy a) s).1 = P,
      (Program.compile (.times least most greedy a) s).2.next = next at hform ⊢
    cases hform with
    | run => exact run
    | optionals => exact after_copies (m := 0) ih (optionals ih _ _) (by simp) s
    | copiesRun => exact after_copies (m := 0) ih run (by simp) s
    | rounds => exact after_copies (m := 0) ih (rounds ih _ _) (by simp) s
    | opening => exact after_copies (m := 1) ih (opening (ih _) (rounds ih _ _)) rfl s
    | optionalOpening =>
      refine after_copies (m := 0) ih (prefer ?_ noRound) rfl s
      exact (opening (ih _) (rounds ih _ _)).mono .of_one

end Consumes

-- -----------------------------------------------------------------------------------------
-- Greed at the end
-- -----------------------------------------------------------------------------------------

/-- A continuation that is content with any place. -/
def Continuation.Final (k : Continuation) : Prop :=
  ∀ c captures memo, ∃ stop captures', k c captures memo = .found stop captures'

/-- Like `Consumes`, for steps after which nothing has to match. -/
def Finishes (f : Continuation → Continuation) (L : Language) : Prop :=
  ∀ ⦃k : Continuation⦄ ⦃c captures memo stop captures'⦄, k.Final → c.Placed →
    f k c captures memo = .found stop captures' →
    ∃ w c' captures memo, c.Past w c' ∧ L c.before w c'.rest ∧
      k c' captures memo = .found stop captures'

theorem Consumes.finishes (h : Consumes f (Pattern.Reads p)) :
    Finishes f (Pattern.Spells p) := by
  intro k c captures memo stop captures' _ hc hf
  obtain ⟨w, c', new, m, hp, hw, hk⟩ := h hc hf
  exact ⟨w, c', _, m, hp, hw.spells, hk⟩

theorem Consumes.compFinishes (hf : Consumes f L₁) (hg : Finishes g L₂)
    (hL : ∀ {b u v r gs}, L₁ b u (v ++ r) gs → L₂ (lastOf b u) v r → L b (u ++ v) r) :
    Finishes (fun k => f (g k)) L := by
  intro k c captures memo stop captures' hk hc h
  obtain ⟨u, c₁, _, _, hp₁, hu, h₁⟩ := hf hc h
  obtain ⟨v, c₂, cs, m, hp₂, hv, h₂⟩ := hg hk hp₁.placed h₁
  rw [hp₁.before] at hv
  rw [hp₂.rest] at hu
  exact ⟨u ++ v, c₂, cs, m, hp₁.trans hp₂, hL hu hv, h₂⟩

namespace Finishes

open Program Pattern

theorem mono (h : Finishes f L) (hL : ∀ {b w r}, L b w r → L' b w r) : Finishes f L' := by
  intro k c captures memo stop captures' hk hc hf
  obtain ⟨w, c', cs, m, hp, hw, hf⟩ := h hk hc hf
  exact ⟨w, c', cs, m, hp, hL hw, hf⟩

theorem alt (ha : Finishes a.walk L₁) (hb : Finishes b.walk L₂)
    (hL : ∀ {b w r}, L₁ b w r ∨ L₂ b w r → L b w r) : Finishes (walk (.alt mark a b)) L := by
  intro k c captures memo stop captures' hk hc h
  simp only [walk] at h
  rcases orElse_found (once_found h) with h | ⟨m, h⟩
  · obtain ⟨w, c', cs, m, hp, hw, hf⟩ := ha hk hc h
    exact ⟨w, c', cs, m, hp, hL (.inl hw), hf⟩
  · obtain ⟨w, c', cs, m, hp, hw, hf⟩ := hb hk hc h
    exact ⟨w, c', cs, m, hp, hL (.inr hw), hf⟩

theorem capture (h : Finishes a.walk L) : Finishes (walk (.capture i a)) L := by
  intro k c captures memo stop captures' hk hc hf
  obtain ⟨w, c', cs, m, hp, hw, hf⟩ := h (fun c' cs m => hk c' _ m) hc hf
  exact ⟨w, c', _, m, hp, hw, hf⟩

/-- The furthest place that a run can reach comes first. -/
theorem reach_eq (accepts : Char → Bool) (hc : c.Placed) (seen : List Cursor) :
    ∃ w c' others, reach accepts c.rest c seen = c' :: others ∧ c.Past w c' ∧
      (∀ x ∈ w, accepts x = true) ∧ ∀ x ∈ c'.rest.head?, accepts x = false := by
  generalize ht : c.rest = t
  induction t generalizing c seen with
  | nil => exact ⟨[], c, seen, rfl, .refl hc, by simp, by simp [ht]⟩
  | cons x t ih =>
    simp only [reach]
    split
    · rename_i hx
      obtain ⟨w, c', others, hr, hp, ha, hs⟩ := ih (Cursor.placed_past hc ht) (c :: seen) rfl
      refine ⟨x :: w, c', others, hr, (Cursor.Past.one hc ht).trans hp, ?_, hs⟩
      simpa [hx] using ha
    · rename_i hx
      exact ⟨[], c, seen, rfl, .refl hc, by simp, by simpa [ht] using hx⟩

theorem run : Finishes (walk (.run mark true accepts)) fun b w r =>
    Reads (.times 0 none true (.char accepts)) b w r [] ∧ ∀ x ∈ r.head?, accepts x = false := by
  intro k c captures memo stop captures' hk hc h
  simp only [walk, if_true] at h
  replace h := once_found h
  obtain ⟨w, c', others, hr, hp, ha, hs⟩ := reach_eq accepts hc []
  obtain ⟨stop', cs', hf⟩ := hk c' captures memo
  simp only [hr, fromEach, hf] at h
  exact ⟨w, c', captures, memo, hp, ⟨.run ha, hs⟩, hf.trans h⟩

theorem compile (p : Pattern) (s : Site) : Finishes (Program.compile p s).1.walk p.Settles := by
  induction p generalizing s with
  | seq a b _ ihb =>
    exact (Consumes.compile a s).compFinishes (ihb _) fun hu hv => ⟨_, _, rfl, hu.spells, hv⟩
  | alt a b iha ihb => exact (iha s.marked).alt (ihb _) id
  | capture i a ih => exact (ih s).capture
  | times least most greedy a ih =>
    rcases settles_times least most greedy a with ⟨accepts, rfl, rfl, rfl⟩ | hs
    · cases least with
      | zero => exact run.mono fun h => ⟨h.1.spells, h.2⟩
      | succ least =>
        refine (Consumes.copies (fun _ => .char) true _ (least + 1) s).compFinishes run ?_
        intro b u v r gs hu hv
        have hall : Reads (.times (least + 1 + 0) none true (.char accepts)) b (u ++ v) r _ :=
          hu.further hv.1
        exact ⟨hall.spells, hv.2⟩
    · rw [hs]
      exact (Consumes.compile _ s).finishes
  | _ => exact (Consumes.compile _ s).finishes

end Finishes

end Wikitext
