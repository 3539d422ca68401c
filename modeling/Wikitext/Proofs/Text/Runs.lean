import Mathlib.Data.List.Forall2
import Mathlib.Data.List.Infix
import Mathlib.Data.List.SplitBy
import Wikitext.Proofs.Pattern.Language
import Wikitext.Proofs.Text.Kinds

/-!
# Words and gaps by turns

A text is made of runs: words and the gaps between them by turns. The runs of a text that is cut
where a word meets a gap are those of its parts (`runs_append`), and runs that go by turns are the
runs of the text they make up (`Alternating.runs_flatten`). A stretch of runs that begins and ends
with a word (`Clause`) can be cut out wherever it has gaps around it.

A relation says which stretches of a list are rewritten, and to what. They are rewritten from the left
to the right (`Rewritten`). Where no stretch is left that would become another one (`Finished`),
rewriting changes nothing. A list is finished once it has been rewritten, if stretches do not begin
within each other and what is written anew makes no new stretches: either because each element only
becomes one of its kind (`Rewritten.finished`), or because the new elements occur in no stretch
(`Rewritten.finished_of_fresh`).
-/

namespace Wikitext.Text

open Chars (inWord)

-- -----------------------------------------------------------------------------------------
-- Runs
-- -----------------------------------------------------------------------------------------

/-- Some characters, which are all word characters, or none of them is. -/
def Run (word : Bool) (s : Text) : Prop := s ≠ [] ∧ ∀ c ∈ s, Chars.isWord c = word

/-- A word meets a gap, unless one of the texts is empty. -/
def Cut (a b : Text) : Prop := ∀ x ∈ a.getLast?, ∀ y ∈ b.head?, Chars.isWord x ≠ Chars.isWord y

def runs (t : Text) : List Text := t.splitBy fun x y => Chars.isWord x == Chars.isWord y

theorem flatten_runs (t : Text) : (runs t).flatten = t := List.flatten_splitBy _ t

theorem eq_of_runs (h : runs t = runs t') : t = t' := by
  rw [← flatten_runs t, h, flatten_runs]

theorem runs_run (h : Run k s) : runs s = [s] :=
  List.splitBy_of_isChain h.1 <| List.Pairwise.isChain <|
    List.pairwise_of_forall_mem_list fun x hx y hy => by rw [h.2 x hx, h.2 y hy, BEq.rfl]

theorem runs_append (h : Cut a b) : runs (a ++ b) = runs a ++ runs b :=
  List.splitBy_append fun x hx y hy => by simpa using h x hx y hy

theorem Run.head (h : Run k s) (r : Text) : inWord (s ++ r).head? = k := by
  obtain ⟨c, s, rfl⟩ := List.exists_cons_of_ne_nil h.1
  simpa using h.2 c (by simp)

theorem Run.lastOf (h : Run k s) (b : Option Char) : inWord (lastOf b s) = k := by
  obtain ⟨hne, hall⟩ := h
  obtain ⟨s, c, rfl⟩ := List.eq_nil_or_concat s |>.resolve_left hne
  simpa using hall c (by simp)

theorem lastOf_eq (b : Option Char) (w : Text) : lastOf b w = w.getLast?.or b := by
  rcases List.eq_nil_or_concat w with rfl | ⟨w, c, rfl⟩ <;> simp

theorem Run.ne (h : Run true s) (h' : Run false s') : s ≠ s' := by
  rintro rfl
  have hword := h.head []
  rw [h'.head] at hword
  cases hword

theorem Run.cut (ha : Run k a) (hb : Run (!k) b) : Cut a b := by
  intro x hx y hy
  rw [ha.2 x (List.mem_of_mem_getLast? hx), hb.2 y (List.mem_of_mem_head? hy)]
  cases k <;> decide

-- -----------------------------------------------------------------------------------------
-- Runs by turns
-- -----------------------------------------------------------------------------------------

structure Alternating (L : List Text) : Prop where
  run : ∀ s ∈ L, ∃ k, Run k s
  chain : L.IsChain Cut

theorem alternating_runs (t : Text) : Alternating (runs t) where
  run s hs := by
    have hne := List.ne_nil_of_mem_splitBy hs
    have hchain := List.isChain_of_mem_splitBy hs
    have htrans : IsTrans Char fun x y => (Chars.isWord x == Chars.isWord y) = true :=
      ⟨fun x y z hxy hyz => by simp_all⟩
    obtain ⟨c, s, rfl⟩ := List.exists_cons_of_ne_nil hne
    refine ⟨Chars.isWord c, hne, List.forall_mem_cons.mpr ⟨rfl, fun x hx => ?_⟩⟩
    have hall := List.isChain_iff_pairwise.mp hchain
    exact (beq_iff_eq.mp (List.rel_of_pairwise_cons hall hx)).symm
  chain := by
    refine (List.isChain_getLast_head_splitBy _ t).imp fun a b h x hx y hy => ?_
    obtain ⟨ha, hb, h⟩ := h
    rw [List.getLast?_eq_some_getLast ha] at hx
    rw [List.head?_eq_some_head hb] at hy
    cases hx
    cases hy
    simpa using h

namespace Alternating

theorem append_right (h : Alternating (A ++ B)) : Alternating B :=
  ⟨fun s hs => h.run s (List.mem_append_right A hs), h.chain.right_of_append⟩

theorem cut (h : Alternating (A ++ B)) : Cut A.flatten B.flatten := by
  intro x hx y hy
  rcases List.eq_nil_or_concat A with rfl | ⟨A, a, rfl⟩
  · cases hx
  cases B with
  | nil => cases hy
  | cons b B =>
    obtain ⟨k, ha, -⟩ := h.run a (by simp)
    obtain ⟨k', hb, -⟩ := h.run b (by simp)
    obtain ⟨a, x', rfl⟩ := List.eq_nil_or_concat a |>.resolve_left ha
    obtain ⟨y', b, rfl⟩ := List.exists_cons_of_ne_nil hb
    have hmeet := List.isChain_append.mp h.chain |>.2.2 (a.concat x') (by simp) (y' :: b) (by simp)
    exact hmeet x (by simpa using hx) y (by simpa using hy)

theorem runs_flatten (h : Alternating L) : runs L.flatten = L := by
  induction L with
  | nil => rfl
  | cons s L ih =>
    obtain ⟨k, hs⟩ := h.run s List.mem_cons_self
    have hcut : Cut [s].flatten L.flatten := Alternating.cut h
    rw [List.flatten_singleton] at hcut
    rw [List.flatten_cons, runs_append hcut, runs_run hs, ih (Alternating.append_right (A := [s]) h),
      List.singleton_append]

end Alternating

-- -----------------------------------------------------------------------------------------
-- Runs between words
-- -----------------------------------------------------------------------------------------

/-- Runs by turns, of which the first and the last are words. -/
structure Clause (W : List Text) : Prop extends Alternating W where
  first : ∃ s ∈ W.head?, Run true s
  last : ∃ s ∈ W.getLast?, Run true s

namespace Clause

theorem single (hs : Run true s) : Clause [s] where
  run _ h := ⟨true, by rwa [List.mem_singleton.mp h]⟩
  chain := .singleton s
  first := ⟨s, rfl, hs⟩
  last := ⟨s, rfl, hs⟩

theorem cons (hs : Run true s) (hg : Run false g) (h : Clause W) : Clause (s :: g :: W) where
  run r hr := by
    rcases List.mem_cons.mp hr with rfl | hr
    · exact ⟨true, hs⟩
    rcases List.mem_cons.mp hr with rfl | hr
    · exact ⟨false, hg⟩
    · exact h.run r hr
  chain := by
    obtain ⟨s', hs', hword⟩ := h.first
    obtain ⟨W, rfl⟩ := List.head?_eq_some_iff.mp hs'
    exact .cons_cons (hs.cut hg) (.cons_cons (hg.cut hword) h.chain)
  first := ⟨s, rfl, hs⟩
  last := by
    obtain ⟨s', hs', hword⟩ := h.last
    obtain ⟨W, rfl⟩ := List.getLast?_eq_some_iff.mp hs'
    exact ⟨s', List.getLast?_concat (l := s :: g :: W), hword⟩

theorem head (h : Clause W) (r : Text) : inWord (W.flatten ++ r).head? = true := by
  obtain ⟨s, hs, hrun⟩ := h.first
  obtain ⟨W, rfl⟩ := List.head?_eq_some_iff.mp hs
  rw [List.flatten_cons, List.append_assoc]
  exact hrun.head _

theorem lastOf (h : Clause W) (b : Option Char) :
    inWord (lastOf b W.flatten) = true := by
  obtain ⟨s, hs, hrun⟩ := h.last
  obtain ⟨W, rfl⟩ := List.getLast?_eq_some_iff.mp hs
  rw [List.flatten_append, List.flatten_singleton, lastOf_append]
  exact hrun.lastOf _

theorem cut_left (h : Clause W) (hu : inWord (Wikitext.lastOf b u) = false) (r : Text) :
    Cut u (W.flatten ++ r) := by
  intro x hx y hy heq
  have hhead := h.head r
  rw [lastOf_eq, hx] at hu
  rw [hy] at hhead
  simp_all

theorem cut_right (h : Clause W) (hr : inWord r.head? = false) : Cut W.flatten r := by
  intro x hx y hy heq
  have hlast := h.lastOf none
  rw [lastOf_eq, hx] at hlast
  rw [hy] at hr
  simp_all

/-- The runs of a text that a clause is part of. -/
theorem runs_between (h : Clause W) (hu : inWord (Wikitext.lastOf b u) = false)
    (hr : inWord r.head? = false) :
    runs (u ++ (W.flatten ++ r)) = runs u ++ (W ++ runs r) := by
  rw [runs_append (h.cut_left hu r), runs_append (h.cut_right hr), h.runs_flatten]

end Clause

end Wikitext.Text

namespace Wikitext

variable {α : Type*}

-- -----------------------------------------------------------------------------------------
-- Rewriting
-- -----------------------------------------------------------------------------------------

inductive Rewritten (R : List α → List α → Prop) : List α → List α → Prop
  | nil : Rewritten R [] []
  | keep : (∀ W W' B, c :: L = W ++ B → ¬ R W W') → Rewritten R L L' →
      Rewritten R (c :: L) (c :: L')
  | hit : R W W' → Rewritten R L L' → Rewritten R (W ++ L) (W' ++ L')

/-- Every stretch of the list that would be rewritten is what it would become. -/
def Finished (R : List α → List α → Prop) (L : List α) : Prop :=
  ∀ W W', R W W' → W <:+: L → W' = W

variable {R Q : List α → List α → Prop} {L L' : List α}

namespace Rewritten

theorem keeps (h : Rewritten R L L')
    (hU : ∀ A K, U = A ++ K → K ≠ [] → ∀ W W' B, K ++ L = W ++ B → ¬ R W W') :
    Rewritten R (U ++ L) (U ++ L') := by
  induction U with
  | nil => exact h
  | cons c U ih =>
    refine .keep (hU [] (c :: U) rfl (by simp)) (ih fun A K hA hK => ?_)
    exact hU (c :: A) K (by rw [hA, List.cons_append]) hK

theorem eq_self (h : Rewritten R L L') (hL : Finished R L) : L' = L := by
  induction h with
  | nil => rfl
  | keep _ _ ih => rw [ih fun W W' hR hW => hL W W' hR (List.infix_cons hW)]
  | @hit W W' L L' hR _ ih =>
    rw [hL W W' hR (List.prefix_append W L).isInfix,
      ih fun V V' hV hin => hL V V' hV (hin.trans (List.suffix_append W L).isInfix)]

end Rewritten

-- -----------------------------------------------------------------------------------------
-- Elements that become others of their kind
-- -----------------------------------------------------------------------------------------

variable {S : α → α → Prop}

theorem exists_of_forall₂_append {A B L : List α} (h : List.Forall₂ S L (A ++ B)) :
    ∃ A₀ B₀, L = A₀ ++ B₀ ∧ List.Forall₂ S A₀ A ∧ List.Forall₂ S B₀ B :=
  ⟨_, _, (List.take_append_drop A.length L).symm, List.forall₂_take_append L A B h,
    List.forall₂_drop_append L A B h⟩

/-- What the relation does with elements, and where it finds stretches among those that have become
others. -/
structure Cellwise (R : List α → List α → Prop) (S : α → α → Prop) : Prop where
  refl : ∀ c, S c c
  cells : R W W' → List.Forall₂ S W W'

theorem Rewritten.forall₂ (h : Rewritten R L L') (hR : Cellwise R S) : List.Forall₂ S L L' := by
  induction h with
  | nil => exact .nil
  | keep _ _ ih => exact .cons (hR.refl _) ih
  | hit hW _ ih => exact List.rel_append (hR.cells hW) ih

/-- A stretch among elements that have become others was one before, and finished only if it is now. -/
def Comes (R : List α → List α → Prop) (S : α → α → Prop) : Prop :=
  ∀ {W W' V'}, R W' V' → List.Forall₂ S W W' → ∃ V, R W V ∧ (V = W → V' = W')

theorem Finished.carried (h : Finished R L) (hS : List.Forall₂ S L L') (hR : Comes R S) :
    Finished R L' := by
  rintro W' V' hV' ⟨A, B, rfl⟩
  obtain ⟨_, B₀, rfl, hA, -⟩ := exists_of_forall₂_append hS
  obtain ⟨A₀, W, rfl, -, hW⟩ := exists_of_forall₂_append hA
  obtain ⟨V, hV, hfinished⟩ := hR hV' hW
  exact hfinished (h W V hV ⟨A₀, B₀, rfl⟩)

/-- No stretch begins within another one that has been rewritten. -/
structure Unnested (R : List α → List α → Prop) : Prop where
  ne_nil : R W W' → W ≠ []
  length : R W W' → R V V' → W'.length = V.length
  again : R W W' → R W' V → V = W'
  inside : R W W' → K <:+ W'.tail → K ≠ [] → R V V' → K ++ C ≠ V ++ B

theorem Rewritten.finished (h : Rewritten R L L') (hR : Cellwise R S) (hcomes : Comes R S)
    (hapart : Unnested R) : Finished R L' := by
  intro V V' hV hin
  induction h with
  | nil => exact absurd (List.infix_nil.mp hin) (hapart.ne_nil hV)
  | @keep c L L' hno hL ih =>
    rcases List.infix_cons_iff.mp hin with ⟨B, hB⟩ | hin
    · have hall := (Rewritten.keep hno hL).forall₂ hR
      rw [← hB] at hall
      obtain ⟨W, B₀, hL₀, hW, -⟩ := exists_of_forall₂_append hall
      obtain ⟨W', hW', -⟩ := hcomes hV hW
      exact absurd hW' (hno W W' B₀ hL₀)
    · exact ih hin
  | @hit W W' L L' hW hL ih =>
    obtain ⟨A, B, hB⟩ := hin
    rw [List.append_assoc] at hB
    rcases List.append_eq_append_iff.mp hB with ⟨K, rfl, hK⟩ | ⟨K, rfl, hK⟩
    · by_cases hA : A = []
      · subst hA
        rw [List.nil_append] at hW
        obtain ⟨rfl, -⟩ := List.append_inj hK (hapart.length hW hV).symm
        exact hapart.again hW hV
      · by_cases hK₀ : K = []
        · subst hK₀
          exact ih ⟨[], B, by simpa using hK⟩
        · obtain ⟨a, A, rfl⟩ := List.exists_cons_of_ne_nil hA
          exact absurd hK.symm (hapart.inside hW (List.suffix_append A K) hK₀ hV)
    · exact ih ⟨K, B, by rw [List.append_assoc, hK]⟩

-- -----------------------------------------------------------------------------------------
-- New elements that occur in no stretch
-- -----------------------------------------------------------------------------------------

variable {New : α → Prop}

/-- A stretch becomes one new element. -/
def Joining (R : List α → List α → Prop) (New : α → Prop) : Prop :=
  ∀ {W W'}, R W W' → ∃ c, W' = [c] ∧ New c

/-- No new element occurs in a stretch. -/
def Lacks (R : List α → List α → Prop) (New : α → Prop) : Prop :=
  ∀ {W W'}, R W W' → W ≠ [] ∧ ∀ c ∈ W, ¬ New c

theorem Rewritten.prefix_of_joining (h : Rewritten R L L') (hR : Joining R New)
    (hK : ∀ c ∈ K, ¬ New c) (hin : K <+: L') : K <+: L := by
  induction h generalizing K with
  | nil => exact hin
  | keep _ _ ih =>
    cases K with
    | nil => exact List.nil_prefix
    | cons e K =>
      rw [List.cons_prefix_cons] at hin ⊢
      exact ⟨hin.1, ih (fun c hc => hK c (List.mem_cons_of_mem _ hc)) hin.2⟩
  | hit hW _ ih =>
    obtain ⟨c, rfl, hc⟩ := hR hW
    cases K with
    | nil => exact List.nil_prefix
    | cons e K =>
      obtain ⟨rfl, -⟩ := List.cons_prefix_cons.mp hin
      exact absurd hc (hK e List.mem_cons_self)

theorem Rewritten.infix_of_joining (h : Rewritten R L L') (hR : Joining R New)
    (hK : ∀ c ∈ K, ¬ New c) (hin : K <:+: L') : K <:+: L := by
  induction h with
  | nil => exact hin
  | @keep c L L' hno hL ih =>
    rcases List.infix_cons_iff.mp hin with hin | hin
    · exact ((Rewritten.keep hno hL).prefix_of_joining hR hK hin).isInfix
    · exact List.infix_cons (ih hin)
  | @hit W W' L L' hW hL ih =>
    obtain ⟨c, rfl, hc⟩ := hR hW
    rcases List.infix_cons_iff.mp hin with hin | hin
    · exact ((Rewritten.hit hW hL).prefix_of_joining hR hK hin).isInfix
    · exact (ih hin).trans (List.suffix_append W L).isInfix

theorem Finished.of_joining (h : Finished Q L) (hL : Rewritten R L L') (hR : Joining R New)
    (hQ : Lacks Q New) : Finished Q L' := fun W W' hW hin =>
  h W W' hW (hL.infix_of_joining hR (hQ hW).2 hin)

theorem Rewritten.finished_of_fresh (h : Rewritten R L L') (hR : Joining R New) (hlacks : Lacks R New) :
    Finished R L' := by
  intro W W' hW hin
  exfalso
  obtain ⟨hne, hnew⟩ := hlacks hW
  induction h with
  | nil => exact hne (List.infix_nil.mp hin)
  | @keep c L L' hno hL ih =>
    rcases List.infix_cons_iff.mp hin with hin | hin
    · obtain ⟨B, hB⟩ := (Rewritten.keep hno hL).prefix_of_joining hR hnew hin
      exact hno W W' B hB.symm hW
    · exact ih hin
  | @hit V V' L L' hV hL ih =>
    obtain ⟨c, rfl, hc⟩ := hR hV
    rcases List.infix_cons_iff.mp hin with hin | hin
    · obtain ⟨e, W, rfl⟩ := List.exists_cons_of_ne_nil hne
      obtain ⟨rfl, -⟩ := List.cons_prefix_cons.mp hin
      exact hnew e List.mem_cons_self hc
    · exact ih hin

end Wikitext
