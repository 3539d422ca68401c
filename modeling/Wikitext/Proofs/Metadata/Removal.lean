import Wikitext.Proofs.Fix.Metadata
import Wikitext.Proofs.Text.Blank
import Wikitext.Proofs.Text.Division

/-!
# Removing the words of a division

Every word is removed with some of the white space beside it, and nothing else is (`Remains`). So all
the other characters stay, in front of the first word all of the text stays but for white space at
its end, and so do texts elsewhere that do not begin or end with white space.
-/

namespace Wikitext

variable {L : Text → Prop}

-- -----------------------------------------------------------------------------------------
-- White space beside words
-- -----------------------------------------------------------------------------------------

/-- The text neither begins nor ends with white space. -/
def Firm (w : Text) : Prop :=
  (∃ c ∈ w.head?, Chars.isBlank c = false) ∧ ∃ c ∈ w.getLast?, Chars.isBlank c = false

/-- No word begins or ends with white space. -/
def Solid (L : Text → Prop) : Prop := ∀ w, L w → Firm w

theorem Enclosed.firm (ho : Chars.isBlank o = false) (hc : Chars.isBlank c = false)
    (h : Enclosed o c w) : Firm w := by
  refine ⟨⟨o, h.head, ho⟩, c, ?_, hc⟩
  obtain ⟨x, rfl⟩ := h.suffix
  simp

theorem Firm.behind_blank (hw : Firm w) (hb : Blank b) (h : b ++ r = u ++ (w ++ s)) :
    ∃ k, u = b ++ k ∧ r = k ++ (w ++ s) := by
  rcases List.append_eq_append_iff.mp h with ⟨k, rfl, hk⟩ | ⟨k, rfl, hk⟩
  · exact ⟨k, rfl, hk⟩
  · cases k with
    | nil => exact ⟨[], by simp, hk.symm⟩
    | cons d k =>
      obtain ⟨⟨c, hc, hsolid⟩, -⟩ := hw
      obtain rfl : c = d := by
        have hhead := congrArg List.head? hk
        rw [List.head?_append, hc] at hhead
        simpa using hhead
      rw [hb c (by simp)] at hsolid
      cases hsolid

theorem Firm.before_blank (hw : Firm w) (hb : Blank b) (h : u ++ b = a ++ (w ++ s)) :
    ∃ k, s = k ++ b ∧ u = a ++ (w ++ k) := by
  rw [← List.append_assoc] at h
  rcases List.append_eq_append_iff.mp h with ⟨k, hk, rfl⟩ | ⟨k, rfl, hk⟩
  · rcases List.eq_nil_or_concat k with rfl | ⟨k, d, rfl⟩
    · exact ⟨[], by simp, by simpa using hk.symm⟩
    · obtain ⟨-, c, hc, hsolid⟩ := hw
      obtain rfl : c = d := by
        have hlast := congrArg List.getLast? hk
        rw [List.getLast?_append, hc] at hlast
        simpa using hlast
      rw [hb c (by simp)] at hsolid
      cases hsolid
  · exact ⟨k, hk, by rw [List.append_assoc]⟩

/-- White space at the start belongs to the first gap. -/
theorem Divided.drop_blank (hL : Solid L) (hb : Blank b) (h : Divided L (b ++ r) parts tail) :
    ∃ parts' tail' u others, Divided L r parts' tail' ∧ gaps parts tail = (b ++ u) :: others ∧
      gaps parts' tail' = u :: others ∧
        ∀ n, stretchesFrom n parts = stretchesFrom (n + b.length) parts' := by
  generalize ht : b ++ r = t at h
  cases h with
  | nil hu =>
    subst ht
    exact ⟨[], r, r, [], .nil (hu.within (List.suffix_append b r).isInfix), rfl, rfl, fun _ => rfl⟩
  | @cons u w r' parts tail hu hw h =>
    obtain ⟨k, rfl, rfl⟩ := (hL w hw).behind_blank hb ht
    refine ⟨(k, w) :: parts, tail, k, gaps parts tail,
      .cons (hu.within (List.suffix_append b k).isInfix) hw h, rfl, rfl, fun n => ?_⟩
    simp only [stretchesFrom, List.length_append, Nat.add_assoc]

namespace Stretch

-- -----------------------------------------------------------------------------------------
-- One word
-- -----------------------------------------------------------------------------------------

/-- A word is removed with white space beside it. -/
theorem removeOne_word (ht : t = pre ++ (u ++ (w ++ r))) :
    ∃ k c b r', u = k ++ c ∧ Blank c ∧ r = b ++ r' ∧ Blank b ∧
      removeOne t pre.length ⟨pre.length + u.length, pre.length + u.length + w.length⟩ =
        (k, pre.length + u.length + w.length + b.length) := by
  have hlen : t.length = pre.length + u.length + w.length + r.length := by
    rw [ht]
    simp only [List.length_append]
    omega
  have hword : Within t ⟨pre.length + u.length, pre.length + u.length + w.length⟩ :=
    ⟨Nat.le_add_right _ _, by dsimp only; omega⟩
  rcases removeOne_cases hword pre.length with ⟨hpass, -⟩ | ⟨taken, hmodest, hle, hone⟩
  · exact absurd hpass (by dsimp only; omega)
  · obtain ⟨hbefore, hbehind⟩ := hmodest.beside.blank
    have hbefore' := hmodest.before
    have hbehind' := hmodest.behind
    dsimp only at hbefore hbehind hbefore' hbehind'
    have hu : u = Text.slice t pre.length (pre.length + u.length) := by rw [ht, slice_append]
    have hr : r = t.drop (pre.length + u.length + w.length) := by
      rw [ht]
      simp [← List.append_assoc, ← List.length_append]
    refine ⟨_, _, _, t.drop taken.stop, hu.trans (slice_cut t hle hbefore'), hbefore,
      hr.trans (drop_eq_slice t hbehind'), hbehind, ?_⟩
    rw [hone, length_slice hmodest.inside, Nat.add_sub_cancel' hbehind']

-- -----------------------------------------------------------------------------------------
-- All words
-- -----------------------------------------------------------------------------------------

/-- What stays of a text with these gaps: all of them, but for white space beside the words that stood
between them. -/
inductive Remains : List Text → Text → Prop
  | last : Remains [u] u
  | cons : Blank c → Blank b → Remains (u :: us) out → Remains ((k ++ c) :: (b ++ u) :: us) (k ++ out)

namespace Remains

theorem visible (h : Remains us out) : Text.visible out = Text.visible us.flatten := by
  induction h with
  | last => simp
  | cons hc hb _ ih => simp [ih, Text.visible_eq_nil.mpr hc, Text.visible_eq_nil.mpr hb]

/-- In front of the first word only white space at the end is removed. -/
theorem first (h : Remains (u :: us) out) : ∃ k c rest, u = k ++ c ∧ Blank c ∧ out = k ++ rest ∧
    Text.visible rest = Text.visible us.flatten := by
  cases h with
  | last => exact ⟨u, [], [], by simp, blank_nil, by simp, rfl⟩
  | cons hc hb h =>
    exact ⟨_, _, _, rfl, hc, rfl, by simp [h.visible, Text.visible_eq_nil.mpr hb]⟩

theorem infix_of_mem (hw : Firm w) (h : Remains us out) (hu : u ∈ us) (hi : w <:+: u) :
    w <:+: out := by
  induction h generalizing u with
  | last =>
    rw [List.mem_singleton] at hu
    exact hu ▸ hi
  | @cons c b v us out k hc hb _ ih =>
    have hout : out <:+: k ++ out := (List.suffix_append k out).isInfix
    obtain ⟨a, s, he⟩ := hi
    rw [List.append_assoc] at he
    rcases List.mem_cons.mp hu with rfl | hu
    · obtain ⟨x, -, rfl⟩ := hw.before_blank hc he.symm
      exact ⟨a, x ++ out, by simp⟩
    · rcases List.mem_cons.mp hu with rfl | hu
      · obtain ⟨x, -, rfl⟩ := hw.behind_blank hb he.symm
        exact (ih List.mem_cons_self ⟨x, s, by simp⟩).trans hout
      · exact (ih (List.mem_cons_of_mem v hu) ⟨a, s, by simpa using he⟩).trans hout

end Remains

/-- By induction on the words, with what has been passed over before them. -/
theorem remains_removeFrom (hL : Solid L) (h : Divided L r parts tail) (ht : t = pre ++ r) :
    Remains (gaps parts tail) (removeFrom t pre.length (stretchesFrom pre.length parts)) := by
  induction hn : parts.length generalizing pre r parts tail with
  | zero =>
    obtain rfl := List.eq_nil_of_length_eq_zero hn
    obtain rfl : r = tail := h.text_eq
    have hall : Remains [r] r := .last
    simpa [removeFrom, gaps, stretchesFrom, ht] using hall
  | succ n ih =>
    cases h with
    | nil => cases hn
    | @cons u w r parts tail hu hw h =>
      obtain ⟨k, c, b, r, rfl, hc, rfl, hb, hone⟩ := removeOne_word ht
      obtain ⟨parts', tail', v, others, h', hgaps, hgaps', hstretches⟩ := h.drop_blank hL hb
      have hlen : parts'.length = n := by
        have hlen := congrArg List.length hgaps
        have hlen' := congrArg List.length hgaps'
        simp only [gaps, List.length_append, List.length_map, List.length_cons] at hlen hlen' hn
        omega
      have hpre : pre.length + (k ++ c).length + w.length + b.length =
          (pre ++ (k ++ c) ++ w ++ b).length := by simp only [List.length_append]
      have ht' : t = (pre ++ (k ++ c) ++ w ++ b) ++ r := by simp [ht]
      have hrest := ih h' ht' hlen
      rw [← hpre, ← hstretches, hgaps'] at hrest
      have hall := Remains.cons (k := k) hc hb hrest
      rw [← hgaps] at hall
      rw [stretchesFrom, removeFrom, hone]
      exact hall

theorem remains_removeAll (hL : Solid L) (h : Divided L t parts tail) :
    Remains (gaps parts tail) (removeAll t (stretchesFrom 0 parts)) :=
  remains_removeFrom hL h (List.nil_append t).symm

-- -----------------------------------------------------------------------------------------
-- What no stretch covers
-- -----------------------------------------------------------------------------------------

theorem outsideFrom_divided (h : Divided L t parts tail) (n : Nat) :
    outsideFrom n t (stretchesFrom n parts) = (gaps parts tail).flatten := by
  induction h generalizing n with
  | @nil u =>
    rw [stretchesFrom, outsideFrom_eq_self (by simp)]
    simp [gaps]
  | @cons u w r parts tail hu hw h ih =>
    have hgap : outsideFrom n u (stretchesFrom n ((u, w) :: parts)) = u := by
      refine outsideFrom_eq_self fun i _ hi s hs => ?_
      have hle : n + u.length ≤ s.start := by
        rcases List.mem_cons.mp hs with rfl | hs
        · exact Nat.le_refl _
        · exact (Nat.le_add_right _ _).trans (le_of_mem_stretchesFrom hs)
      simp only [covers, Bool.and_eq_false_iff, decide_eq_false_iff_not]
      omega
    have hword : outsideFrom (n + u.length) w (stretchesFrom n ((u, w) :: parts)) = [] := by
      refine outsideFrom_eq_nil List.mem_cons_self fun i hi hi' => ?_
      simp only [covers, Bool.and_eq_true, decide_eq_true_eq]
      omega
    have hrest : outsideFrom (n + u.length + w.length) r (stretchesFrom n ((u, w) :: parts)) =
        (gaps parts tail).flatten := by
      rw [stretchesFrom, outsideFrom_cons, ih]
      intro i hi
      simp only [covers, Bool.and_eq_false_iff, decide_eq_false_iff_not]
      omega
    rw [outsideFrom_append, outsideFrom_append, hgap, hword, hrest]
    rfl

/-- What stands outside the words is what stands in the gaps. -/
theorem outside_divided (hsep : Separate L) (h : Divided L t parts tail)
    (hss : ∀ s, s ∈ ss ↔ Occurs L t s) : outside t ss = (gaps parts tail).flatten := by
  rw [outside_congr fun s => (hss s).trans (h.mem_stretches hsep).symm]
  exact outsideFrom_divided h 0

end Stretch

end Wikitext
