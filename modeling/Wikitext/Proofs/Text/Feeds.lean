import Wikitext.Proofs.Text.Blank
import Wikitext.Proofs.Text.Division

/-!
# Words on lines of their own

No word between brackets comes into being at a line feed. So a text that is put together of words
and line feeds has these words, and line feeds in its gaps (`Woven.divided`).
-/

namespace Wikitext

/-- Line feeds alone. -/
def feeds (n : Nat) : Text := List.replicate n '\n'

theorem mem_feeds (h : c ∈ feeds n) : c = '\n' := List.eq_of_mem_replicate h

theorem blank_feeds (n : Nat) : Blank (feeds n) := fun c hc => by
  rw [mem_feeds hc]
  decide

theorem tame_feeds {o c : Char} (hc : c ≠ '\n') (n : Nat) : Tame o c (feeds n) := by
  refine .inr ⟨fun h => ?_, fun h => ?_⟩
  · exact hc (mem_feeds (h.subset List.mem_cons_self))
  · exact hc (mem_feeds (List.mem_of_head? h))

/-- No word ends at a line feed. -/
def Capped (L : Text → Prop) : Prop := ∀ w, L w → ∃ x c, w = x ++ [c] ∧ c ≠ '\n'

theorem capped_enclosed {o c : Char} (hc : c ≠ '\n') (hL : ∀ w, L w → Enclosed o c w) : Capped L := by
  intro w hw
  cases hL w hw with
  | @intro x => exact ⟨o :: o :: (x ++ [c]), c, by simp, hc⟩

section
variable {L : Text → Prop} (hL : Capped L)
include hL

theorem Capped.not_feeds (n : Nat) : ¬ L (feeds n) := by
  intro h
  obtain ⟨x, c, he, hc⟩ := hL _ h
  exact hc (mem_feeds (he ▸ List.mem_append_right x (List.mem_singleton_self c)))

theorem Capped.append_feeds (h : Free L t) (n : Nat) : Free L (t ++ feeds n) := by
  rintro w hw ⟨a, b, he⟩
  obtain ⟨x, c, rfl, hc⟩ := hL w hw
  have he' : (a ++ x) ++ (c :: b) = t ++ feeds n := by simpa using he
  rcases List.append_eq_append_iff.mp he' with ⟨k, rfl, hk⟩ | ⟨k, -, hk⟩
  · cases k with
    | nil => exact hc (mem_feeds (n := n) (by rw [← List.nil_append (feeds n), ← hk]; simp))
    | cons d k =>
      obtain ⟨rfl, -⟩ := List.cons.inj hk
      exact h _ hw ⟨a, k, by simp⟩
  · exact hc (mem_feeds (hk ▸ List.mem_append_right k List.mem_cons_self))

end

-- -----------------------------------------------------------------------------------------
-- Words and line feeds
-- -----------------------------------------------------------------------------------------

/-- The parts of a text that is put together of words `ws` with line feeds between them. -/
inductive Woven : List Text → List Text → Prop
  | nil : Woven [] []
  | feeds (n : Nat) : Woven vs ws → Woven (feeds n :: vs) ws
  | word (w : Text) : Woven vs ws → Woven (w :: vs) (w :: ws)

/-- The text is put together of words `ws` with line feeds between them. -/
def Spread (ws : List Text) (t : Text) : Prop := ∃ vs, Woven vs ws ∧ t = vs.flatten

namespace Woven

theorem append (h : Woven vs ws) (h' : Woven vs' ws') : Woven (vs ++ vs') (ws ++ ws') := by
  induction h with
  | nil => exact h'
  | feeds n _ ih => exact ih.feeds n
  | word w _ ih => exact ih.word w

theorem mem (h : Woven vs ws) (hv : v ∈ vs) : v ∈ ws ∨ ∃ n, v = Wikitext.feeds n := by
  induction h with
  | nil => cases hv
  | feeds n _ ih =>
    rcases List.mem_cons.mp hv with rfl | hv
    · exact .inr ⟨n, rfl⟩
    · exact ih hv
  | word w _ ih =>
    rcases List.mem_cons.mp hv with rfl | hv
    · exact .inl List.mem_cons_self
    · exact (ih hv).imp_left (List.mem_cons_of_mem w)

theorem filter {p : Text → Bool} (hp : ∀ n, p (Wikitext.feeds n) = false) (h : Woven vs ws) :
    vs.filter p = ws.filter p := by
  induction h with
  | nil => rfl
  | feeds n _ ih => rw [List.filter_cons_of_neg (by simp [hp]), ih]
  | word w _ ih => rw [List.filter_cons, List.filter_cons, ih]

end Woven

namespace Spread

theorem nil : Spread [] [] := ⟨[], .nil, rfl⟩

theorem word (w : Text) : Spread [w] w := ⟨[w], .word w .nil, by simp⟩

theorem feeds (n : Nat) : Spread [] (Wikitext.feeds n) := ⟨[_], .feeds n .nil, by simp⟩

theorem append (h : Spread ws t) (h' : Spread ws' t') : Spread (ws ++ ws') (t ++ t') := by
  obtain ⟨vs, hvs, rfl⟩ := h
  obtain ⟨vs', hvs', rfl⟩ := h'
  exact ⟨vs ++ vs', hvs.append hvs', List.flatten_append.symm⟩

theorem join (n : Nat) (h : List.Forall₂ Spread wss ts) :
    Spread wss.flatten (Text.join (Wikitext.feeds n) ts) := by
  induction h with
  | nil => exact nil
  | @cons ws t wss ts hw h ih =>
    cases h with
    | nil => simpa [Text.join] using hw
    | cons =>
      have hfirst := hw.append (feeds n)
      rw [List.append_nil] at hfirst
      exact hfirst.append ih

end Spread

/-- By induction on the parts, with the gap in front of them. -/
theorem Woven.divided {L : Text → Prop} (hL : Capped L) (hnil : Free L []) (h : Woven vs ws)
    (hws : ∀ w ∈ ws, L w) (hg : Free L g) : ∃ parts tail b others,
      Divided L (g ++ vs.flatten) parts tail ∧ parts.map (·.2) = ws ∧
        gaps parts tail = (g ++ b) :: others ∧ Blank b ∧ Blank others.flatten := by
  induction h generalizing g with
  | nil => exact ⟨[], g, [], [], by simpa using .nil hg, rfl, by simp [gaps], blank_nil, blank_nil⟩
  | feeds n h ih =>
    obtain ⟨parts, tail, b, others, hdiv, hwords, hgaps, hb, hothers⟩ := ih hws (hL.append_feeds hg n)
    refine ⟨parts, tail, Wikitext.feeds n ++ b, others, ?_, hwords, ?_, (blank_feeds n).append hb, hothers⟩
    · simpa using hdiv
    · simpa using hgaps
  | word w h ih =>
    rw [List.forall_mem_cons] at hws
    obtain ⟨parts, tail, b, others, hdiv, hwords, hgaps, hb, hothers⟩ := ih hws.2 hnil
    refine ⟨(g, w) :: parts, tail, [], b :: others, ?_, by simp [hwords], ?_, blank_nil, ?_⟩
    · exact .cons hg hws.1 hdiv
    · rw [gaps, List.map_cons, List.cons_append, ← gaps, hgaps]
      simp
    · simpa using hb.append hothers

end Wikitext
