import Wikitext.Proofs.Mask.Restore
import Wikitext.Proofs.Pattern.Outline

/-!
# A pass of hiding

A pass puts placeholders in the place of what it has found (`masked`). Nothing can stand in what it
leaves, partly in a placeholder and partly beside it, that neither begins nor ends with a character of
a placeholder (`Firm.infix_cases`). So a part of what is left, cut out between placeholders, stands for
a part of the text that there was before (`Conceals.split`).
-/

namespace Wikitext.Mask

open Pattern

-- -----------------------------------------------------------------------------------------
-- Texts around placeholders
-- -----------------------------------------------------------------------------------------

/-- Neither end of the text can belong to a placeholder. -/
structure Firm (w : Text) : Prop where
  head : ∃ x ∈ w.head?, x ∉ marks
  last : ∃ x ∈ w.getLast?, x ∉ marks

theorem mem_marks_of_mem_placeholder (h : c ∈ placeholder kind n) : c ∈ marks :=
  mem_marks_of_mem_written (isIndex_ofNat n) h

theorem placeholder_ne_nil (kind : Kind) (n : Nat) : placeholder kind n ≠ [] := by
  simp [placeholder, opening]

theorem Firm.ne_nil (h : Firm w) : w ≠ [] := by
  rintro rfl
  obtain ⟨x, hx, -⟩ := h.head
  cases hx

/-- What stands in a text with a placeholder in it stands on one side of the placeholder, or the
placeholder stands in it. -/
theorem Firm.infix_cases (hw : Firm w) (h : w <:+: u ++ (placeholder kind n ++ v)) :
    w <:+: u ∨ w <:+: v ∨ placeholder kind n <:+: w := by
  obtain ⟨a, b, heq⟩ := h
  rw [List.append_assoc] at heq
  rcases begins_or_behind hw.ne_nil heq.symm with ⟨l, rfl, -⟩ | ⟨a', rfl, hrest⟩
  · rw [List.append_assoc, List.append_cancel_left_eq] at heq
    rcases prefix_append_cases ⟨b, heq⟩ with hl | ⟨q, rfl, hq⟩
    · exact .inl (hl.isInfix.trans (List.suffix_append a l).isInfix)
    · rcases prefix_append_cases hq with hq | ⟨q, rfl, -⟩
      · obtain ⟨x, hx, hmark⟩ := hw.last
        cases hlast : q.getLast? with
        | none =>
          obtain rfl := List.getLast?_eq_none_iff.mp hlast
          rw [List.append_nil]
          exact .inl (List.suffix_append a l).isInfix
        | some y =>
          rw [List.getLast?_append, hlast, Option.some_or, Option.mem_some_iff] at hx
          subst hx
          exact absurd (mem_marks_of_mem_placeholder (hq.subset (List.mem_of_getLast? hlast))) hmark
      · exact .inr (.inr ⟨l, q, by simp⟩)
  · rcases begins_or_behind hw.ne_nil hrest with ⟨l, hl, hhead⟩ | ⟨a', -, rfl⟩
    · obtain ⟨x, hx, hmark⟩ := hw.head
      have hmem : x ∈ placeholder kind n :=
        hl ▸ List.mem_append_right a' (List.mem_of_head? (hhead.trans hx))
      exact absurd (mem_marks_of_mem_placeholder hmem) hmark
    · exact .inr (.inl ⟨a', b, by simp⟩)

theorem infix_of_border (hb : Border u v) (h : placeholder kind n <:+: u ++ v) :
    placeholder kind n <:+: u ∨ placeholder kind n <:+: v := by
  obtain ⟨a, b, heq⟩ := h
  rw [List.append_assoc] at heq
  rcases begins_or_behind (placeholder_ne_nil kind n) heq.symm with ⟨l, rfl, hhead⟩ | ⟨a', -, rfl⟩
  · rw [List.append_assoc, List.append_cancel_left_eq] at heq
    rcases prefix_append_cases ⟨b, heq⟩ with hl | ⟨q, hq, hv⟩
    · exact .inl (hl.isInfix.trans (List.suffix_append a l).isInfix)
    · cases q with
      | nil =>
        rw [hq, List.append_nil]
        exact .inl (List.suffix_append a l).isInfix
      | cons y q =>
        have hmarks : ∀ c ∈ l ++ y :: q, c ∈ marks := fun c hc =>
          mem_marks_of_mem_placeholder (hq ▸ hc)
        rcases hb with ⟨x, hx, hmark⟩ | hright
        · cases hlast : l.getLast? with
          | none =>
            obtain rfl := List.getLast?_eq_none_iff.mp hlast
            exact absurd (List.head?_eq_none_iff.mp hhead.symm) (placeholder_ne_nil kind n)
          | some z =>
            rw [List.getLast?_append, hlast, Option.some_or, Option.mem_some_iff] at hx
            subst hx
            exact absurd (hmarks z (List.mem_append_left _ (List.mem_of_getLast? hlast))) hmark
        · obtain ⟨r, rfl⟩ := hv
          exact absurd (hmarks y (by simp)) (hright y rfl)
  · exact .inr ⟨a', b, by simp⟩

-- -----------------------------------------------------------------------------------------
-- What a pass leaves
-- -----------------------------------------------------------------------------------------

/-- The pieces of a text put together again, with placeholders from number `n` on for the matches. -/
def masked (kind : Kind) : Nat → List Piece → Text
  | _, [] => []
  | n, .kept t :: ps => t ++ masked kind n ps
  | n, .hit _ :: ps => placeholder kind n ++ masked kind (n + 1) ps

theorem Hidden.text_hide (kind : Kind) (r : Regex) (s : Hidden) :
    (s.hide kind r).text = masked kind s.spans.size (r.pieces s.text) := by
  have hfold : ∀ (ps : List Piece) (made : Text × Array Text),
      (ps.foldl (storePiece kind) made).1 = made.1 ++ masked kind made.2.size ps := by
    intro ps
    induction ps with
    | nil => simp [masked]
    | cons p ps ih =>
      intro made
      cases p <;> simp [ih, storePiece, masked]
  rw [hide_eq]
  exact hfold _ _

theorem masked_piecesOf_cons (kind : Kind) (n : Nat) (u : Text) (m : Match)
    (found : List (Text × Match)) (tail : Text) :
    masked kind n (piecesOf ((u, m) :: found) tail) =
      u ++ (placeholder kind n ++ masked kind (n + 1) (piecesOf found tail)) := rfl

theorem masked_piecesOf_nil (kind : Kind) (n : Nat) (tail : Text) :
    masked kind n (piecesOf [] tail) = tail := List.append_nil tail

-- -----------------------------------------------------------------------------------------
-- What stands behind new placeholders
-- -----------------------------------------------------------------------------------------

/-- The second text is the first one with what is hidden behind some of its placeholders. What is
hidden begins with no character of a placeholder, and no placeholder lies across its end. -/
inductive Conceals (kind : Kind) (behind : Nat → Text → Prop) : Text → Text → Prop
  | nil : Conceals kind behind [] []
  | char : Conceals kind behind t' t → Conceals kind behind (c :: t') (c :: t)
  | span : behind i (x :: w) → x ∉ marks → Border (x :: w) t → Conceals kind behind t' t →
      Conceals kind behind (placeholder kind i ++ t') (x :: w ++ t)

theorem border_of_append (h : Border (u ++ a) b) (ha : a ≠ []) : Border a b := by
  refine h.imp_left fun ⟨x, hx, hmark⟩ => ⟨x, ?_, hmark⟩
  rwa [List.getLast?_append_of_ne_nil _ ha] at hx

theorem border_left (h : Border u (a ++ b)) : Border u a := by
  refine h.imp_right fun hright x hx => hright x ?_
  rw [List.head?_append, Option.mem_def.mp hx]
  rfl

/-- There is no border in a placeholder. -/
theorem not_border_placeholder (h : placeholder kind i = a ++ b) (hb : b ≠ []) :
    ¬ Border a (b ++ t) := by
  have hmarks : ∀ c ∈ a ++ b, c ∈ marks := fun c hc => mem_marks_of_mem_placeholder (h ▸ hc)
  rintro (⟨x, hx, hmark⟩ | hright)
  · exact hmark (hmarks x (List.mem_append_left b (List.mem_of_getLast? hx)))
  · obtain ⟨y, b, rfl⟩ := List.exists_cons_of_ne_nil hb
    exact hright y rfl (hmarks y (by simp))

/-- A border behind the start of a placeholder is behind its end. -/
theorem exists_behind_placeholder (h : a ++ b = placeholder kind i ++ t) (ha : a ≠ [])
    (hb : Border a b) : ∃ k, a = placeholder kind i ++ k ∧ t = k ++ b := by
  rcases List.append_eq_append_iff.mp h with ⟨k, hk, rfl⟩ | ⟨k, rfl, rfl⟩
  · obtain rfl : k = [] := by_contra fun hne => not_border_placeholder hk hne hb
    exact ⟨[], by rw [hk, List.append_nil, List.append_nil], rfl⟩
  · exact ⟨k, rfl, rfl⟩

namespace Conceals

variable {behind : Nat → Text → Prop}

theorem kept (h : Conceals kind behind t' t) (u : Text) : Conceals kind behind (u ++ t') (u ++ t) := by
  induction u with
  | nil => exact h
  | cons c u ih => exact ih.char

theorem mono {behind' : Nat → Text → Prop} (h : Conceals kind behind t' t)
    (hsub : ∀ i w, behind i w → behind' i w) : Conceals kind behind' t' t := by
  induction h with
  | nil => exact .nil
  | char _ ih => exact ih.char
  | span hw hx hb _ ih => exact .span (hsub _ _ hw) hx hb ih

/-- A text is cut in two where no placeholder lies across the cut. -/
theorem split {a b t : Text} (h : Conceals kind behind (a ++ b) t) (hb : Border a b) :
    ∃ a' b', t = a' ++ b' ∧ Conceals kind behind a a' ∧ Conceals kind behind b b' := by
  generalize hab : a ++ b = t' at h
  induction h generalizing a with
  | nil =>
    obtain ⟨rfl, rfl⟩ := List.append_eq_nil_iff.mp hab
    exact ⟨[], [], rfl, .nil, .nil⟩
  | @char t' t c hrest ih =>
    cases a with
    | nil =>
      obtain rfl : b = c :: t' := hab
      exact ⟨[], c :: t, rfl, .nil, hrest.char⟩
    | cons d a =>
      obtain ⟨rfl, rfl⟩ := List.cons.inj hab
      by_cases hnil : a = []
      · subst hnil
        exact ⟨[d], t, rfl, .char .nil, hrest⟩
      · obtain ⟨a', b', rfl, ha, hb⟩ := ih (border_of_append (u := [d]) hb hnil) rfl
        exact ⟨d :: a', b', rfl, ha.char, hb⟩
  | @span i x w t t' hw hx hborder hrest ih =>
    by_cases hnil : a = []
    · subst hnil
      obtain rfl : b = placeholder kind i ++ t' := hab
      exact ⟨[], x :: w ++ t, rfl, .nil, .span hw hx hborder hrest⟩
    obtain ⟨k, rfl, rfl⟩ := exists_behind_placeholder hab hnil hb
    by_cases hk : k = []
    · subst hk
      exact ⟨x :: w ++ [], t, by simp, .span hw hx (.inr (by simp)) .nil, hrest⟩
    · obtain ⟨a', b', rfl, ha, hb⟩ := ih (border_of_append hb hk) rfl
      exact ⟨x :: w ++ a', b', by simp, .span hw hx (border_left hborder) ha, hb⟩

/-- What cannot belong to a placeholder is not hidden. -/
theorem of_firm (h : Conceals kind behind (o :: t') t) (ho : o ∉ marks) :
    ∃ s, t = o :: s ∧ Conceals kind behind t' s := by
  generalize hcons : o :: t' = u at h
  cases h with
  | nil => cases hcons
  | char h =>
    obtain ⟨rfl, rfl⟩ := List.cons.inj hcons
    exact ⟨_, rfl, h⟩
  | @span i =>
    obtain ⟨y, v, hy⟩ := List.exists_cons_of_ne_nil (placeholder_ne_nil kind i)
    rw [hy] at hcons
    obtain ⟨rfl, -⟩ := List.cons.inj hcons
    exact absurd (mem_marks_of_mem_placeholder (hy ▸ List.mem_cons_self)) ho

theorem mem_cases (h : Conceals kind behind t' t) (hc : c ∈ t) :
    c ∈ t' ∨ ∃ i w, behind i w ∧ placeholder kind i <:+: t' ∧ c ∈ w := by
  induction h with
  | nil => cases hc
  | char _ ih =>
    rcases List.mem_cons.mp hc with rfl | hc
    · exact .inl List.mem_cons_self
    · refine (ih hc).imp (List.mem_cons_of_mem _) ?_
      rintro ⟨i, w, hw, hi, hc⟩
      exact ⟨i, w, hw, List.infix_cons hi, hc⟩
  | @span i x w t t' hw _ _ _ ih =>
    rcases List.mem_append.mp hc with hc | hc
    · exact .inr ⟨i, x :: w, hw, (List.prefix_append _ _).isInfix, hc⟩
    · refine (ih hc).imp (List.mem_append_right _) ?_
      rintro ⟨j, v, hv, hj, hc⟩
      exact ⟨j, v, hv, List.infix_append_of_infix_right hj, hc⟩

/-- Characters of a placeholder at the start are not those of something hidden. -/
theorem prefix_of_marks {a : Text} (h : Conceals kind behind t' (a ++ v)) (ha : ∀ c ∈ a, c ∈ marks) :
    a <+: t' := by
  induction a generalizing t' with
  | nil => exact List.nil_prefix
  | cons c a ih =>
    rw [List.forall_mem_cons] at ha
    generalize hcons : c :: a ++ v = t at h
    cases h with
    | nil => cases hcons
    | char h =>
      obtain ⟨rfl, rfl⟩ := List.cons.inj hcons
      exact List.cons_prefix_cons.mpr ⟨rfl, ih h ha.2⟩
    | span _ hx =>
      obtain ⟨rfl, -⟩ := List.cons.inj hcons
      exact absurd ha.1 hx

/-- A placeholder of the hidden text stands in the text around it or in something hidden. -/
theorem placeholder_cases (h : Conceals kind behind t' t) (hj : placeholder kind j <:+: t) :
    placeholder kind j <:+: t' ∨
      ∃ i w, behind i w ∧ placeholder kind i <:+: t' ∧ placeholder kind j <:+: w := by
  induction h with
  | nil => exact absurd (List.infix_nil.mp hj) (placeholder_ne_nil kind j)
  | @char t' t c hrest ih =>
    rcases List.infix_cons_iff.mp hj with ⟨v, hv⟩ | hj
    · have hmarks := prefix_of_marks (hv ▸ hrest.char) fun d hd => mem_marks_of_mem_placeholder hd
      exact .inl hmarks.isInfix
    · refine (ih hj).imp List.infix_cons ?_
      rintro ⟨i, w, hw, hi, hj⟩
      exact ⟨i, w, hw, List.infix_cons hi, hj⟩
  | @span i x w t t' hw _ hborder _ ih =>
    rcases infix_of_border hborder hj with hj | hj
    · exact .inr ⟨i, x :: w, hw, (List.prefix_append _ _).isInfix, hj⟩
    · refine (ih hj).imp List.infix_append_of_infix_right ?_
      rintro ⟨k, v, hv, hk, hj⟩
      exact ⟨k, v, hv, List.infix_append_of_infix_right hk, hj⟩

end Conceals

/-- A pass conceals what it has found. -/
theorem conceals_masked (hb : p.beginsOff marks = true) (hs : p.settlesOff marks = true)
    (h : Cuts p b t ps) (kind : Kind) (n : Nat) :
    Conceals kind (fun i w => n ≤ i ∧ ((hits ps).map (·.text))[i - n]? = some w) (masked kind n ps) t := by
  induction h generalizing n with
  | nil => exact .nil
  | kept _ ih => exact (ih n).kept _
  | @hit m w b r ps hm _ ih =>
    obtain ⟨x, w, rfl, hx⟩ := hm.settles.spells.beginsOff hb
    refine .span ⟨Nat.le_refl n, ?_⟩ hx (hm.settles.settlesOff hs) ((ih (n + 1)).mono ?_)
    · rw [Nat.sub_self, hits, List.map_cons, hm.text]
      rfl
    · rintro i v ⟨hle, hv⟩
      refine ⟨by omega, ?_⟩
      obtain ⟨k, rfl⟩ := Nat.exists_eq_add_of_le hle
      have hk : n + 1 + k - n = k + 1 := by omega
      rw [hits, List.map_cons, hk, List.getElem?_cons_succ]
      rwa [Nat.add_sub_cancel_left] at hv

theorem conceals_hide (hr : Clear r) (kind : Kind) (s : Hidden) :
    Conceals kind (fun i w => (s.hide kind r).spans[i]? = some w ∧ ∃ m ∈ r.matches' s.text, m.text = w)
      (s.hide kind r).text s.text := by
  obtain ⟨p, rfl, hb, hs⟩ := hr
  rw [Hidden.text_hide]
  refine (conceals_masked hb hs (Regex.cuts_pieces p s.text) kind s.spans.size).mono ?_
  rintro i w ⟨hle, hw⟩
  rw [← matches_eq_hits] at hw
  refine ⟨?_, List.mem_map.mp (List.mem_of_getElem? hw)⟩
  rw [Hidden.spans_hide, Array.getElem?_append_right hle]
  simpa using hw

theorem getElem?_of_left {spans : Array Text} {i : Nat} (h : spans[i]? = some w) (ws : Array Text) :
    (spans ++ ws)[i]? = some w := by
  obtain ⟨hlt, -⟩ := Array.getElem?_eq_some_iff.mp h
  rw [Array.getElem?_append_left hlt, h]

end Wikitext.Mask
