import Wikitext.Proofs.Mask.Edit
import Wikitext.Proofs.Mask.RoundTrip

/-!
# Adding back after edits

A masked text can be edited and still be restored, as long as it names the same
stretches (`restore_edited`); they may have changed places. What comes out has
no corner brackets if the text that was masked had none, so it can be masked
again.

`retains_addBack`: whatever becomes of a masked text, if it can be restored,
every comment and every unformatted element of the text that was masked stands
in it, unchanged. These are hidden first, so their stretches have no
placeholder in them, and a walk that meets each stretch once copies them out.
-/

namespace Wikitext.Mask

variable {kind : Kind} {spans : Array Text}

-- -----------------------------------------------------------------------------------------
-- Walks that enter the same stretches
-- -----------------------------------------------------------------------------------------

/-- Placeholders with nothing between them. -/
def tops (ns : List Nat) : List Part := ns.map .placeholder

namespace Expands

theorem cons_inv (h : Expands kind spans (.placeholder i :: ps) is u) :
    ∃ is₁ is₂ u₁ u₂, is = is₁ ++ is₂ ∧ u = u₁ ++ u₂ ∧
      Expands kind spans [.placeholder i] is₁ u₁ ∧ Expands kind spans ps is₂ u₂ := by
  rw [← List.singleton_append] at h
  exact h.append_inv

theorem tops_numbers (h : Expands kind spans ps is u) :
    ∃ v, Expands kind spans (tops (numbers ps)) is v ∧ v ⊆ u := by
  induction h with
  | nil => exact ⟨[], .nil, List.Subset.refl _⟩
  | char _ ih =>
    obtain ⟨v, hv, hs⟩ := ih
    exact ⟨v, hv, List.subset_cons_of_subset _ hs⟩
  | @placeholder i span is u ps js v hs hi _ _ ih =>
    obtain ⟨w, hw, hsub⟩ := ih
    refine ⟨u ++ w, .placeholder hs hi hw, List.append_subset.mpr ⟨?_, ?_⟩⟩
    · exact List.subset_append_left _ _
    · exact List.subset_append_of_subset_right _ hsub

theorem reorder (h : Expands kind spans (tops ns) is u) (hp : ns.Perm ns') :
    ∃ js v, Expands kind spans (tops ns') js v ∧ js.Perm is ∧ v ⊆ u := by
  induction hp generalizing is u with
  | nil => exact ⟨is, u, h, .refl _, List.Subset.refl _⟩
  | @cons i ns ns' _ ih =>
    obtain ⟨is, js, u, v, rfl, rfl, hi, h⟩ := cons_inv h
    obtain ⟨js', v', h', hp, hs⟩ := ih h
    refine ⟨is ++ js', u ++ v', hi.append h', hp.append_left is, List.append_subset.mpr ⟨?_, ?_⟩⟩
    · exact List.subset_append_left _ _
    · exact List.subset_append_of_subset_right _ hs
  | swap i j ns =>
    obtain ⟨is, js, u, v, rfl, rfl, hi, h⟩ := cons_inv h
    obtain ⟨js, ks, v, w, rfl, rfl, hj, h⟩ := cons_inv h
    refine ⟨js ++ (is ++ ks), v ++ (u ++ w), hj.append (hi.append h),
      List.perm_append_comm_assoc _ _ _, fun c hc => ?_⟩
    simp only [List.mem_append] at hc ⊢
    tauto
  | trans _ _ ih ih' =>
    obtain ⟨js, v, h, hp, hs⟩ := ih h
    obtain ⟨ks, w, h, hp', hs'⟩ := ih' h
    exact ⟨ks, w, h, hp'.trans hp, List.Subset.trans hs' hs⟩

theorem fill (h : Expands kind spans (tops (numbers ps)) is u) :
    ∃ v, Expands kind spans ps is v ∧ ∀ c ∈ v, c ∈ u ∨ .char c ∈ ps := by
  induction ps generalizing is u with
  | nil =>
    cases h
    exact ⟨[], .nil, by simp⟩
  | cons p ps ih =>
    cases p with
    | char c =>
      obtain ⟨v, hv, hs⟩ := ih h
      refine ⟨c :: v, .char hv, fun d hd => ?_⟩
      rcases List.mem_cons.mp hd with rfl | hd
      · exact .inr List.mem_cons_self
      · exact (hs d hd).imp_right (List.mem_cons_of_mem _)
    | placeholder i =>
      obtain ⟨is, js, u, v, rfl, rfl, hi, h⟩ := cons_inv h
      obtain ⟨w, hw, hs⟩ := ih h
      refine ⟨u ++ w, hi.append hw, fun c hc => ?_⟩
      rcases List.mem_append.mp hc with hc | hc
      · exact .inl (List.mem_append_left _ hc)
      · exact (hs c hc).imp (List.mem_append_right _) (List.mem_cons_of_mem _)

theorem mem_of_char (h : Expands kind spans ps is u) (hc : .char c ∈ ps) : c ∈ u := by
  induction h with
  | nil => simp at hc
  | char _ ih =>
    rcases List.mem_cons.mp hc with hc | hc
    · cases hc
      exact List.mem_cons_self
    · exact List.mem_cons_of_mem _ (ih hc)
  | placeholder _ _ _ _ ih =>
    exact List.mem_append_right _ (ih ((List.mem_cons.mp hc).resolve_left (by simp)))

theorem chars_eq (h : Expands kind spans (x.map .char) is u) : u = x := by
  induction x generalizing is u with
  | nil =>
    cases h
    rfl
  | cons c x ih =>
    cases h with
    | char h => rw [ih h]

end Expands

-- -----------------------------------------------------------------------------------------
-- Masked texts
-- -----------------------------------------------------------------------------------------

section
variable (h : Accounts kind spans (parts kind u) t)
include h

theorem Accounts.intact (ht : Bare t) : Intact kind u := by
  obtain ⟨is, h, hp⟩ := h
  refine ⟨fun c hc => ht c (h.mem_of_char hc), ?_⟩
  have hn : is.Nodup := hp.nodup_iff.mpr List.nodup_range
  exact (List.nodup_append.mp (h.perm_named.nodup_iff.mp hn)).1

/-- What keeps apart from placeholders stands in the text as well as in the masked text. -/
theorem Accounts.infix_of_apart (hx : Apart x) (hi : x <:+: u) : x <:+: t := by
  obtain ⟨is, h, -⟩ := h
  obtain ⟨a, b, rfl⟩ := hi
  rw [List.append_assoc, hx.parts_eq] at h
  obtain ⟨_, _, v, _, _, rfl, _, h⟩ := h.append_inv
  obtain ⟨_, _, y, w, _, rfl, hy, _⟩ := h.append_inv
  rw [hy.chars_eq, ← List.append_assoc]
  exact List.infix_append v x w

theorem Accounts.restore_edited (ht : Bare t) (hc : Clean kind u')
    (hn : (numbers (parts kind u)).Perm (numbers (parts kind u'))) :
    ∃ t', Mask.restore kind spans u' = .ok t' ∧ Bare t' := by
  obtain ⟨is, h, hp⟩ := h
  obtain ⟨v, h, hv⟩ := h.tops_numbers
  obtain ⟨js, w, h, hp', hw⟩ := h.reorder hn
  obtain ⟨t', h, ht'⟩ := h.fill
  refine ⟨t', restore_eq_ok h (hp'.trans hp), fun c hc' => ?_⟩
  rcases ht' c hc' with hc' | hc'
  · exact ht c (hv (hw hc'))
  · exact hc c hc'

end

-- -----------------------------------------------------------------------------------------
-- Stretches without placeholders
-- -----------------------------------------------------------------------------------------

/-- What a stretch met on the way stands for is a part of the whole. -/
theorem Expands.infix_of_mem (h : Expands kind spans ps is u) (hi : i ∈ is)
    (hs : spans[i]? = some w) : ∃ js v, Expands kind spans (parts kind w) js v ∧ v <:+: u := by
  induction h with
  | nil => cases hi
  | char _ ih =>
    obtain ⟨js, v, hv, hinfix⟩ := ih hi
    exact ⟨js, v, hv, List.infix_cons hinfix⟩
  | @placeholder k span is u ps js v hk hspan _ ihspan ih =>
    rw [List.mem_cons, List.mem_append] at hi
    obtain rfl | hi | hi := hi
    · rw [hk] at hs
      cases hs
      exact ⟨is, u, hspan, List.infix_append_of_infix_left (List.infix_refl u)⟩
    · obtain ⟨ks, x, hx, hinfix⟩ := ihspan hi
      exact ⟨ks, x, hx, List.infix_append_of_infix_left hinfix⟩
    · obtain ⟨ks, x, hx, hinfix⟩ := ih hi
      exact ⟨ks, x, hx, List.infix_append_of_infix_right hinfix⟩

theorem infix_restore (h : restore kind spans t = .ok u) (hw : w ∈ spans) (hc : ¬ Contains kind w) :
    w <:+: u := by
  obtain ⟨is, hexpands, hperm⟩ := expands_of_restore h
  obtain ⟨i, hi, rfl⟩ := Array.mem_iff_getElem.mp hw
  have hmem : i ∈ is := hperm.mem_iff.mpr (List.mem_range.mpr hi)
  obtain ⟨js, v, hv, hinfix⟩ := hexpands.infix_of_mem hmem (Array.getElem?_eq_getElem hi)
  rw [parts_eq_map hc] at hv
  rwa [hv.chars_eq] at hinfix

-- -----------------------------------------------------------------------------------------
-- Stretches that are stored
-- -----------------------------------------------------------------------------------------

namespace Hidden

theorem spans_hide (kind : Kind) (r : Regex) (h : Hidden) :
    (h.hide kind r).spans = h.spans ++ ((r.matches' h.text).map (·.text)).toArray := by
  have hfold : ∀ (ps : List Piece) (made : Text × Array Text),
      (ps.foldl (storePiece kind) made).2 = made.2 ++ ((hits ps).map (·.text)).toArray := by
    intro ps
    induction ps with
    | nil => simp [hits]
    | cons p ps ih =>
      intro made
      cases p <;> simp [ih, storePiece, hits]
  rw [hide_eq, matches_eq_hits]
  exact hfold _ _

theorem mem_hideIf (kind : Kind) (r : Regex) (wanted : Bool) {h : Hidden} (hw : w ∈ h.spans) :
    w ∈ (h.hideIf kind r wanted).spans := by
  cases wanted with
  | false => exact hw
  | true =>
    rw [hideIf, if_pos rfl, spans_hide]
    exact Array.mem_append_left _ hw

end Hidden

-- -----------------------------------------------------------------------------------------
-- Unformatted regions
-- -----------------------------------------------------------------------------------------

/-- Every unformatted region of `t` stands in `u`. -/
def Retains (t u : Text) : Prop := ∀ m ∈ Region.unformatted.matches' t, m.text <:+: u

theorem retains_addBack {m : Mask} (hhide : m.hide t = .ok (u, m'))
    (hback : (m'.addBack u').1 = .ok t') : Retains t t' := by
  intro region hregion
  unfold Mask.hide at hhide
  split at hhide
  · cases hhide
  · rename_i hr
    cases hhide
    obtain ⟨p, hp, -⟩ := clear_unformatted
    have hinfix : region.text <:+: t := infix_of_mem_matches (hp ▸ hregion)
    refine infix_restore hback ?_ fun h => not_contains_of_refusal? hr (h.of_infix hinfix)
    refine Hidden.mem_hideIf _ _ _ (Hidden.mem_hideIf _ _ _ (Hidden.mem_hideIf _ _ _ ?_))
    rw [Hidden.spans_hide]
    exact Array.mem_append_right _ (by simpa using ⟨region, hregion, rfl⟩)

end Wikitext.Mask
