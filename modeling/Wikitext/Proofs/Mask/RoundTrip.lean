import Wikitext.Proofs.Mask.Walk
import Wikitext.Proofs.Pattern.Ends
import Wikitext.Proofs.Pattern.Pieces

/-!
# Hiding and adding back

`addBack_hide`: a text is hidden unless it holds a placeholder already, and
adding back what was hidden gives the text again. The invariant is `Masks`: the
walk through the masked text expands to the text and meets every stretch once.
It survives the hiding of a match because no placeholder lies across an end of
the match (`Clear`), and the new placeholder joins nothing around it into
another one. `hide_induction` says so for any other invariant that survives the
hiding of a match.
-/

namespace Wikitext.Mask

open Pattern

-- -----------------------------------------------------------------------------------------
-- Patterns that cut no placeholder
-- -----------------------------------------------------------------------------------------

/-- Matches begin with no character of a placeholder, and no placeholder lies across their
end. -/
def Clear (r : Regex) : Prop :=
  ∃ p : Pattern, r = p.compile ∧ p.beginsOff marks = true ∧ p.settlesOff marks = true

theorem caseClosure_marks : CaseClosure marks ('m' :: marks) := by decide +kernel

theorem Clear.caseless {p : Pattern} (hb : p.beginsOff ('m' :: marks) = true)
    (hs : p.settlesOff ('m' :: marks) = true) : Clear p.caseless.compile :=
  ⟨p.caseless, rfl, beginsOff_caseless caseClosure_marks hb,
    settlesOff_caseless caseClosure_marks hs⟩

theorem clear_unformatted : Clear Region.unformatted :=
  .caseless (by decide) (by decide)

theorem clear_references : Clear Region.references :=
  .caseless (by decide) (by decide)

theorem clear_externalLinks : Clear Region.externalLinks :=
  .caseless (by decide) (by decide)

/-- Whatever the names of the file namespace are: they stand between brackets. -/
theorem clear_images (p : Profile) : Clear (Region.images p) := by
  have hb : (lit "[[").beginsOff ('m' :: marks) = true := by decide
  have hs : (lit "]]").settlesOff ('m' :: marks) = true := by decide
  apply Clear.caseless
  · simp only [beginsOff_append, hb, Bool.true_or]
  · simp only [settlesOff_append, hs, Bool.true_or]

theorem clear_innermostTemplate : Clear Region.innermostTemplate :=
  ⟨_, rfl, by decide, by decide⟩

theorem clear_headings : Clear Region.headings :=
  ⟨_, rfl, by decide, by decide⟩

theorem clear_links : Clear Region.links :=
  ⟨_, rfl, by decide, by decide⟩

theorem clear_linkTargets : Clear Region.linkTargets :=
  ⟨_, rfl, by decide, by decide⟩

-- -----------------------------------------------------------------------------------------
-- Hiding one match
-- -----------------------------------------------------------------------------------------

theorem Expands.push (h : Expands kind spans ps is u) (w : Text) :
    Expands kind (spans.push w) ps is u := by
  induction h with
  | nil => exact .nil
  | char _ ih => exact .char ih
  | placeholder hs _ _ ihi ih =>
    obtain ⟨hlt, -⟩ := Array.getElem?_eq_some_iff.mp hs
    refine .placeholder ?_ ihi ih
    rw [Array.getElem?_push_lt hlt, ← hs, Array.getElem?_eq_getElem hlt]

theorem expands_chars (t : Text) : Expands kind spans (t.map .char) [] t := by
  induction t with
  | nil => exact .nil
  | cons c t ih => exact .char ih

/-- The parts expand to `t` and meet every stretch once. -/
def Accounts (kind : Kind) (spans : Array Text) (ps : List Part) (t : Text) : Prop :=
  ∃ is, Expands kind spans ps is t ∧ is.Perm (List.range spans.size)

theorem accounts_chars (t : Text) : Accounts kind #[] (t.map .char) t :=
  ⟨[], expands_chars t, by simp⟩

theorem Accounts.restore (h : Accounts kind spans (parts kind u) t) :
    Mask.restore kind spans u = .ok t := by
  obtain ⟨is, hi, hp⟩ := h
  exact restore_eq_ok hi hp

/-- A stretch that is stored can be named in its place. -/
theorem Accounts.store (h : Accounts kind spans (ps ++ (parts kind w ++ qs)) t) :
    Accounts kind (spans.push w) (ps ++ .placeholder spans.size :: qs) t := by
  obtain ⟨is, h, hp⟩ := h
  obtain ⟨is₁, _, u₁, _, rfl, rfl, h₁, h⟩ := h.append_inv
  obtain ⟨is₂, is₃, u₂, u₃, rfl, rfl, h₂, h₃⟩ := h.append_inv
  have hs : (spans.push w)[spans.size]? = some w := by simp
  refine ⟨is₁ ++ spans.size :: (is₂ ++ is₃),
    (h₁.push w).append (.placeholder hs (h₂.push w) (h₃.push w)), ?_⟩
  rw [Array.size_push, List.range_succ]
  exact (List.perm_middle.trans (hp.cons _)).trans (List.perm_append_singleton _ _).symm

-- -----------------------------------------------------------------------------------------
-- Hiding all matches
-- -----------------------------------------------------------------------------------------

/-- No placeholder lies across the end of `u`, whatever follows. -/
def Sealed (kind : Kind) (u : Text) : Prop :=
  ∀ v, parts kind (u ++ v) = parts kind u ++ parts kind v

theorem sealed_nil : Sealed kind [] := fun v => by simp

theorem parts_placeholder (kind : Kind) (n : Nat) (u : Text) :
    parts kind (u ++ placeholder kind n) = parts kind u ++ [.placeholder n] := by
  have h := parts_append_placeholder kind n u []
  rwa [List.append_nil, parts_nil] at h

theorem sealed_placeholder (kind : Kind) (n : Nat) (u : Text) :
    Sealed kind (u ++ placeholder kind n) := by
  intro v
  rw [List.append_assoc, parts_append_placeholder, parts_placeholder, List.append_assoc,
    List.singleton_append]

/-- A match can be read apart from what stands before it and after it. -/
theorem parts_match {p : Pattern} (hb : p.beginsOff marks = true) (hs : p.settlesOff marks = true)
    (hw : p.Settles b w r) (u : Text) :
    parts kind (u ++ (w ++ r)) = parts kind u ++ (parts kind w ++ parts kind r) := by
  obtain ⟨x, w', rfl, hx⟩ := hw.spells.beginsOff hb
  have hbefore : Border u (x :: w' ++ r) := .inr (by simpa using hx)
  have hafter : Border (x :: w') r := hw.settlesOff hs
  rw [parts_append hbefore.not_straddles, parts_append hafter.not_straddles]

/-- One piece of the text, added to what was made of the pieces before it. -/
def storePiece (kind : Kind) (made : Text × Array Text) : Piece → Text × Array Text
  | .kept t => (made.1 ++ t, made.2)
  | .hit m => (made.1 ++ placeholder kind made.2.size, made.2.push m.text)

/-- By induction on the pieces. What is made so far ends with kept text `u` behind a sealed text
`a`; the rest of the original text stands behind it. -/
theorem stored_foldl {p : Pattern} {P : Array Text → List Part → Prop}
    (hstore : ∀ {spans w ps qs}, P spans (ps ++ (parts kind w ++ qs)) →
      P (spans.push w) (ps ++ .placeholder spans.size :: qs))
    (hb : p.beginsOff marks = true) (hs : p.settlesOff marks = true) (hc : Cuts p b r ps)
    (ha : Sealed kind a) (h : P spans (parts kind a ++ parts kind (u ++ r))) :
    P (ps.foldl (storePiece kind) (a ++ u, spans)).2
      (parts kind (ps.foldl (storePiece kind) (a ++ u, spans)).1) := by
  induction hc generalizing a u spans with
  | nil =>
    rw [List.append_nil, ← ha] at h
    exact h
  | @kept b v r ps _ ih =>
    rw [← List.append_assoc] at h
    have hnext := ih ha h
    rwa [← List.append_assoc] at hnext
  | @hit m w b r ps hm _ ih =>
    rw [parts_match hb hs hm.settles, ← List.append_assoc, ← ha] at h
    have hnext := ih (u := []) (sealed_placeholder kind spans.size (a ++ u)) (by
      rw [parts_placeholder, List.append_assoc]
      exact hstore h)
    rw [List.append_nil, ← hm.text] at hnext
    exact hnext

namespace Hidden

/-- The hidden text accounts for `t`. -/
def Masks (kind : Kind) (h : Hidden) (t : Text) : Prop :=
  Accounts kind h.spans (parts kind h.text) t

theorem hide_eq (kind : Kind) (r : Regex) (h : Hidden) :
    h.hide kind r =
      let made := (r.pieces h.text).foldl (storePiece kind) ([], h.spans)
      { text := made.1, spans := made.2 } := by
  have hstep : (fun (made : Text × Array Text) piece =>
      match piece with
      | .kept t => (made.1 ++ t, made.2)
      | .hit m => (made.1 ++ placeholder kind made.2.size, made.2.push m.text)) =
      storePiece kind := by
    funext made piece
    cases piece <;> rfl
  rw [← hstep]
  rfl

/-- What holds of a text and is kept when a stretch is stored holds when a pattern is hidden. -/
theorem hide_induction {s : Hidden} {P : Array Text → List Part → Prop} (hr : Clear r)
    (hstore : ∀ {spans w ps qs}, P spans (ps ++ (parts kind w ++ qs)) →
      P (spans.push w) (ps ++ .placeholder spans.size :: qs))
    (h : P s.spans (parts kind s.text)) :
    P (s.hide kind r).spans (parts kind (s.hide kind r).text) := by
  obtain ⟨p, rfl, hb, hs⟩ := hr
  rw [hide_eq]
  exact stored_foldl (a := []) (u := []) hstore hb hs (Regex.cuts_pieces p s.text) sealed_nil
    (by simpa using h)

theorem hideIf_induction {s : Hidden} {P : Array Text → List Part → Prop} (hr : Clear r)
    (wanted : Bool)
    (hstore : ∀ {spans w ps qs}, P spans (ps ++ (parts kind w ++ qs)) →
      P (spans.push w) (ps ++ .placeholder spans.size :: qs))
    (h : P s.spans (parts kind s.text)) :
    P (s.hideIf kind r wanted).spans (parts kind (s.hideIf kind r wanted).text) := by
  cases wanted with
  | false => exact h
  | true => exact hide_induction hr hstore h

theorem hideTemplates_induction {s : Hidden} {P : Array Text → List Part → Prop}
    (hstore : ∀ {spans w ps qs}, P spans (ps ++ (parts kind w ++ qs)) →
      P (spans.push w) (ps ++ .placeholder spans.size :: qs))
    (h : P s.spans (parts kind s.text)) :
    P (s.hideTemplates kind).spans (parts kind (s.hideTemplates kind).text) := by
  fun_induction Hidden.hideTemplates kind s with
  | case1 s next _ ih => exact ih (hide_induction clear_innermostTemplate hstore h)
  | case2 s next _ => exact hide_induction clear_innermostTemplate hstore h

theorem Masks.hide (hr : Clear r) (h : Masks kind s t) : Masks kind (s.hide kind r) t :=
  hide_induction (P := fun spans ps => Accounts kind spans ps t) hr Accounts.store h

theorem Masks.hideTemplates (h : Masks kind s t) : Masks kind (s.hideTemplates kind) t :=
  hideTemplates_induction (P := fun spans ps => Accounts kind spans ps t) Accounts.store h

theorem masks_start (h : ¬ Contains kind t) : Masks kind { text := t, spans := #[] } t := by
  rw [Masks, parts_eq_map h]
  exact accounts_chars t

end Hidden

-- -----------------------------------------------------------------------------------------
-- Masking a text
-- -----------------------------------------------------------------------------------------

theorem refusal?_empty (kind : Kind) (t : Text) :
    refusal? kind #[] t = if hasPlaceholder kind t then some .markerInText else none := rfl

theorem refusal?_contains (h : Contains kind t) : refusal? kind #[] t = some .markerInText := by
  rw [refusal?_empty, if_pos (hasPlaceholder_iff.mpr h)]

theorem refusal?_not_contains (h : ¬ Contains kind t) : refusal? kind #[] t = none := by
  rw [refusal?_empty, if_neg fun hp => h (hasPlaceholder_iff.mp hp)]

theorem not_contains_of_refusal? (h : refusal? kind spans t = none) : ¬ Contains kind t := by
  rw [← hasPlaceholder_iff]
  intro hc
  unfold refusal? at h
  rw [hc] at h
  split at h <;> cases h

section
variable {m : Mask} {P : Array Text → List Part → Prop} (hi : ∃ p, m.images = Region.images p)
include hi

/-- What holds of the characters of a text and is kept when a stretch is stored holds of the masked
text. -/
theorem hide_induction
    (hstore : ∀ {spans w ps qs}, P spans (ps ++ (parts .plain w ++ qs)) →
      P (spans.push w) (ps ++ .placeholder spans.size :: qs))
    (hstart : P #[] (t.map .char)) (h : m.hide t = .ok (u, m')) : P m'.plain (parts .plain u) := by
  obtain ⟨p, hi⟩ := hi
  unfold Mask.hide at h
  split at h
  · cases h
  · rename_i hr
    cases h
    refine Hidden.hideIf_induction clear_externalLinks _ hstore ?_
    refine Hidden.hideIf_induction (hi ▸ clear_images p) _ hstore ?_
    refine Hidden.hideIf_induction clear_references _ hstore ?_
    refine Hidden.hide_induction clear_unformatted hstore ?_
    rwa [parts_eq_map (not_contains_of_refusal? hr)]

theorem hideMore_induction
    (hstore : ∀ {spans w ps qs}, P spans (ps ++ (parts .broad w ++ qs)) →
      P (spans.push w) (ps ++ .placeholder spans.size :: qs))
    (hstart : P #[] (t.map .char)) (h : m.hideMore onlyTargets t = .ok (u, m')) :
    P m'.broad (parts .broad u) := by
  obtain ⟨p, hi⟩ := hi
  have hlinks : Clear (if onlyTargets then Region.linkTargets else Region.links) := by
    cases onlyTargets
    · exact clear_links
    · exact clear_linkTargets
  unfold Mask.hideMore at h
  split at h
  · cases h
  · rename_i hr
    cases h
    refine Hidden.hide_induction hlinks hstore ?_
    refine Hidden.hide_induction clear_headings hstore ?_
    refine Hidden.hide_induction clear_externalLinks hstore ?_
    refine Hidden.hide_induction (hi ▸ clear_images p) hstore ?_
    refine Hidden.hideTemplates_induction hstore ?_
    refine Hidden.hide_induction clear_references hstore ?_
    refine Hidden.hide_induction clear_unformatted hstore ?_
    rwa [parts_eq_map (not_contains_of_refusal? hr)]

end

-- -----------------------------------------------------------------------------------------
-- Round trips
-- -----------------------------------------------------------------------------------------

/-- Hiding `t` succeeds unless it holds a placeholder, and adding back what was hidden then gives
`t` and the mask `m` as it was. -/
def RoundTrip (kind : Kind) (m : Mask) (t : Text) (hidden : Except MaskError (Text × Mask))
    (back : Mask → Text → Except MaskError Text × Mask) : Prop :=
  ((∃ r, hidden = .ok r) ↔ ¬ Contains kind t) ∧
    ∀ u m', hidden = .ok (u, m') → back m' u = (.ok t, m)

section
variable {m : Mask} (hi : ∃ p, m.images = Region.images p)
include hi

theorem roundTrip_hide (hm : m.plain = #[]) (t : Text) :
    RoundTrip .plain m t (m.hide t) addBack := by
  by_cases hc : Contains .plain t
  · have he : m.hide t = .error .markerInText := by
      simp only [hide, hm, refusal?_contains hc]
    simp [RoundTrip, he, hc]
  · have he := refusal?_not_contains hc
    refine ⟨by simp [hide, hm, he, hc], fun u m' h => ?_⟩
    have hmask := hide_induction (P := fun spans ps => Accounts .plain spans ps t) hi Accounts.store
      (accounts_chars t) h
    simp only [hide, hm, he, Except.ok.injEq, Prod.mk.injEq] at h
    obtain ⟨rfl, rfl⟩ := h
    rw [addBack, hmask.restore, ← hm]

theorem roundTrip_hideMore (hm : m.broad = #[]) (onlyTargets : Bool) (t : Text) :
    RoundTrip .broad m t (m.hideMore onlyTargets t) addBackMore := by
  by_cases hc : Contains .broad t
  · have he : m.hideMore onlyTargets t = .error .markerInText := by
      simp only [hideMore, hm, refusal?_contains hc]
    simp [RoundTrip, he, hc]
  · have he := refusal?_not_contains hc
    refine ⟨by simp [hideMore, hm, he, hc], fun u m' h => ?_⟩
    have hmask := hideMore_induction (P := fun spans ps => Accounts .broad spans ps t) hi
      Accounts.store (accounts_chars t) h
    simp only [hideMore, hm, he, Except.ok.injEq, Prod.mk.injEq] at h
    obtain ⟨rfl, rfl⟩ := h
    rw [addBackMore, hmask.restore, ← hm]

end

/-- Both masks of a wiki undo what they did, whatever the other one holds. -/
theorem addBack_hide (p : Profile) (options : Options) (others : Array Text) (t : Text) :
    (let m : Mask := { ofProfile p options with broad := others };
      RoundTrip .plain m t (m.hide t) addBack) ∧
    (let m : Mask := { ofProfile p options with plain := others };
      ∀ onlyTargets, RoundTrip .broad m t (m.hideMore onlyTargets t) addBackMore) :=
  ⟨roundTrip_hide ⟨p, rfl⟩ rfl t, fun onlyTargets => roundTrip_hideMore ⟨p, rfl⟩ rfl onlyTargets t⟩

end Wikitext.Mask
