import Wikitext.Proofs.Mask.Regions
import Wikitext.Proofs.Mask.RoundTrip
import Wikitext.Rule.List

/-!
# What rules can do to hidden regions

`apply_regions`: if rules come to an end, every region that was hidden from
them stands in the text that they leave, unaltered, once and in a place of its
own. They can put the regions in another order, though: a rule sees the placeholders,
and nothing about their order is checked.
-/

namespace Wikitext

open Mask

namespace RuleList

-- -----------------------------------------------------------------------------------------
-- The regions hidden from rules
-- -----------------------------------------------------------------------------------------

/-- What rules get to see of `t`, with the stretches hidden from them, if stretches are to be
hidden and can be. -/
def masked? (l : RuleList) (t : Text) : Option (Kind × Hidden) :=
  if l.ignoreMore then
    match l.mask.hideMore false t with
    | .ok (u, m) => some (.broad, { text := u, spans := m.broad })
    | .error _ => none
  else if l.ignoreLinks then
    match l.mask.hide t with
    | .ok (u, m) => some (.plain, { text := u, spans := m.plain })
    | .error _ => none
  else none

/-- The regions hidden in `t`, in the order in which their placeholders stand after the masked
text was edited. -/
def regionsAfter (l : RuleList) (edit : Text → Text) (t : Text) : List Text :=
  match l.masked? t with
  | some (kind, s) => regions kind s.spans (edit s.text)
  | none => []

/-- The regions that the rules must not touch, in the order of the text. -/
def hiddenRegions (l : RuleList) (t : Text) : List Text := l.regionsAfter id t

/-- The regions for which the rules leave a placeholder, in the order of what they leave. -/
def restoredRegions (l : RuleList) (phase : Phase) (title t : Text) : List Text :=
  l.regionsAfter (fun u => (l.runAll phase title u).text) t

-- -----------------------------------------------------------------------------------------
-- Rules on a masked text
-- -----------------------------------------------------------------------------------------

variable {l : RuleList}

theorem runAll_noRules (h : l.hasRulesFor phase = false) (title t : Text) :
    l.runAll phase title t = { text := t } := by
  have hnone : (l.rules.zipIdx.filter fun r => r.1.runsIn phase) = [] := by
    rw [List.filter_eq_nil_iff]
    intro r hr
    rw [hasRulesFor, List.any_eq_false] at h
    exact h r.1 (List.fst_mem_of_mem_zipIdx hr)
  rw [runAll, hnone, List.foldl_nil]

/-- What was hidden gives the text again as long as no rule has run. -/
theorem restore_masked (h : l.masked? t = some (kind, s)) :
    restore kind s.spans s.text = .ok t := by
  unfold masked? at h
  split at h
  · split at h
    · rename_i hh
      cases h
      exact congrArg Prod.fst ((roundTrip_hideMore ⟨l.profile, rfl⟩ rfl false t).2 _ _ hh)
    · cases h
  · split at h
    · split at h
      · rename_i hh
        cases h
        exact congrArg Prod.fst ((roundTrip_hide ⟨l.profile, rfl⟩ rfl t).2 _ _ hh)
      · cases h
    · cases h

/-- Rules end if what they leave of the masked text can be restored. -/
theorem apply_masked (h : l.masked? t = some (kind, s)) (hr : l.hasRulesFor phase = true)
    (title : Text) :
    l.apply phase title t =
      (restore kind s.spans (l.runAll phase title s.text).text).map fun v =>
        { l.runAll phase title s.text with text := v } := by
  unfold masked? at h
  split at h
  · rename_i hm
    split at h
    · rename_i hh
      cases h
      simp only [apply, hr, hm, hh, if_true, bind, Except.bind, addBackMore]
      cases restore .broad _ _ <;> rfl
    · cases h
  · rename_i hm
    split at h
    · rename_i hl
      split at h
      · rename_i hh
        cases h
        simp only [apply, hr, hm, hl, hh, if_true, bind, Except.bind, addBack]
        cases restore .plain _ _ <;> rfl
      · cases h
    · cases h

theorem restore_rules (h : l.masked? t = some (kind, s)) (ha : l.apply phase title t = .ok o) :
    restore kind s.spans (l.runAll phase title s.text).text = .ok o.text := by
  cases hr : l.hasRulesFor phase with
  | false =>
    simp only [apply, hr] at ha
    cases ha
    rw [runAll_noRules hr]
    exact restore_masked h
  | true =>
    rw [apply_masked h hr] at ha
    cases he : restore kind s.spans (l.runAll phase title s.text).text with
    | error e => simp [he, Except.map] at ha
    | ok v =>
      simp only [he, Except.map, Except.ok.injEq] at ha
      rw [← ha]

/-- Regions that are hidden from rules stand in the text, and if the rules come to an end, the same
regions stand in the text that they leave, each once, in an order that the rules decide. -/
theorem apply_regions (h : l.apply phase title t = .ok o) :
    StandIn (l.hiddenRegions t) t ∧
      (l.restoredRegions phase title t).Perm (l.hiddenRegions t) ∧
      StandIn (l.restoredRegions phase title t) o.text := by
  unfold hiddenRegions restoredRegions regionsAfter
  cases hm : l.masked? t with
  | none => exact ⟨trivial, .refl _, trivial⟩
  | some r =>
    have hbefore := restore_masked hm
    have hafter := restore_rules hm h
    exact ⟨standIn_restore hbefore, perm_regions hbefore hafter, standIn_restore hafter⟩

-- -----------------------------------------------------------------------------------------
-- Regions that change places
-- -----------------------------------------------------------------------------------------

/-- A rule by which two words change places. -/
def swapWords : RuleList where
  profile := .englishWikipedia
  rules := [{ find := "(\\S+) (\\S+)".toList, replace := "$2 $1".toList, isRegex := true }]
  ignoreLinks := true

def comments : Text := "<!--a--> <!--b-->".toList

theorem swapWords_comments :
    ∃ o, swapWords.apply .beforeFixes "Foo".toList comments = .ok o ∧
      o.text = "<!--b--> <!--a-->".toList := by
  have h : (swapWords.apply .beforeFixes "Foo".toList comments).toOption.map (·.text) =
      some "<!--b--> <!--a-->".toList := by
    decide +kernel
  cases ho : swapWords.apply .beforeFixes "Foo".toList comments with
  | error e =>
    rw [ho] at h
    cases h
  | ok o =>
    rw [ho] at h
    exact ⟨o, rfl, Option.some.inj h⟩

/-- The order in which the regions stand afterwards need not be the one in which they stood. -/
theorem apply_swaps_regions :
    ∃ o, swapWords.apply .beforeFixes "Foo".toList comments = .ok o ∧
      ¬ StandIn (swapWords.hiddenRegions comments) o.text := by
  obtain ⟨o, ho, ht⟩ := swapWords_comments
  refine ⟨o, ho, ?_⟩
  rw [ht]
  decide +kernel

theorem apply_regions_swapWords :
    ∃ o, swapWords.apply .beforeFixes "Foo".toList comments = .ok o ∧
      StandIn ["<!--b-->".toList, "<!--a-->".toList] o.text := by
  obtain ⟨o, ho, -⟩ := swapWords_comments
  have hr : swapWords.restoredRegions .beforeFixes "Foo".toList comments =
      ["<!--b-->".toList, "<!--a-->".toList] := by
    decide +kernel
  exact ⟨o, ho, hr ▸ (apply_regions ho).2.2⟩

end RuleList

end Wikitext
