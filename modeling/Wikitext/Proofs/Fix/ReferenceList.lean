import Wikitext.ReferenceList
import Wikitext.Proofs.Fix.Names
import Wikitext.Proofs.Fix.Repeats
import Wikitext.Proofs.Pattern.Expansion

/-!
# The reference list

The tags of the list are replaced whole, which would lose a placeholder in one
of them. A missing list is put after a heading, before one, at the start of a
line or at an end of the text, never inside a placeholder.
-/

namespace Wikitext

open Mask Pattern Fix

variable {kind : Kind}

-- -----------------------------------------------------------------------------------------
-- Additions at the ends of a text
-- -----------------------------------------------------------------------------------------

theorem keeps_prepend (hy : Bare y) (t : Text) : Keeps kind t (y ++ t) := by
  intro h
  have hparts : parts kind (y ++ t) = parts kind y ++ parts kind t := hy.clean.parts_append t
  have hn : numbers (parts kind (y ++ t)) = numbers (parts kind t) := by
    rw [hparts, numbers_append, hy.numbers_eq, List.nil_append]
  exact ⟨⟨hy.clean.append h.clean, hn ▸ h.nodup⟩, hn⟩

theorem keeps_append (hy : Bare y) (t : Text) : Keeps kind t (t ++ y) := by
  intro h
  have hparts := h.clean.parts_append y
  have hn : numbers (parts kind (t ++ y)) = numbers (parts kind t) := by
    rw [hparts, numbers_append, hy.numbers_eq, List.append_nil]
  exact ⟨⟨h.clean.append hy.clean, hn ▸ h.nodup⟩, hn⟩

-- -----------------------------------------------------------------------------------------
-- The start of a line
-- -----------------------------------------------------------------------------------------

theorem trimEnd_append_lineFeed (u : Text) : Text.trimEnd (u ++ ['\n']) = Text.trimEnd u := by
  have hb : Chars.isBlank '\n' = true := by decide
  simp [Text.trimEnd, hb]

/-- What is put between two blank lines at the start of a line takes the place of white space, or
stands before the text. -/
theorem keeps_insert_line (hy : Bare y) (t : Text) (h : i ≤ t.length) :
    Keeps kind t (Text.trimEnd (t.take (Text.lineStart t i)) ++ y ++ t.drop (Text.lineStart t i)) := by
  rcases Text.lineStart_cases t h with h | ⟨u, hu⟩
  · rw [h]
    exact keeps_prepend hy t
  · have hfeed : Edits ['\n'] y := .of_apart (apart_singleton (by decide)) hy
    have hedit := ((harmless_trimEnd u).append hfeed).append_right (t.drop (Text.lineStart t i))
    rw [← hu, List.take_append_drop, ← trimEnd_append_lineFeed, ← hu] at hedit
    exact hedit.keeps

theorem firstLine?_eq_lineStart {v : Vocabulary} (h : Metadata.firstLine? v t = some i) :
    ∃ k, k ≤ t.length ∧ i = Text.lineStart t k := by
  unfold Metadata.firstLine? at h
  obtain ⟨k, hk, rfl⟩ := Option.map_eq_some_iff.mp h
  obtain ⟨m, -, rfl⟩ := List.mem_map.mp (List.min?_mem hk)
  exact ⟨_, Nat.sub_le _ _, rfl⟩

-- -----------------------------------------------------------------------------------------
-- Replacement templates
-- -----------------------------------------------------------------------------------------

namespace Template

theorem bracedName?_subset (h : bracedName? t = some (name, rest)) : rest ⊆ t := by
  obtain ⟨rfl, -, -⟩ := bracedName?_eq_some.mp h
  intro c hc
  simp [hc]

theorem plainName?_subset (h : plainName? t = some (name, rest)) : rest ⊆ t := by
  obtain ⟨rfl, -⟩ := plainName?_eq_some h
  exact List.subset_append_right name rest

theorem bare_expandAux {groups : GroupText} (hg : ∀ name w, groups name = some w → Bare w)
    (n : Nat) (ht : Bare t) : Bare (expandAux groups n t) := by
  fun_induction expandAux groups n t with
  | case1 => exact ht
  | case2 => exact ht
  | case3 n rest ih =>
    simp only [bare_cons] at ht ⊢
    exact ⟨ht.1, ih ht.2.2⟩
  | case4 n t _ name rest hname ih =>
    have hrest : rest ⊆ t := by
      cases hb : bracedName? t with
      | none => exact plainName?_subset (by simpa [hb] using hname)
      | some r =>
        rw [hb, Option.orElse_some] at hname
        exact bracedName?_subset (hb.trans hname)
    have hgroup : Bare ((groups name).getD []) := by
      cases hw : groups name with
      | none => exact bare_nil
      | some w => exact hg name w hw
    exact bare_append.mpr ⟨hgroup, ih ((bare_cons.mp ht).2.subset hrest)⟩
  | case5 n t _ _ ih =>
    simp only [bare_cons] at ht ⊢
    exact ⟨ht.1, ih ht.2⟩
  | case6 n c t _ ih =>
    simp only [bare_cons] at ht ⊢
    exact ⟨ht.1, ih ht.2⟩

/-- A template filled in from a match without corner brackets. -/
theorem bare_expand {p : Pattern} (hm : Takes p m b w r) (hw : Bare w) (ht : Bare t) :
    Bare (expand (groupText [] m) t) := by
  refine bare_expandAux (fun name g hg => ?_) _ ht
  obtain ⟨i, -, hi⟩ := Option.bind_eq_some_iff.mp hg
  have h := hm.group_bare hw i
  rwa [Match.group, hi, Option.getD_some] at h

end Template

-- -----------------------------------------------------------------------------------------
-- The list
-- -----------------------------------------------------------------------------------------

namespace ReferenceList

theorem bare_template (hp : p.Unmarked) (hv : Vocabulary.ofProfile p = .ok v) :
    Bare (template v) := by
  rw [template, (names_ofProfile hv).profile]
  exact bare_append.mpr ⟨bare_append.mpr ⟨by decide, hp.reflist⟩, by decide⟩

/-- Tags that hold no placeholder are replaced whole. -/
theorem edits_fixTags (hp : p.Unmarked) (hv : Vocabulary.ofProfile p = .ok v) (useTemplate : Bool)
    (ht : ∀ m ∈ smallReferences.matches' t, Bare m.text) : Edits t (fixTags v useTemplate t) := by
  have htemplate := bare_template hp hv
  obtain ⟨q, hq, hs⟩ : ∃ q : Pattern, smallReferences = q.caseless.compile ∧
      q.strays ('m' :: Mask.marks) = true := ⟨_, rfl, by decide⟩
  have hsmall : Edits t (smallReferences.replaceAll
      (fun m => Template.expand (Template.groupText [] m) (template v)) t) := by
    rw [matches_eq_hits] at ht
    rw [hq] at ht ⊢
    refine edits_replaceAll fun {m b w r} hhit hm => ?_
    have hw : Bare w := hm.text ▸ ht m (mem_hits.mpr hhit)
    exact .of_apart ⟨hw, hm.reads.strays (strays_caseless caseClosure_marks hs)⟩
      (Template.bare_expand hm hw htemplate)
  have hstandard : Harmless (referencesTag.replaceAll fun _ => standardTag) :=
    .replaceAll (gentle_caseless_of_bare (by decide) fun _ _ => by decide)
  unfold fixTags
  dsimp only
  split
  · have hfirst : Apart standardTag := ⟨by decide, '<', by decide, by decide⟩
    exact (hsmall.trans (hstandard _)).trans (harmless_replaceFirst hfirst htemplate _)
  · exact hsmall.trans (hstandard _)

theorem edits_after_heading (hy : Bare y) (h : referencesHeading.find? t = some m) :
    Edits t (t.take (t.length - m.stop.left) ++ y ++ m.after) := by
  obtain ⟨u, w, hsplit⟩ := Regex.splits_of_find? h
  have hw : Apart w := keepsApart true (by decide) _ _ _ _ hsplit.takes.reads
  have htake : t.take (t.length - m.stop.left) = u ++ w := by
    rw [hsplit.stop, ← List.length_append, hsplit.text, ← List.append_assoc, List.take_left]
  have hedit := ((Edits.of_apart hw (bare_append.mpr ⟨hw.bare, hy⟩)).append_right m.after).append_left u
  rw [← hsplit.text] at hedit
  simpa only [htake, List.append_assoc] using hedit

theorem edits_before_heading (hy : Bare y) (h : externalLinksHeading.find? t = some m) :
    Edits t (Text.trimEnd (t.take (m.offset t.length)) ++ y ++ t.drop (m.offset t.length)) := by
  obtain ⟨u, w, hsplit⟩ := Regex.splits_of_find? h
  have hw : Apart w := keepsApart true (by decide) _ _ _ _ hsplit.takes.reads
  have htake : t.take (m.offset t.length) = u := by
    rw [hsplit.offset, hsplit.text, List.take_left]
  have hdrop : t.drop (m.offset t.length) = w ++ m.after := by
    rw [hsplit.offset, hsplit.text, List.drop_left]
  have hedit := (harmless_trimEnd u).append
    ((Edits.of_apart hw (bare_append.mpr ⟨hy, hw.bare⟩)).append_right m.after)
  rw [← hsplit.text] at hedit
  simpa only [htake, hdrop, List.append_assoc] using hedit

theorem steady_addMissing (hp : p.Unmarked) (hv : Vocabulary.ofProfile p = .ok v) :
    Steady kind (addMissing v) := by
  have htemplate := bare_template hp hv
  have hfeed : Bare ("\n".toList ++ template v) := bare_append.mpr ⟨by decide, htemplate⟩
  have hlists : Bare ("\n\n==References==\n".toList ++ template v) :=
    bare_append.mpr ⟨by decide, htemplate⟩
  have hblank : Bare ("\n\n==References==\n".toList ++ template v ++ "\n\n".toList) :=
    bare_append.mpr ⟨hlists, by decide⟩
  intro t
  unfold addMissing
  split
  · exact .refl t
  · split
    · rename_i m hm
      rw [List.append_assoc _ "\n".toList]
      exact (edits_after_heading hfeed hm).keeps
    · dsimp only
      cases hexternal : externalLinksHeading.find? t with
      | some m =>
        dsimp only [Option.map_some, Option.orElse_some]
        rw [List.append_assoc (Text.trimEnd _)]
        exact (edits_before_heading hblank hexternal).keeps
      | none =>
        dsimp only [Option.map_none, Option.orElse_none]
        cases hline : Metadata.firstLine? v t with
        | some i =>
          obtain ⟨k, hk, rfl⟩ := firstLine?_eq_lineStart hline
          dsimp only
          rw [List.append_assoc (Text.trimEnd _)]
          exact keeps_insert_line hblank t hk
        | none => exact (harmless_trimEnd t).keeps.trans (keeps_append hlists _)

end ReferenceList

end Wikitext
