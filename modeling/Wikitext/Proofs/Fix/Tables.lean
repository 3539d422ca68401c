import Wikitext.Fix.Citations
import Wikitext.Fix.Dates
import Wikitext.Fix.Links
import Wikitext.Fix.References
import Wikitext.Fix.Syntax
import Wikitext.Fix.Typography
import Wikitext.Proofs.Fix.Harmless
import Wikitext.Proofs.Fix.Text
import Wikitext.Proofs.Mask.Case

/-!
# Fixes that are harmless by their patterns

For most replacements it is enough to look at the pattern. Either its matches
have no corner brackets and some character foreign to placeholders, or they are
made up anew from groups that stay. In reference tags, quotes around names are put
next to brackets, and punctuation moves over whole references, to the bracket at
their start.
-/

namespace Wikitext.Fix

open Mask Pattern

set_option maxRecDepth 8000

-- -----------------------------------------------------------------------------------------
-- Typography and dates
-- -----------------------------------------------------------------------------------------

theorem harmless_temperatures : Harmless temperatures :=
  .apply <| gentle_of_bare (by decide) fun m h => by
    simp [h, bare_map_toUpper, corners]

theorem harmless_spaceEntity : Harmless spaceEntity.apply :=
  .apply <| gentle_caseless_of_bare (by decide) fun _ _ => by decide

theorem harmless_numberAndUnit : Harmless numberAndUnit.apply :=
  .apply <| gentle_of_bare (by decide) fun m h => by simp [h, corners]

theorem harmless_nonBreakingSpaces : Harmless nonBreakingSpaces :=
  harmless_numberAndUnit.comp harmless_spaceEntity

theorem harmless_dashes : Harmless dashes := by
  refine .untilStable (.cons ?_ <| .cons ?_ <| .cons ?_ .nil)
  all_goals exact gentle_of_bare (by decide) fun m h => by simp [h, corners]

theorem isApart_breakRun : isApart (breakTag ++ many1 (blanks ++ breakTag)) = true := by
  have ha : breakTag.avoids corners = true := avoids_caseless caseClosure_corners (by decide)
  have hs : breakTag.strays ('m' :: marks) = true := strays_caseless caseClosure_cased (by decide)
  have hb : blanks.avoids corners = true := by decide
  rw [isApart, avoids_append, strays_append, ha, hs, many1, avoids, avoids_append, ha, hb]
  rfl

theorem harmless_lineBreakRuns : Harmless lineBreakRuns := fun t =>
  Harmless.replaceAll (gentle_of_bare isApart_breakRun fun m h => by
    split <;> decide) t

theorem harmless_dates : Harmless dates := by
  refine .untilStable (.cons ?_ <| .cons ?_ <| .cons ?_ <| .cons ?_ .nil)
  all_goals exact gentle_of_bare (by decide) fun m h => by simp [h, corners]

theorem harmless_dateOrdinals (title : Text) : Harmless (dateOrdinals title) := by
  have htable : Harmless (replaceUntilStable ordinalTable) := by
    refine .untilStable (.cons ?_ <| .cons ?_ <| .cons ?_ <| .cons ?_ .nil)
    all_goals exact gentle_of_bare (by decide) fun m h => by simp [h, corners]
  intro t
  unfold dateOrdinals
  split
  · exact .refl
  · exact htable t

-- -----------------------------------------------------------------------------------------
-- Citation templates
-- -----------------------------------------------------------------------------------------

theorem bare_ofNat (n : Nat) : Bare (Text.ofNat n) := by
  intro d hd hm
  have h := Text.isAsciiDigit_of_mem_ofNat hd
  have hno : ∀ c ∈ corners, Chars.isAsciiDigit c = false := by decide
  rw [hno d hm] at h
  cases h

theorem bare_padded (width n : Nat) : Bare (Text.padded width n) := by
  refine bare_append.mpr ⟨fun c hc => ?_, bare_ofNat n⟩
  rw [List.eq_of_mem_replicate hc]
  decide

theorem gentle_padDate {p : Pattern} (hp : isApart p = true) : Gentle p.caseless padDate :=
  gentle_caseless_of_bare hp fun m h => by
    have h0 : Bare m.text := h 0
    unfold padDate
    split
    · split
      · simp [h, bare_padded, corners]
      · exact h0
    · exact h0

theorem harmless_citations : Harmless citations := by
  have htable : Harmless (replaceUntilStable citationTable) := by
    refine .untilStable (.cons ?_ <| .cons ?_ <| .cons ?_ <| .cons ?_ .nil)
    all_goals exact gentle_of_bare (by decide) fun m h => by simp [h, corners]
  have hrepair : Harmless fun t => isoDateParameter.replaceAll padDate
      (replaceUntilStable citationTable t) :=
    .comp (.replaceAll <| gentle_padDate (by decide)) htable
  exact .untilStable <| .replaceAll <| (gentle_text _).trans fun m _ _ _ _ => hrepair m.text

-- -----------------------------------------------------------------------------------------
-- Markup
-- -----------------------------------------------------------------------------------------

theorem harmless_markupTable : Harmless (replaceUntilStable markupTable) := by
  refine .untilStable (.cons ?_ <| .cons ?_ <| .cons ?_ <| .cons ?_ <| .cons ?_ <| .cons ?_ <|
    .cons ?_ <| .cons ?_ <| .cons ?_ <| .cons ?_ .nil)
  · exact gentle_of_slots
      [.lit "[".toList, .group 1, .lit " ".toList, .group 2, .lit "]".toList] (by decide)
      fun m => by simp [fill, externalLink]
  · exact gentle_of_slots
      [.lit "[".toList, .group 1, .lit " ".toList, .group 2, .lit "]".toList] (by decide)
      fun m => by simp [fill, externalLink]
  · exact gentle_of_slots [.lit "[".toList, .group 1, .lit "]".toList] (by decide)
      fun m => by simp [fill]
  · exact gentle_of_slots
      [.lit "[".toList, .group 1, .lit " ".toList, .group 2, .lit "]".toList] (by decide)
      fun m => by simp [fill, externalLink]
  · exact gentle_of_slots
      [.lit "[[".toList, .group 1, .lit "|".toList, .group 2, .lit "]]".toList] (by decide)
      fun m => by simp [fill]
  · exact gentle_caseless_of_slots [.lit "'''".toList, .group 1, .lit "'''".toList] (by decide)
      fun m => by simp [fill]
  · exact gentle_caseless_of_slots [.lit "''".toList, .group 1, .lit "''".toList] (by decide)
      fun m => by simp [fill]
  · exact gentle_caseless_of_bare (by decide) fun _ _ => by decide
  · exact gentle_of_bare (by decide) fun _ _ => by decide
  · exact gentle_of_bare (by decide) fun m h => by simp [h, corners]

-- -----------------------------------------------------------------------------------------
-- Reference tags
-- -----------------------------------------------------------------------------------------

theorem harmless_refTagTable : Harmless (replaceUntilStable refTagTable) := by
  refine .untilStable (.cons ?_ <| .cons ?_ <| .cons ?_ <| .cons ?_ <| .cons ?_ .nil)
  · exact gentle_caseless_of_bare (by decide) fun _ _ => by decide
  · exact gentle_caseless_of_bare (by decide) fun _ _ => by decide
  · exact gentle_caseless_of_bare (by decide) fun _ _ => by decide
  · exact gentle_of_slots [.lit "<ref name=\"".toList, .group 1, .lit "\"".toList]
      (by decide) fun m => by simp [fill]
  · exact gentle_of_slots [.group 1, .lit [], .group 2] (by decide) fun m => by simp [fill]

theorem harmless_emptyNamedRef : Harmless emptyNamedRef.apply :=
  .apply <| gentle_caseless_of_slots [.lit "<ref".toList, .group 1, .lit " />".toList] (by decide)
    fun m => by simp [fill]

theorem harmless_emptyRef : Harmless emptyRef.apply :=
  .apply <| gentle_caseless_of_bare (by decide) fun _ _ => bare_nil

theorem harmless_simplifiedTags : Harmless simplifiedTags :=
  .untilStable <| harmless_emptyRef.comp harmless_emptyNamedRef

-- -----------------------------------------------------------------------------------------
-- Links
-- -----------------------------------------------------------------------------------------

theorem harmless_spaceRun : Harmless spaceRun.apply :=
  .apply <| gentle_of_bare (by decide) fun _ _ => by decide

theorem harmless_spaceBeforeEnd : Harmless spaceBeforeEnd.apply :=
  .apply <| gentle_of_slots [.lit "[[".toList, .group 1, .lit "]] ".toList] (by decide)
    fun m => by simp [fill]

theorem harmless_spaceAfterStart : Harmless spaceAfterStart.apply := by
  refine .apply (.either (f := (fill · [.lit "[[".toList, .group 1, .lit "]]".toList]))
    (g := (fill · [.lit " [[".toList, .group 1, .lit "]]".toList]))
    (gentle_of_slots _ (by decide) fun _ => rfl) (gentle_of_slots _ (by decide) fun _ => rfl) ?_)
  intro m
  dsimp only
  split <;> simp [fill]

theorem harmless_doubleSpaceInTarget : Harmless doubleSpaceInTarget.apply :=
  .apply <| (gentle_text _).trans fun m _ _ _ _ => harmless_spaceRun m.text

theorem harmless_linkEdges : Harmless linkEdges :=
  harmless_doubleSpaceInTarget.comp (harmless_spaceAfterStart.comp harmless_spaceBeforeEnd)

theorem harmless_emptyConstructs : Harmless emptyConstructs :=
  .untilStable <| .apply <| gentle_of_bare (by decide) fun _ _ => bare_nil

theorem harmless_bareExternalLink : Harmless bareExternalLink.apply :=
  .apply <| gentle_caseless_of_bare (by decide) fun m h => by simp [h, corners]

theorem harmless_mainArticle : Harmless mainArticle.apply :=
  .apply <| gentle_caseless_of_slots [.lit "\x7b\x7bMain|".toList, .group 1, .lit "\x7d\x7d".toList]
    (by decide) fun m => by simp [fill]

theorem harmless_furtherInformation : Harmless furtherInformation.apply :=
  .apply <| gentle_caseless_of_slots [.lit "\x7b\x7bFurther|".toList, .group 1, .lit "\x7d\x7d".toList]
    (by decide) fun m => by simp [fill]

theorem harmless_hatnotes : Harmless hatnotes :=
  harmless_furtherInformation.comp harmless_mainArticle

-- -----------------------------------------------------------------------------------------
-- Reference tags and punctuation
-- -----------------------------------------------------------------------------------------

theorem harmless_bareName : Harmless bareName.apply := by
  refine .apply ⟨fun {m b w r} hm => ?_⟩
  have hslots := (gentle_of_slots [.lit "<ref name=".toList, .group 1, .group 2, .lit ">".toList]
    (by decide) fun _ => rfl).edits hm
  have hslash : Bare (m.group 2) := group_bare false hm (by decide) (by decide)
  dsimp only
  split
  · have hfront : Edits "<ref name=".toList "<ref name=\"".toList :=
      .of_apart ⟨by decide, '<', by decide, by decide⟩ (by decide)
    have hend : Apart (m.group 2 ++ ">".toList) :=
      Apart.append_left ⟨by decide, '>', by decide, by decide⟩ hslash
    have hback : Edits (m.group 2 ++ ">".toList)
        ("\"".toList ++ (if (m.group 2).isEmpty then ">" else " />").toList) := by
      refine .of_apart hend ?_
      split <;> decide
    have h := hfront.append (hback.append_left (m.group 1))
    refine hslots.trans ?_
    simpa [fill] using h
  · exact hm.text ▸ .refl

theorem harmless_referenceTags : Harmless referenceTags :=
  (harmless_bareName.comp harmless_refTagTable).untilStable

/-- The mark is taken away and put before the first character of the references. -/
theorem harmless_punctuationBeforeRefs : Harmless punctuationBeforeRefs := by
  refine .untilStable (.replaceAll ⟨fun {m b w r} hm => ?_⟩)
  have hslots := (gentle_caseless_of_slots [.group 1, .group 2] (by decide) fun _ => rfl).edits hm
  simp only [fill, List.append_nil] at hslots
  have hmark : Bare (m.group 2) := group_bare true hm (by decide) (by decide)
  have hdrop : Edits (m.group 1 ++ m.group 2) (m.group 1) := by
    rcases group_apart true hm (by decide : (2 : Nat) ≠ 0) (by decide) with hg | hg
    · rw [hg, List.append_nil]
    · have h := (Edits.of_apart hg bare_nil).append_left (m.group 1)
      rwa [List.append_nil] at h
  have hput : Edits (m.group 1 ++ m.group 2) (m.group 2 ++ m.group 1) := by
    rcases group_begins true hm (by decide : (1 : Nat) ≠ 0) (by decide) with hg | ⟨x, g, hg, hx⟩
    · rw [hg, List.append_nil]
      exact .refl
    · have hx' : Bare (m.group 2 ++ [x]) :=
        bare_append.mpr ⟨hmark, (apart_singleton hx).bare⟩
      have h := (Edits.of_apart (apart_singleton hx) hx').append_right g
      rw [List.append_assoc, List.singleton_append, ← hg] at h
      exact hdrop.trans h
  refine hslots.trans ?_
  unfold punctuationFirst
  dsimp only
  split
  · exact hdrop
  · exact hput

end Wikitext.Fix
