import Wikitext.Fix.Headings
import Wikitext.Proofs.Fix.Text
import Wikitext.Proofs.Text.Basic

/-!
# Headings

The name of a heading is changed at its ends, or for a standard name as a
whole. A heading that is dropped repeats the title of the article, so it has no
corner brackets if the title has none.
-/

namespace Wikitext.Fix

open Mask Pattern

-- -----------------------------------------------------------------------------------------
-- The name of a section
-- -----------------------------------------------------------------------------------------

theorem apart_boldMark : Apart boldMark := ⟨by decide, '\'', by decide, by decide⟩

theorem endsWith_iff : Text.endsWith t p = true ↔ ∃ front, t = front ++ p := by
  rw [Text.endsWith, Text.startsWith_iff, List.reverse_prefix]
  exact ⟨fun ⟨front, h⟩ => ⟨front, h.symm⟩, fun ⟨front, h⟩ => ⟨front, h.symm⟩⟩

/-- The marks at both ends are taken away, and the white space that was behind them. -/
theorem withoutBold_cases (name : Text) : withoutBold name = name ∨
    ∃ inner, name = boldMark ++ (inner ++ boldMark) ∧ withoutBold name = Text.trim inner := by
  unfold withoutBold
  split
  · rename_i h
    simp only [Bool.and_eq_true, decide_eq_true_eq] at h
    obtain ⟨⟨hlen, hstarts⟩, hends⟩ := h
    obtain ⟨rest, rfl⟩ := Text.startsWith_iff.mp hstarts
    obtain ⟨front, hfront⟩ := endsWith_iff.mp hends
    have hthree : boldMark.length = 3 := rfl
    have hmarks : boldMark.length ≤ front.length := by
      have hlength := congrArg List.length hfront
      simp only [List.length_append] at hlen hlength
      omega
    obtain ⟨inner, rfl⟩ := List.prefix_of_prefix_length_le
      (List.prefix_append boldMark rest) ⟨boldMark, hfront.symm⟩ hmarks
    obtain rfl : rest = inner ++ boldMark :=
      List.append_cancel_left (hfront.trans (List.append_assoc _ _ _))
    have hslice : Text.slice (boldMark ++ (inner ++ boldMark)) 3
        ((boldMark ++ (inner ++ boldMark)).length - 3) = inner := by
      have hn : (boldMark ++ (inner ++ boldMark)).length - 3 - 3 = inner.length := by
        simp only [List.length_append]
        omega
      rw [Text.slice, ← hthree, List.drop_left, hthree, hn, List.take_left]
    rw [hslice]
    dsimp only
    split
    · exact .inl rfl
    · exact .inr ⟨inner, rfl, rfl⟩
  · exact .inl rfl

theorem harmless_withoutBold : Harmless withoutBold := by
  intro name
  rcases withoutBold_cases name with h | ⟨inner, rfl, h⟩
  · rw [h]
  · rw [h]
    have hmark : Edits boldMark [] := .of_apart apart_boldMark bare_nil
    have hmarks := hmark.append (hmark.append_left inner)
    rw [List.append_nil] at hmarks
    exact hmarks.trans (harmless_trim inner)

theorem edits_dropColon (name : Text) :
    Edits name ((Text.dropSuffix? ":".toList name).getD name) := by
  cases h : Text.dropSuffix? ":".toList name with
  | none => exact .refl
  | some front =>
    have hname : name = front ++ ":".toList := Text.dropSuffix?_eq_some.mp h
    have hcolon : Edits ":".toList [] := .clear (by decide)
    have hedit := hcolon.append_left front
    rwa [List.append_nil, ← hname] at hedit

/-- A text that agrees with a standard name up to case has no corner brackets either. -/
theorem harmless_standardName : Harmless standardName := by
  have hnames : ∀ s ∈ standardNames, Bare s.2.toList ∧ Bare (s.1.toList.map Char.toLower) ∧
      ∃ c ∈ s.1.toList.map Char.toLower, c ∉ 'm' :: marks := by decide
  have hlower : ∀ c ∈ marks, c.toLower ∈ 'm' :: marks := by decide
  intro name
  unfold standardName
  split
  · rename_i spelling proper hfind
    obtain ⟨hproper, hbare, d, hd, hn⟩ := hnames _ (List.mem_of_find?_eq_some hfind)
    have heq : name.map Char.toLower = spelling.toList.map Char.toLower := by
      simpa [Text.eqAsciiCase] using List.find?_some hfind
    rw [← heq] at hbare hd
    obtain ⟨c, hc, rfl⟩ := List.mem_map.mp hd
    exact .of_apart ⟨bare_of_map_toLower hbare, c, hc, fun hm => hn (hlower c hm)⟩ hproper
  · exact .refl

-- -----------------------------------------------------------------------------------------
-- Headings
-- -----------------------------------------------------------------------------------------

/-- What stands before the name and after it keeps apart from placeholders. -/
theorem heading_split {p name : Pattern} (hm : Takes p m b w r)
    (hs : p.shapes = some [[.out lineStart, .group 1 (many1 (lit "=")), .group 2 name,
      .group 3 (many1 (lit "=")), .out (.seq gap lineEnd)]]) :
    ∃ x y, w = x ++ (m.group 2 ++ y) ∧ Apart x ∧ Apart y := by
  obtain ⟨s, hmem, gs, hf, hhas⟩ := fits_of_takes hm hs
  obtain rfl := List.mem_singleton.mp hmem
  obtain ⟨x, _, rfl, hx, g₁, _, _, rfl, rfl, h₁, g₂, _, _, rfl, rfl, h₂, g₃, _, _, rfl, rfl, h₃,
    y, _, rfl, hy, rfl, rfl⟩ := hf
  have hg : m.group 2 = g₂ := (hhas (by simp [Shape.indices])).group_eq (by simp)
  have hmarks : isApart (many1 (lit "=")) = true := by decide
  have hx' : Bare x := hx.avoids (by decide)
  have hy' : Bare y := hy.avoids (by decide)
  refine ⟨x ++ g₁, g₃ ++ y, by simp [hg], ?_, ?_⟩
  · exact (keepsApart false hmarks _ _ _ _ h₁).append_left hx'
  · exact (keepsApart false hmarks _ _ _ _ h₃).append_right hy'

theorem gentle_normalHeading {p name : Pattern}
    (hs : p.shapes = some [[.out lineStart, .group 1 (many1 (lit "=")), .group 2 name,
      .group 3 (many1 (lit "=")), .out (.seq gap lineEnd)]]) : Gentle p normalHeading where
  edits {m b w r} hm := by
    obtain ⟨x, y, hw, hx, hy⟩ := heading_split hm hs
    have htext : Edits w m.text := hm.text ▸ .refl
    have hmarks : Bare (List.replicate (max (m.group 1).length 2) '=') := fun c hc => by
      rw [List.eq_of_mem_replicate hc]
      decide
    have hspace : Bare (if (m.group 2).head?.any (" \t".toList.contains ·) then " ".toList
        else []) := by
      split <;> decide
    unfold normalHeading
    dsimp only
    split
    · exact htext
    · split
      · exact htext
      · have hname := ((harmless_trim (m.group 2)).trans (harmless_withoutBold _)).trans
          ((edits_dropColon _).trans ((harmless_trimEnd _).trans (harmless_standardName _)))
        have hfront := Edits.of_apart hx (bare_append.mpr ⟨hmarks, hspace⟩)
        have hback := Edits.of_apart hy (bare_append.mpr ⟨hspace, hmarks⟩)
        have h := hfront.append (Edits.append hname hback)
        rw [← hw] at h
        simpa only [List.append_assoc] using h

/-- A heading is dropped where the text begins with it and it has the title. -/
theorem dropTitleHeading_cases (title t : Text) : dropTitleHeading title t = t ∨
    ∃ m, heading.find? (Text.trimStart t) = some m ∧
      m.offset (Text.trimStart t).length = 0 ∧
      Title.sameName (Text.trim (m.group 2)) title = true ∧
      dropTitleHeading title t = Text.trim m.after := by
  unfold dropTitleHeading
  dsimp only
  split
  · rename_i m hfind
    split
    · rename_i h
      rw [Bool.and_eq_true, beq_iff_eq] at h
      exact .inr ⟨m, hfind, h.1, h.2, rfl⟩
    · exact .inl rfl
  · exact .inl rfl

theorem harmless_dropTitleHeading (h : Bare title) : Harmless (dropTitleHeading title) := by
  intro t
  rcases dropTitleHeading_cases title t with hsame | ⟨m, hfind, hfirst, htitle, hdrop⟩
  · rw [hsame]
  · obtain ⟨u, w, hsplit⟩ := Regex.splits_of_find? hfind
    obtain rfl := hsplit.nothing_before hfirst
    obtain ⟨x, y, rfl, hx, hy⟩ := heading_split hsplit.takes rfl
    have hname : Bare (m.group 2) := bare_of_trim (bare_of_sameName htitle h)
    have hall : Apart (x ++ (m.group 2 ++ y)) := hx.append_right (bare_append.mpr ⟨hname, hy.bare⟩)
    have hcut := (Edits.of_apart hall bare_nil).append_right m.after
    rw [← List.nil_append (_ ++ m.after), ← hsplit.text] at hcut
    rw [hdrop]
    exact ((harmless_trimStart t).trans hcut).trans (harmless_trim _)

theorem harmless_headings (h : Bare title) : Harmless (headings title) := by
  have hform : Harmless (heading.replaceAll normalHeading) := .replaceAll (gentle_normalHeading rfl)
  exact ((harmless_dropTitleHeading h).comp hform).untilStable

end Wikitext.Fix
