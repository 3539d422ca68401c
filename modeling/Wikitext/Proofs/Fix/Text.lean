import Wikitext.Category
import Wikitext.Proofs.Fix.Harmless
import Wikitext.Proofs.Mask.Case
import Wikitext.Proofs.Text.Blank

/-!
# Harmless functions of texts

Trimming, replacing a fixed piece and normalising a name make edits that keep
placeholders, wherever in a text they are applied.
-/

namespace Wikitext.Fix

open Mask

-- -----------------------------------------------------------------------------------------
-- White space
-- -----------------------------------------------------------------------------------------

theorem not_mark_of_isBlank (h : Chars.isBlank c = true) : c ∉ marks := by
  intro hm
  have hall : ∀ c ∈ marks, Chars.isBlank c = false := by decide
  rw [hall c hm] at h
  cases h

theorem edits_of_blank {x : Text} (h : ∀ c ∈ x, Chars.isBlank c = true) : Edits x [] :=
  .clear fun c hc => not_mark_of_isBlank (h c hc)

theorem harmless_trimStart : Harmless Text.trimStart := by
  intro t
  have hb : Edits (t.takeWhile Chars.isBlank) [] := edits_of_blank fun c hc =>
    List.all_eq_true.mp List.all_takeWhile c hc
  have h := hb.append_right (t.dropWhile Chars.isBlank)
  rwa [List.takeWhile_append_dropWhile] at h

theorem harmless_trimEnd : Harmless Text.trimEnd := by
  intro t
  obtain ⟨x, hx, hb⟩ := Text.trimEnd_append t
  have h := (edits_of_blank hb).append_left (Text.trimEnd t)
  rwa [← hx, List.append_nil] at h

theorem harmless_trim : Harmless Text.trim := harmless_trimEnd.comp harmless_trimStart

theorem bare_trim (h : Bare t) : Bare (Text.trim t) := h.subset (Text.trim_isInfix t).subset

theorem bare_of_blank {x : Text} (h : ∀ c ∈ x, Chars.isBlank c = true) : Bare x := fun c hc hm =>
  not_mark_of_isBlank (h c hc) (corners_subset_marks hm)

theorem bare_of_trim (h : Bare (Text.trim t)) : Bare t := by
  obtain ⟨x, hx, hb⟩ := Text.trimEnd_append (Text.trimStart t)
  have hstart : Bare (Text.trimStart t) := by
    rw [hx]
    exact bare_append.mpr ⟨h, bare_of_blank hb⟩
  have hfront : Bare (t.takeWhile Chars.isBlank) := bare_of_blank fun c hc =>
    List.all_eq_true.mp List.all_takeWhile c hc
  have ht := bare_append.mpr ⟨hfront, hstart⟩
  rwa [Text.trimStart, List.takeWhile_append_dropWhile] at ht

-- -----------------------------------------------------------------------------------------
-- Pieces
-- -----------------------------------------------------------------------------------------

theorem slice_append (t : Text) (h : start ≤ stop) :
    t.take start ++ Text.slice t start stop ++ t.drop stop = t := by
  have hdrop : t.drop stop = (t.drop start).drop (stop - start) := by
    rw [List.drop_drop, Nat.add_sub_cancel' h]
  rw [hdrop, List.append_assoc, Text.slice, List.take_append_drop, List.take_append_drop]

theorem join_cons_cons (sep c : Text) (part : Text) (parts : List Text) :
    Text.join sep ((c ++ part) :: parts) = c ++ Text.join sep (part :: parts) := by
  cases parts <;> simp [Text.join]

section
variable {piece by' : Text} (hp : Apart piece) (hb : Bare by')
include hp hb

theorem edits_join (parts : List Text) : Edits (Text.join piece parts) (Text.join by' parts) := by
  induction parts with
  | nil => exact .refl
  | cons part parts ih =>
    cases parts with
    | nil => exact .refl
    | cons => exact ((Edits.of_apart hp hb).append_left part).append ih

theorem harmless_replace : Harmless (Text.replace piece by') := by
  intro t
  have h := edits_join hp hb (Text.cut piece t)
  rwa [Text.join_cut hp.ne_nil] at h

theorem harmless_replaceFirst : Harmless (Text.replaceFirst piece by') := by
  intro t
  have ht := Text.join_cut hp.ne_nil t
  unfold Text.replaceFirst
  split
  · rename_i part next parts hc
    have h := ((Edits.of_apart hp hb).append_left part).append_right (Text.join piece (next :: parts))
    rw [hc] at ht
    change Edits (Text.join piece (part :: next :: parts)) _ at h
    rwa [ht] at h
  · exact .refl

end

-- -----------------------------------------------------------------------------------------
-- Names
-- -----------------------------------------------------------------------------------------

theorem harmless_map {f : Char → Char} (hf : ∀ c, Edits [c] [f c]) : Harmless (List.map f) := by
  intro t
  induction t with
  | nil => exact .refl
  | cons c t ih => exact (hf c).append ih

theorem edits_blank_char {c d : Char} (hc : Chars.isBlank c = true) (hd : d ∉ corners) :
    Edits [c] [d] :=
  .of_apart (apart_singleton (not_mark_of_isBlank hc)) (by simpa using hd)

/-- By induction on the text. A word ends where a blank follows, and that blank becomes the space
before the next word; so texts that begin with a blank are looked at a second time. -/
theorem edits_words (t : Text) : Edits t (Text.join [' '] (Text.words t)) ∧
    ∀ c cs, t = c :: cs → Chars.isBlank c = true →
      Edits t (' ' :: Text.join [' '] (Text.words t)) := by
  induction t with
  | nil => exact ⟨.refl, by simp⟩
  | cons c cs ih =>
    obtain ⟨ih, ihb⟩ := ih
    by_cases hc : Chars.isBlank c = true
    · have hw : Text.words (c :: cs) = Text.words cs := by rw [Text.words.eq_def]; simp [hc]
      rw [hw]
      have hdrop : Edits [c] [] := edits_of_blank fun d hd => List.mem_singleton.mp hd ▸ hc
      exact ⟨hdrop.append ih, fun _ _ _ _ => (edits_blank_char hc (by decide)).append ih⟩
    · refine ⟨?_, fun d rest he hd => absurd ((List.cons.inj he).1 ▸ hd) hc⟩
      cases cs with
      | nil =>
        have hw : Text.words [c] = [[c]] := by
          rw [Text.words.eq_def]
          simp [hc]
        rw [hw]
        exact .refl
      | cons d rest =>
        cases hws : Text.words (d :: rest) with
        | nil =>
          have hw : Text.words (c :: d :: rest) = [[c]] := by
            rw [Text.words.eq_def]
            simp [hc, hws]
          rw [hws] at ih
          rw [hw]
          exact ih.append_left [c]
        | cons w ws =>
          rw [hws] at ih ihb
          by_cases hd : Chars.isBlank d = true
          · have hw : Text.words (c :: d :: rest) = [c] :: w :: ws := by
              rw [Text.words.eq_def]
              simp [hc, hws, hd]
            rw [hw]
            exact (ihb d rest rfl hd).append_left [c]
          · have hw : Text.words (c :: d :: rest) = (c :: w) :: ws := by
              rw [Text.words.eq_def]
              simp [hc, hws, hd]
            have h := ih.append_left [c]
            rwa [← join_cons_cons, List.singleton_append, List.singleton_append, ← hw] at h

theorem harmless_normalName : Harmless Category.normalName := by
  intro t
  have hmap : Harmless (List.map fun c => if c == '_' then ' ' else c) := harmless_map fun c => by
    split
    · rename_i hc
      obtain rfl := eq_of_beq hc
      exact .of_apart (apart_singleton (by decide)) (by decide)
    · exact .refl
  exact ((hmap t).trans (edits_words _).1).trans (edits_upperFirst _)

end Wikitext.Fix
