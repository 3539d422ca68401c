import Wikitext.Fix.Links
import Wikitext.Proofs.Image.Link
import Wikitext.Proofs.SortKey

/-!
# Two readings of page names

`Title.sameName` compares names with their first letters in upper case, and
`Title.pattern` looks for a name with its first letter in upper or lower case
(`words_pattern`). The two agree about names that begin with a letter of two
forms, each the other case of the other one (`isMatch_eq_sameName`), as all
letters of ASCII do.

They disagree about other letters. A letter in title case is neither its upper
nor its lower case, so the pattern of a name that begins with one does not even
read the name itself (`isMatch_self_iff`), and a link of an article to itself
is not found then (`links_titleCase`).
-/

namespace Wikitext

open Pattern Regex
open Image (Simple initials simple_ofText toUpper_ne_nil)

-- -----------------------------------------------------------------------------------------
-- Whole texts
-- -----------------------------------------------------------------------------------------

namespace Pattern

def textStart : Pattern := .anchor .textStart

theorem reads_textStart : textStart.Reads b w r gs ↔ w = [] ∧ gs = [] ∧ b = none := by
  constructor
  · intro h
    have hgs := h.groups_eq_nil rfl
    cases h with
    | anchor ha hb _ => exact ⟨rfl, hgs, hb ▸ Option.isNone_iff_eq_none.mp ha⟩
  · rintro ⟨rfl, rfl, rfl⟩
    exact .anchor (c := ⟨none, r, 0, 0⟩) rfl rfl rfl

/-- The pattern, for a text from its start to its end. -/
def whole (p : Pattern) : Regex := (textStart ++ (p ++ textEnd)).compile

theorem isMatch_whole {p : Pattern} (hp : Simple p) : p.whole.isMatch t = true ↔ p.Words t := by
  have hsteady : (textStart ++ (p ++ textEnd)).steady = true := by
    rw [steady_append, steady_append, hp.steady]
    rfl
  rw [whole, isMatch_iff hsteady]
  constructor
  · rintro ⟨u, w, r, gs, rfl, h⟩
    obtain ⟨hstart, hrest⟩ := reads_seq_iff.mp h
    obtain ⟨rfl, -, hu⟩ := reads_textStart.mp hstart
    obtain ⟨rfl, hw⟩ := (reads_atEnd hp.anchorless).mp hrest
    have hnil : u = [] := by
      rw [Text.lastOf_eq, Option.or_none] at hu
      exact List.getLast?_eq_none_iff.mp hu
    rw [hnil]
    exact ⟨_, by simpa using hw⟩
  · rintro ⟨gs, h⟩
    refine ⟨[], t, [], gs, by simp, ?_⟩
    have hstart : textStart.Reads none [] (t ++ []) [] := reads_textStart.mpr ⟨rfl, rfl, rfl⟩
    have hread := Reads.seq hstart ((reads_atEnd hp.anchorless).mpr ⟨rfl, h⟩)
    rwa [List.append_nil, List.nil_append] at hread

end Pattern

namespace Title

-- -----------------------------------------------------------------------------------------
-- What the pattern of a name reads
-- -----------------------------------------------------------------------------------------

theorem simple_pattern (name : Text) : Simple (pattern name) := by
  cases name with
  | nil => exact ⟨rfl, rfl, rfl⟩
  | cons c cs =>
    unfold pattern patternWith
    dsimp only
    split
    · exact simple_ofText (c :: cs)
    · exact ((simple_ofText (Chars.toUpper c)).orElse (simple_ofText (Chars.toLower c))).append
        (simple_ofText cs)

theorem words_pattern : (pattern name).Words x ↔ x ∈ initials name := by
  cases name with
  | nil =>
    rw [initials, List.mem_singleton]
    exact words_ofText (t := [])
  | cons c cs =>
    by_cases hcase : Chars.toUpper c = Chars.toLower c
    · rw [initials, if_pos hcase, pattern, patternWith, if_pos (by simpa using hcase),
        List.mem_singleton]
      exact words_ofText
    · have halt := (simple_ofText (Chars.toUpper c)).orElse (simple_ofText (Chars.toLower c))
      have hwords : ∀ x, (ofText (Chars.toUpper c) <|> ofText (Chars.toLower c)).Words x ↔
          x = Chars.toUpper c ∨ x = Chars.toLower c := by
        intro x
        rw [words_alt, words_ofText, words_ofText]
      rw [initials, if_neg hcase, pattern, patternWith, if_neg (by simpa using hcase)]
      refine (words_append halt.anchorless (simple_ofText cs).anchorless).trans ?_
      simp only [hwords, words_ofText, List.mem_cons, List.not_mem_nil, or_false]
      constructor
      · rintro ⟨u, v, rfl, rfl | rfl, rfl⟩
        · exact .inl rfl
        · exact .inr rfl
      · rintro (rfl | rfl)
        · exact ⟨_, _, rfl, .inl rfl, rfl⟩
        · exact ⟨_, _, rfl, .inr rfl, rfl⟩

theorem isMatch_iff_mem_initials : (pattern a).whole.isMatch b = true ↔ b ∈ initials a :=
  (isMatch_whole (simple_pattern a)).trans words_pattern

/-- The pattern only reads its own name if the first letter is one of its own cases. -/
theorem isMatch_self_iff : (pattern (c :: cs)).whole.isMatch (c :: cs) = true ↔
    Chars.toUpper c = Chars.toLower c ∨ Chars.toUpper c = [c] ∨ Chars.toLower c = [c] := by
  have hown : ∀ t, c :: cs = t ++ cs ↔ t = [c] := fun t => by
    rw [← List.singleton_append, List.append_left_inj, eq_comm]
  rw [isMatch_iff_mem_initials, initials]
  split
  · rename_i hcase
    simp [hcase]
  · rename_i hcase
    simp only [List.mem_cons, List.not_mem_nil, or_false, hown, hcase, false_or]

-- -----------------------------------------------------------------------------------------
-- Letters of two forms
-- -----------------------------------------------------------------------------------------

/-- The two forms of the letter, which may be one, are the cases of both of them. -/
structure Paired (c upper lower : Char) : Prop where
  toUpper : Chars.toUpper c = [upper]
  toLower : Chars.toLower c = [lower]
  toUpper_lower : Chars.toUpper lower = [upper]
  toLower_upper : Chars.toLower upper = [lower]
  form : c = upper ∨ c = lower

theorem paired_ascii (h : c.toNat < 128) : Paired c c.toUpper c.toLower := by
  have hascii : ∀ n < 128, let c := Char.ofNat n
      (Chars.toUpper c = [c.toUpper] ∧ Chars.toLower c = [c.toLower]) ∧
        (Chars.toUpper c.toLower = [c.toUpper] ∧ Chars.toLower c.toUpper = [c.toLower]) ∧
        (c = c.toUpper ∨ c = c.toLower) := by decide
  obtain ⟨⟨hu, hl⟩, ⟨hul, hlu⟩, hform⟩ := Mask.ascii_induction
    (P := fun c => (Chars.toUpper c = [c.toUpper] ∧ Chars.toLower c = [c.toLower]) ∧
        (Chars.toUpper c.toLower = [c.toUpper] ∧ Chars.toLower c.toUpper = [c.toLower]) ∧
        (c = c.toUpper ∨ c = c.toLower)) hascii h
  exact ⟨hu, hl, hul, hlu, hform⟩

/-- A letter that is the upper case of another one is its own upper case. -/
theorem Paired.toUpper_upper (h : Paired c u l) : Chars.toUpper u = [u] := by
  obtain ⟨d, ds, hc, hd⟩ := Chars.toUpper_toUpper c
  obtain ⟨rfl, rfl⟩ : u = d ∧ [] = ds := List.cons.inj (h.toUpper.symm.trans hc)
  exact hd

theorem Paired.mem_initials_iff (h : Paired c u l) :
    b ∈ initials (c :: cs) ↔ b = u :: cs ∨ b = l :: cs := by
  rw [initials, h.toUpper, h.toLower]
  split
  · rename_i hcase
    obtain rfl : u = l := List.singleton_inj.mp hcase
    obtain rfl : c = u := h.form.elim id id
    simp
  · simp

theorem Paired.sameName_iff (h : Paired c u l) (h' : Paired d u' l') :
    sameName (c :: cs) (d :: ds) = true ↔ u = u' ∧ cs = ds := by
  simp [sameName, upperFirst, h.toUpper, h'.toUpper]

/-- For names that begin with letters of two forms, if they are not empty. -/
theorem isMatch_eq_sameName (ha : ∀ c ∈ a.head?, ∃ u l, Paired c u l)
    (hb : ∀ c ∈ b.head?, ∃ u l, Paired c u l) :
    (pattern a).whole.isMatch b = sameName a b := by
  rw [Bool.eq_iff_iff, isMatch_iff_mem_initials]
  cases a with
  | nil =>
    cases b with
    | nil => simp [initials, sameName]
    | cons d ds => simp [initials, sameName, upperFirst, toUpper_ne_nil]
  | cons c cs =>
    obtain ⟨u, l, hc⟩ := ha c rfl
    rw [hc.mem_initials_iff]
    cases b with
    | nil => simp [sameName, upperFirst, toUpper_ne_nil]
    | cons d ds =>
      obtain ⟨u', l', hd⟩ := hb d rfl
      rw [hc.sameName_iff hd]
      constructor
      · rintro (heq | heq)
        · obtain ⟨rfl, rfl⟩ := List.cons.inj heq
          have hu : [u'] = [d] := hd.toUpper.symm.trans hc.toUpper_upper
          exact ⟨(List.singleton_inj.mp hu).symm, rfl⟩
        · obtain ⟨rfl, rfl⟩ := List.cons.inj heq
          have hu : [u'] = [u] := hd.toUpper.symm.trans hc.toUpper_lower
          exact ⟨(List.singleton_inj.mp hu).symm, rfl⟩
      · rintro ⟨rfl, rfl⟩
        have hl : [l'] = [l] := hd.toLower_upper.symm.trans hc.toLower_upper
        obtain rfl := List.singleton_inj.mp hl
        exact hd.form.imp (fun hform => by rw [hform]) fun hform => by rw [hform]

/-- The letter is neither its upper nor its lower case. -/
theorem links_titleCase :
    let title := "ǅungla".toList
    (pattern title).whole.isMatch title = false ∧
      Fix.links title "[[ǅungla]]".toList = "[[ǅungla]]".toList := by
  decide +kernel

-- The lower case of the Kelvin sign is a letter with another upper case.
example : (pattern ['\u212A']).whole.isMatch ['k'] = true ∧ sameName ['\u212A'] ['k'] = false := by
  decide +kernel

end Title

end Wikitext
