import Wikitext.Fix.Characters
import Wikitext.Fix.Dates
import Wikitext.Proofs.Fix.Harmless
import Wikitext.Proofs.Fix.Text
import Wikitext.Proofs.Pattern.Phrase

/-!
# Character references

Decoding a reference is harmless unless the character is a corner bracket. The
text is masked by then, so what is known of the references is known of the text
in the open, before its dates were fixed; `cornerFree_dates` is about the way
from there.

References do not overlap, and a character that is decoded is no part of one, unless
it is a letter or a digit of ASCII. Such a one may complete a reference around it,
which one pass from the left to the right does not see. In a text without references
to letters and digits all references that are left after one pass are those that stay
as they are (`stays_of_replaces`).
-/

namespace Wikitext.Fix

open Mask Pattern

-- -----------------------------------------------------------------------------------------
-- References to corner brackets
-- -----------------------------------------------------------------------------------------

def reference (name : Text) : Text := '&' :: (name ++ [';'])

/-- No character reference in the text stands for a corner bracket. -/
def CornerFree (t : Text) : Prop :=
  ∀ name, reference name <:+: t → ∀ c ∈ referenced? name, c ∉ corners

theorem cornerFree_of_infix (h : CornerFree t) (hu : u <:+: t) : CornerFree u := fun name hi =>
  h name (hi.trans hu)

theorem cornerFree_of_not_mem (h : '&' ∉ t) : CornerFree t := fun _ hi =>
  absurd (hi.subset List.mem_cons_self) h

/-- What the pattern for references matches is one. -/
theorem eq_reference {name : Pattern} (h : (lit "&" ++ name ++ lit ";").Reads b w r gs) :
    ∃ x, w = reference x := by
  cases h with
  | seq h hend =>
    cases h with
    | seq hstart _ =>
      cases hstart with
      | char hx =>
        cases hend with
        | char hy =>
          obtain rfl := eq_of_beq hx
          obtain rfl := eq_of_beq hy
          exact ⟨_, List.append_assoc _ _ _⟩

/-- Masking leaves the references as they were: a reference without corner brackets in the masked
text `u` stands in `t`. -/
theorem edits_characters (h : CornerFree t)
    (hu : ∀ x, Apart x → x <:+: u → x <:+: t) : Edits u (characters u) := by
  refine edits_replaceAll fun {m b w r} hhit hm => ?_
  have hw : Apart w := keepsApart false (by decide) _ _ _ _ hm.reads
  have hi : w <:+: u := by
    obtain ⟨_, v, w', hv, hm'⟩ := (Regex.cuts_pieces _ u).takes_of_hit hhit
    obtain rfl : w' = w := hm'.text.symm.trans hm.text
    exact ⟨v, m.after, by rw [hv, List.append_assoc]⟩
  obtain ⟨name, rfl⟩ := eq_reference hm.reads
  have htext : Edits (reference name) m.text := hm.text ▸ .refl
  have hname : (m.text.drop 1).dropLast = name := by
    rw [hm.text, reference, List.drop_succ_cons, List.drop_zero, List.dropLast_concat]
  unfold decodeReference
  rw [hname]
  split
  · rename_i c hc
    split
    · exact htext
    · exact .of_apart hw (by simpa using h name (hu _ hw hi) c hc)
  · exact htext

-- -----------------------------------------------------------------------------------------
-- References and dates
-- -----------------------------------------------------------------------------------------

/-- Characters that dates are written with, and references to corner brackets never have. -/
def dateMarks : List Char := [' ', '–', 's']

theorem mem_of_lookupName {name : String} (h : Chars.lookupName name fuel lo hi = some code) :
    (name, code) ∈ Chars.namedReferences.toList ∨ (name, code) = ("", 0) := by
  fun_induction Chars.lookupName name fuel lo hi with
  | case1 => cases h
  | case2 fuel lo hi _ mid key code' hget hkey =>
    obtain rfl := eq_of_beq hkey
    obtain rfl := Option.some.inj h
    rw [Array.getD_eq_getD_getElem?] at hget
    cases hm : Chars.namedReferences[mid]? with
    | none =>
      rw [hm, Option.getD_none] at hget
      exact .inr hget.symm
    | some e =>
      rw [hm, Option.getD_some] at hget
      exact .inl (hget ▸ Array.mem_toList_iff.mpr (Array.mem_of_getElem? hm))
  | case3 _ _ _ _ _ _ _ _ _ _ ih => exact ih h
  | case4 _ _ _ _ _ _ _ _ _ _ ih => exact ih h
  | case5 => cases h

theorem cornerNames : ∀ e ∈ Chars.namedReferences.toList, e.2 = 0x230A ∨ e.2 = 0x230B →
    ∀ c ∈ dateMarks, c ∉ e.1.toList := by
  decide +kernel

theorem number?_eq_none {t : Text} (hd : d ∈ t) (h : Chars.hexValue? d = none) : Text.number? base t = none := by
  refine if_neg fun hall => ?_
  simp only [Bool.and_eq_true, List.all_eq_true] at hall
  have := hall.2 d hd
  simp [Chars.digitValue?, h] at this

theorem scalar?_eq_some (h : Chars.scalar? n = some c) : c.toNat = n := by
  unfold Chars.scalar? at h
  split at h
  · rename_i hv
    obtain rfl := Option.some.inj h
    rw [Char.ofNat, dif_pos hv]
    rfl
  · cases h

theorem referenced?_not_mem_corners {name : Text} (hd : d ∈ name) (hm : d ∈ dateMarks)
    (h : referenced? name = some c) : c ∉ corners := by
  have hmarks : ∀ d ∈ dateMarks, d ≠ '#' ∧ d ≠ 'x' ∧ d ≠ 'X' ∧ Chars.hexValue? d = none := by decide
  obtain ⟨hhash, hx, hX, hhex⟩ := hmarks d hm
  unfold referenced? at h
  split at h
  · rename_i digits
    have hdigits : d ∈ digits := by simpa [hhash, hx] using hd
    simp [number?_eq_none hdigits hhex] at h
  · rename_i digits
    have hdigits : d ∈ digits := by simpa [hhash, hX] using hd
    simp [number?_eq_none hdigits hhex] at h
  · rename_i digits _ _
    have hdigits : d ∈ digits := by simpa [hhash] using hd
    simp [number?_eq_none hdigits hhex] at h
  · obtain ⟨code, hcode, hc⟩ := Option.bind_eq_some_iff.mp h
    obtain rfl := scalar?_eq_some hc
    intro hcorner
    have hvalue : c.toNat = 0x230A ∨ c.toNat = 0x230B := by
      simp only [corners, List.mem_cons, List.not_mem_nil, or_false] at hcorner
      rcases hcorner with rfl | rfl
      · exact .inl rfl
      · exact .inr rfl
    rcases mem_of_lookupName hcode with hmem | he
    · exact cornerNames _ hmem hvalue d hm (by simpa using hd)
    · simp only [Prod.mk.injEq] at he
      omega

/-- What is written for a date cannot be part of a reference to a corner bracket. -/
structure Dated (w : Text) : Prop where
  plain : ∀ c ∈ w, c ∉ ['&', ';']
  marked : ∃ c ∈ w, c ∈ dateMarks

theorem Dated.append_left (h : Dated v) (hu : ∀ c ∈ u, c ∉ ['&', ';']) : Dated (u ++ v) := by
  obtain ⟨c, hc, hm⟩ := h.marked
  exact ⟨List.forall_mem_append.mpr ⟨hu, h.plain⟩, c, List.mem_append_right _ hc, hm⟩

theorem Dated.append_right (h : Dated u) (hv : ∀ c ∈ v, c ∉ ['&', ';']) : Dated (u ++ v) := by
  obtain ⟨c, hc, hm⟩ := h.marked
  exact ⟨List.forall_mem_append.mpr ⟨h.plain, hv⟩, c, List.mem_append_left _ hc, hm⟩

theorem infix_of_append_left {y : Text} (hd : d ∉ x) (h : d :: y <:+: x ++ v) : d :: y <:+: v := by
  induction x with
  | nil => exact h
  | cons c x ih =>
    rw [List.mem_cons, not_or] at hd
    rcases List.infix_cons_iff.mp h with hc | h
    · exact absurd (List.cons_prefix_cons.mp hc).1 hd.1
    · exact ih hd.2 h

theorem infix_of_append_right {y : Text} (hd : d ∉ x) (h : y ++ [d] <:+: u ++ x) :
    y ++ [d] <:+: u := by
  rw [← List.reverse_infix] at h ⊢
  rw [List.reverse_append, List.reverse_append] at h
  rw [List.reverse_append]
  exact infix_of_append_left (by simpa using hd) h

/-- A stretch that has no `c` lies on one side of each. -/
theorem infix_cons_cases {y : Text} {c : Char} (hc : c ∉ y) (h : y <:+: u ++ c :: v) : y <:+: u ∨ y <:+: v := by
  obtain ⟨a, b, hab⟩ := h
  rw [List.append_assoc] at hab
  rcases List.append_eq_append_iff.mp hab with ⟨k, rfl, hk⟩ | ⟨k, rfl, hk⟩
  · rcases List.append_eq_append_iff.mp hk with ⟨l, rfl, -⟩ | ⟨l, rfl, hl⟩
    · exact .inl ⟨a, l, by rw [List.append_assoc]⟩
    · cases l with
      | nil => exact .inl (by simpa using (List.suffix_append a k).isInfix)
      | cons d l =>
        rw [List.cons_append, List.cons.injEq] at hl
        exact absurd (by simp [hl.1]) hc
  · cases k with
    | nil =>
      cases y with
      | nil => exact .inl (List.nil_infix)
      | cons d y =>
        rw [List.nil_append, List.cons_append, List.cons.injEq] at hk
        exact absurd (by simp [hk.1]) hc
    | cons d k =>
      rw [List.cons_append, List.cons.injEq] at hk
      exact .inr ⟨k, b, by rw [hk.2, List.append_assoc]⟩

/-- No reference to a corner bracket overlaps what is written for a date. -/
theorem Dated.infix_cases (hw : Dated w) (hn : ∀ c ∈ name, c ∉ dateMarks)
    (h : reference name <:+: u ++ (w ++ v)) : reference name <:+: u ∨ reference name <:+: v := by
  have hamp : '&' ∉ w := fun hm => hw.plain _ hm (by decide)
  have hend : ';' ∉ w := fun hm => hw.plain _ hm (by decide)
  obtain ⟨c, hc, hm⟩ := hw.marked
  obtain ⟨x, y, rfl⟩ := List.append_of_mem hc
  simp only [List.mem_append, List.mem_cons, not_or] at hamp hend
  have hname : c ∉ reference name := by
    have hends : c ≠ '&' ∧ c ≠ ';' := ⟨Ne.symm hamp.2.1, Ne.symm hend.2.1⟩
    have hc : c ∉ name := fun hc => hn c hc hm
    simp [reference, hc, hends]
  have hparts : u ++ (x ++ c :: y ++ v) = u ++ x ++ c :: (y ++ v) := by simp
  rw [hparts] at h
  rcases infix_cons_cases hname h with h | h
  · exact .inl (infix_of_append_right (y := '&' :: name) hend.1 h)
  · exact .inr (infix_of_append_left hamp.2.2 h)

/-- By induction along the pieces; `a` is the kept text in front. -/
theorem reference_of_dates {f : Match → Text} (hc : Cuts p b t ps)
    (hf : ∀ {m b w r}, Takes p m b w r → Dated (f m)) (hn : ∀ c ∈ name, c ∉ dateMarks) (a : Text)
    (h : reference name <:+: a ++ ps.flatMap fun
      | .kept t => t
      | .hit m => f m) : reference name <:+: a ++ t := by
  induction hc generalizing a with
  | nil => exact h
  | @kept b u r ps _ ih =>
    rw [List.flatMap_cons, ← List.append_assoc] at h
    rw [← List.append_assoc]
    exact ih (a ++ u) h
  | @hit m w b r ps hm _ ih =>
    rw [List.flatMap_cons] at h
    rcases (hf hm).infix_cases hn h with h | h
    · exact h.trans (List.prefix_append _ _).isInfix
    · exact (ih [] h).trans ((List.suffix_append _ _).trans (List.suffix_append _ _)).isInfix

theorem cornerFree_replaceAll {p : Pattern} {f : Match → Text} (hf : ∀ {m b w r}, Takes p m b w r → Dated (f m))
    (h : CornerFree t) : CornerFree (p.compile.replaceAll f t) := by
  intro name hi c hc
  by_cases hn : ∀ d ∈ name, d ∉ dateMarks
  · exact h name (reference_of_dates (Regex.cuts_pieces p t) hf hn [] hi) c hc
  · simp only [not_forall, not_not] at hn
    obtain ⟨d, hd, hm⟩ := hn
    exact referenced?_not_mem_corners hd hm hc

theorem cornerFree_dates (h : CornerFree t) : CornerFree (dates t) := by
  refine untilStable_related (R := fun t u => CornerFree t → CornerFree u) (fun _ h => h)
    (fun h h' ht => h' (h ht)) (fun t h => ?_) t h
  have hstep : ∀ {p : Pattern} {f : Match → Text}, p.avoids ['&', ';'] = true →
      (∀ m, (∀ i, ∀ c ∈ m.group i, c ∉ ['&', ';']) → Dated (f m)) →
      ∀ {t}, CornerFree t → CornerFree ((Replacement.of p f).apply t) := by
    intro p f hp hf t ht
    refine cornerFree_replaceAll (fun {m b w r} hm => hf m fun i c hc => ?_) ht
    exact hm.reads.avoids hp c (hm.group_subset i hc)
  have hspace : Dated " ".toList := ⟨by decide, by decide⟩
  have hdash : Dated "–".toList := ⟨by decide, by decide⟩
  have hletter : Dated "s".toList := ⟨by decide, by decide⟩
  refine hstep (by decide) (fun m hg => ?_) <| hstep (by decide) (fun m hg => ?_) <|
    hstep (by decide) (fun m hg => ?_) <| hstep (by decide) (fun m hg => ?_) h
  · exact (((hspace.append_left (hg 1)).append_right (hg 2)).append_right hdash.plain).append_right
      (hg 3)
  · exact (((hdash.append_left (hg 1)).append_right (hg 2)).append_right hspace.plain).append_right
      (hg 3)
  · exact hletter.append_left (List.forall_mem_append.mpr ⟨hg 1, hg 2⟩)
  · exact (hspace.append_left (hg 1)).append_right (hg 2)

-- -----------------------------------------------------------------------------------------
-- What references are made of
-- -----------------------------------------------------------------------------------------

def referenceName : Pattern := firstOf [
  lit "#" ++ between 1 7 asciiDigit,
  lit "#" ++ oneOf "xX" ++ between 1 6 hexDigit,
  .char Chars.isAsciiLetter ++ between 1 31 (.char Chars.isAsciiAlphanumeric)]

def referencePattern : Pattern := lit "&" ++ referenceName ++ lit ";"

theorem characterReference_eq : characterReference = referencePattern.compile := rfl

theorem lexical_reference : referencePattern.Lexical := ⟨rfl, rfl, rfl⟩

/-- What the names of references are made of. -/
def isNamePart (c : Char) : Bool := Chars.isAsciiAlphanumeric c || c == '#'

theorem isAsciiAlphanumeric_of_isHexDigit (h : Chars.isHexDigit c = true) :
    Chars.isAsciiAlphanumeric c = true := by
  unfold Chars.isHexDigit Chars.hexValue? at h
  unfold Chars.isAsciiAlphanumeric Chars.isAsciiLetter
  split at h
  · simp [*]
  · have hlow : 'f' ≤ 'z' := by decide
    have hhigh : 'F' ≤ 'Z' := by decide
    split at h
    · rename_i hc
      simp only [Bool.and_eq_true, decide_eq_true_eq] at hc
      simp [hc.1, Char.le_trans hc.2 hlow]
    · split at h
      · rename_i hc
        simp only [Bool.and_eq_true, decide_eq_true_eq] at hc
        simp [hc.1, Char.le_trans hc.2 hhigh]
      · cases h

theorem exists_name (h : referencePattern.Words w) :
    ∃ name, w = reference name ∧ ∀ c ∈ name, isNamePart c = true := by
  obtain ⟨_, _, rfl, h, ⟨_, hend⟩⟩ := (words_append rfl rfl).mp h
  obtain ⟨_, name, rfl, ⟨_, hstart⟩, hname⟩ := (words_append rfl rfl).mp h
  obtain ⟨rfl, -⟩ := forms_ofText.mp hstart
  obtain ⟨rfl, -⟩ := forms_ofText.mp hend
  refine ⟨name, by simp [reference], hname.all fun c hc => ?_⟩
  simp only [isNamePart, Bool.or_eq_false_iff, beq_eq_false_iff_ne] at hc
  obtain ⟨hletter, hhash⟩ := hc
  have hhex : Chars.isHexDigit c = false := by
    by_contra hhex
    rw [isAsciiAlphanumeric_of_isHexDigit (by simpa using hhex)] at hletter
    cases hletter
  have hx : c ≠ 'x' := by rintro rfl; exact absurd hletter (by decide)
  have hX : c ≠ 'X' := by rintro rfl; exact absurd hletter (by decide)
  have hparts := Bool.or_eq_false_iff.mp hletter
  simp [referenceName, firstOf, avoids, avoids_append, lit, avoids_ofText, between, asciiDigit,
    hexDigit, oneOf, hletter, hhash.symm, hhex, hx, hX, hparts]

theorem separate_references : Separate referencePattern.Words := by
  intro w w' a r r' hw hw' h
  obtain ⟨name, rfl, hname⟩ := exists_name hw
  obtain ⟨name', rfl, hname'⟩ := exists_name hw'
  have hplain : ∀ {x : Text}, (∀ c ∈ x, isNamePart c = true) → '&' ∉ x ∧ ';' ∉ x := fun hx =>
    ⟨fun hm => absurd (hx _ hm) (by decide), fun hm => absurd (hx _ hm) (by decide)⟩
  cases a with
  | nil =>
    simp only [reference, List.cons_append, List.nil_append, List.append_assoc, List.cons.injEq,
      true_and] at h
    obtain ⟨rfl, -⟩ := append_cons_inj (hplain hname).2 (hplain hname').2 h
    exact .inl ⟨rfl, rfl⟩
  | cons c a =>
    obtain ⟨rfl, hrest⟩ : '&' = c ∧ name ++ [';'] ++ r = a ++ '&' :: (name' ++ [';'] ++ r') :=
      List.cons.inj h
    have hamp : '&' ∉ name ++ [';'] := by simp [(hplain hname).1]
    obtain ⟨a', rfl⟩ := exists_append_of_not_mem hamp hrest
    exact .inr ⟨a', rfl⟩

-- -----------------------------------------------------------------------------------------
-- Decoding
-- -----------------------------------------------------------------------------------------

theorem decodeReference_cases (hm : m.text = reference name) : decodeReference m = reference name ∨
    ∃ c, referenced? name = some c ∧ staysEncoded c = false ∧ decodeReference m = [c] := by
  have hname : (m.text.drop 1).dropLast = name := by
    rw [hm, reference, List.drop_succ_cons, List.drop_zero, List.dropLast_concat]
  unfold decodeReference
  rw [hname, hm]
  split
  · rename_i c hc
    split
    · exact .inl rfl
    · rename_i hstays
      exact .inr ⟨c, hc, Bool.eq_false_iff.mpr hstays, rfl⟩
  · exact .inl rfl

theorem decodeReference_congr {m m' : Match} (h : m.text = m'.text) :
    decodeReference m = decodeReference m' := by
  unfold decodeReference
  rw [h]

/-- No character reference in the text stands for a letter or a digit of ASCII. -/
def LetterFree (t : Text) : Prop :=
  ∀ name, reference name <:+: t → ∀ c ∈ referenced? name, Chars.isAsciiAlphanumeric c = false

/-- A decoded character is no part of a reference. -/
theorem not_mem_reference (hc : Chars.isAsciiAlphanumeric c = false) (hstays : staysEncoded c = false)
    (hname : ∀ d ∈ name, isNamePart d = true) : c ∉ reference name := by
  have hmark : ∀ d ∈ "&#;".toList, c ≠ d := by
    rintro d hd rfl
    have hencoded : ∀ d ∈ "&#;".toList, staysEncoded d = true := by decide
    rw [hencoded c hd] at hstays
    cases hstays
  intro hmem
  simp only [reference, List.mem_cons, List.mem_append, List.not_mem_nil, or_false] at hmem
  rcases hmem with hmem | hmem | hmem
  · exact hmark '&' (by decide) hmem
  · have hpart := hname c hmem
    rw [isNamePart, hc, Bool.false_or, beq_iff_eq] at hpart
    exact hmark '#' (by decide) hpart
  · exact hmark ';' (by decide) hmem

/-- By induction on the references of the first text. -/
theorem stays_of_replaces (h : Replaces referencePattern decodeReference b t t') (ht : LetterFree t)
    (hw : referencePattern.Words w) (hin : w <:+: t') {m : Match} (hm : m.text = w) :
    decodeReference m = w := by
  induction h with
  | rest hvacant => exact absurd hin (hvacant.free lexical_reference w hw)
  | @hit b u v r m' r' hvacant hm' _ ih =>
    have hrest : LetterFree r := fun name hi => ht name (hi.trans ⟨u ++ v, [], by simp⟩)
    have hv : referencePattern.Words v := ⟨_, hm'.reads.anywhere rfl none []⟩
    obtain ⟨name, rfl, hname⟩ := exists_name hv
    obtain ⟨name', rfl, hname'⟩ := exists_name hw
    rcases decodeReference_cases hm'.text with hkept | ⟨c, hc, hstays, hdecoded⟩
    · rw [hkept] at hin
      rcases separate_references.word_cases hw hv hin with hin | heq | hin
      · exact absurd hin (hvacant.free lexical_reference _ hw)
      · rw [heq, decodeReference_congr (hm.trans (heq.trans hm'.text.symm)), hkept]
      · exact ih hrest hin
    · have hletter := ht name ⟨u, r, List.append_assoc _ _ _⟩ c hc
      rw [hdecoded] at hin
      rcases infix_cons_cases (not_mem_reference hletter hstays hname') hin with hin | hin
      · exact absurd hin (hvacant.free lexical_reference _ hw)
      · exact ih hrest hin

/-- One pass decodes all references of a text in which none stands for a letter or a digit. -/
theorem characters_characters (h : LetterFree t) : characters (characters t) = characters t := by
  unfold characters
  rw [characterReference_eq]
  refine replaceAll_eq_self lexical_reference fun m hm => ?_
  obtain ⟨hw, hin⟩ := (found_iff lexical_reference separate_references _ m.text).mp ⟨m, hm, rfl⟩
  exact stays_of_replaces (replaces_replaceAll rfl rfl _ t) h hw hin rfl

end Wikitext.Fix
