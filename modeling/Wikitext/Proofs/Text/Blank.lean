import Mathlib.Data.List.Chain
import Wikitext.Proofs.Text.Basic

/-!
# White space

What is left of a text without its white space, and white space at its end.

White space divides a text into words wherever it stands, and how much of it there is makes no
difference (`words_append_run`). In a squeezed text there is one space where there were several. What
stands in it stands in the text too, up to the number of spaces (`exists_of_squeeze`), and it makes no
difference to squeeze a part of a text first (`squeeze_append_squeeze`).
-/

namespace Wikitext

/-- There is nothing but white space. -/
def Blank (t : Text) : Prop := ∀ c ∈ t, Chars.isBlank c = true

theorem blank_nil : Blank [] := by simp [Blank]

theorem blank_singleton : Blank [c] ↔ Chars.isBlank c = true := List.forall_mem_singleton

theorem Blank.append (hs : Blank s) (ht : Blank t) : Blank (s ++ t) := fun c hc =>
  (List.mem_append.mp hc).elim (hs c) (ht c)

theorem Blank.subset (ht : Blank t) (h : s ⊆ t) : Blank s := fun c hc => ht c (h hc)

theorem Blank.not_mem (hb : Blank b) (hc : Chars.isBlank c = false) : c ∉ b := fun hm => by
  rw [hb c hm] at hc
  cases hc

/-- White space ends where something else begins. -/
theorem Blank.append_inj (hb : Blank b) (hb' : Blank b') (ht : ∀ c ∈ t.head?, Chars.isBlank c = false)
    (ht' : ∀ c ∈ t'.head?, Chars.isBlank c = false) (h : b ++ t = b' ++ t') : b = b' ∧ t = t' :=
  Text.append_inj_of_stop hb ht hb' ht' h

namespace Text

theorem isBlankText_iff : isBlankText t = true ↔ Blank t := List.all_eq_true

/-- The characters that are not white space. -/
def visible (t : Text) : Text := t.filter fun c => !Chars.isBlank c

@[simp] theorem visible_append (s t : Text) : visible (s ++ t) = visible s ++ visible t :=
  List.filter_append s t

theorem visible_eq_nil : visible t = [] ↔ Blank t := by
  simp [visible, Blank]

/-- The first character that is not white space comes from the first part that has one. -/
theorem head_visible_append (hb : Blank b) (t : Text) : (visible (b ++ t)).head? = (visible t).head? := by
  rw [visible_append, visible_eq_nil.mpr hb, List.nil_append]

theorem visible_cons_solid (hc : Chars.isBlank c = false) (t : Text) : visible (c :: t) = c :: visible t := by
  simp [visible, hc]

/-- A text with something other than white space at its end has something to see. -/
theorem visible_ne_nil (hne : t ≠ []) (ht : ∀ c ∈ t.getLast?, Chars.isBlank c = false) :
    visible t ≠ [] := by
  intro hnil
  have hlast := ht _ (List.getLast?_eq_some_getLast hne)
  rw [visible_eq_nil.mp hnil _ (List.getLast_mem hne)] at hlast
  cases hlast

-- -----------------------------------------------------------------------------------------
-- White space at the end
-- -----------------------------------------------------------------------------------------

theorem trimEnd_trimEnd (t : Text) : trimEnd (trimEnd t) = trimEnd t :=
  List.rdropWhile_idempotent Chars.isBlank t

theorem trimEnd_eq_nil : trimEnd t = [] ↔ Blank t := List.rdropWhile_eq_nil_iff

/-- What has been trimmed has white space neither at its start nor at its end. -/
theorem solid_of_trim (h : trim t = t) :
    (∀ c ∈ t.head?, Chars.isBlank c = false) ∧ ∀ c ∈ t.getLast?, Chars.isBlank c = false := by
  have hstart : trimStart t = t := by
    refine List.IsSuffix.eq_of_length_le (List.dropWhile_suffix _) ?_
    conv_lhs => rw [← h]
    exact (trimEnd_isPrefix _).length_le
  have hend : trimEnd t = t := by rwa [trim, hstart] at h
  refine ⟨fun c hc => head_dropWhile Chars.isBlank t c (by rwa [← trimStart, hstart]), fun c hc => ?_⟩
  refine head_dropWhile Chars.isBlank t.reverse c ?_
  have hrev : t.reverse.dropWhile Chars.isBlank = t.reverse := by
    rw [← List.reverse_reverse (t.reverse.dropWhile Chars.isBlank)]
    exact congrArg List.reverse hend
  rwa [hrev, List.head?_reverse]

/-- A text that begins with a solid character. -/
theorem solid_cons (hx : Chars.isBlank x = false) (t : Text) :
    ∀ c ∈ (x :: t).head?, Chars.isBlank c = false := by
  intro c hc
  obtain rfl : x = c := by simpa using hc
  exact hx

theorem trimEnd_append_blank (hb : Blank b) (t : Text) : trimEnd (t ++ b) = trimEnd t := by
  have hrev : ∀ c ∈ b.reverse, Chars.isBlank c = true := fun c hc => hb c (List.mem_reverse.mp hc)
  rw [trimEnd, List.reverse_append, List.dropWhile_append_of_pos hrev, trimEnd]

/-- White space is only trimmed behind what does not end in it. -/
theorem trimEnd_solid_append (hf : ∀ c ∈ f.getLast?, Chars.isBlank c = false) (t : Text) :
    trimEnd (f ++ t) = f ++ trimEnd t := by
  have hrev : ∀ c ∈ f.reverse.head?, Chars.isBlank c = false := by rwa [List.head?_reverse]
  rw [trimEnd, List.reverse_append, List.dropWhile_append]
  split
  · rename_i hnil
    rw [← trimStart, trimStart_of_not_blank hrev, List.reverse_reverse, trimEnd,
      List.isEmpty_iff.mp hnil, List.reverse_nil, List.append_nil]
  · rw [List.reverse_append, List.reverse_reverse, trimEnd]

theorem trimEnd_append (t : Text) : ∃ x, t = trimEnd t ++ x ∧ Blank x := by
  refine ⟨(t.reverse.takeWhile Chars.isBlank).reverse, ?_, fun c hc => ?_⟩
  · rw [trimEnd, ← List.reverse_append, List.takeWhile_append_dropWhile, List.reverse_reverse]
  · exact List.all_eq_true.mp List.all_takeWhile c (List.mem_reverse.mp hc)

theorem visible_trimEnd (t : Text) : visible (trimEnd t) = visible t := by
  obtain ⟨b, ht, hb⟩ := trimEnd_append t
  conv_rhs => rw [ht]
  rw [visible_append, visible_eq_nil.mpr hb, List.append_nil]

-- -----------------------------------------------------------------------------------------
-- White space at both ends
-- -----------------------------------------------------------------------------------------

theorem trim_isInfix (t : Text) : trim t <:+: t :=
  (trimEnd_isPrefix _).isInfix.trans (List.dropWhile_suffix _).isInfix

theorem trim_of_solid (hstart : ∀ c ∈ t.head?, Chars.isBlank c = false)
    (hend : ∀ c ∈ t.getLast?, Chars.isBlank c = false) : trim t = t := by
  rw [trim, trimStart_of_not_blank hstart, trimEnd_of_not_blank hend]

/-- White space around a text makes no difference to what is left when it is trimmed. -/
theorem trim_between (hb : Blank b) (hb' : Blank b') (t : Text) : trim (b ++ (t ++ b')) = trim t := by
  have hstart : trimStart (b ++ (t ++ b')) = trimStart (t ++ b') := List.dropWhile_append_of_pos hb
  rw [trim, trim, hstart, trimStart, List.dropWhile_append]
  split
  · rename_i hnil
    rw [trimStart, List.isEmpty_iff.mp hnil, List.dropWhile_eq_nil_iff.mpr hb']
  · exact trimEnd_append_blank hb' _

/-- A text is what is left of it between white space. If nothing is left, all white space counts as
what stands in front of it. -/
theorem exists_trim_between (t : Text) : ∃ b b', Blank b ∧ Blank b' ∧ t = b ++ (trim t ++ b') ∧
    (trim t = [] → b' = []) := by
  obtain ⟨b', hstart, hb'⟩ := trimEnd_append (trimStart t)
  have hb : Blank (t.takeWhile Chars.isBlank) := fun c hc => List.all_eq_true.mp List.all_takeWhile c hc
  refine ⟨t.takeWhile Chars.isBlank, b', hb, hb', ?_, fun hnil => ?_⟩
  · rw [trim, ← hstart, trimStart, List.takeWhile_append_dropWhile]
  · rw [trim] at hnil
    rw [hnil, List.nil_append] at hstart
    cases b' with
    | nil => rfl
    | cons c b' =>
      have hsolid := head_dropWhile Chars.isBlank t c (by rw [← trimStart, hstart]; rfl)
      rw [hb' c List.mem_cons_self] at hsolid
      cases hsolid

theorem exists_trimStart_append (hr : ∀ c ∈ r.head?, Chars.isBlank c = false) (u : Text) :
    ∃ u', trimStart (u ++ r) = u' ++ r := by
  induction u with
  | nil =>
    cases r with
    | nil => exact ⟨[], rfl⟩
    | cons c r => exact ⟨[], by simp [trimStart, hr c rfl]⟩
  | cons c u ih =>
    cases hc : Chars.isBlank c with
    | true =>
      obtain ⟨u', hu⟩ := ih
      exact ⟨u', by rw [List.cons_append, trimStart, List.dropWhile_cons_of_pos hc]; exact hu⟩
    | false =>
      exact ⟨c :: u, by rw [List.cons_append, trimStart, List.dropWhile_cons_of_neg (by simp [hc])]⟩

theorem exists_trimEnd_append (hr : ∀ c ∈ r.getLast?, Chars.isBlank c = false) (v : Text) :
    ∃ v', trimEnd (r ++ v) = r ++ v' := by
  have hrev : ∀ c ∈ r.reverse.head?, Chars.isBlank c = false := by rwa [List.head?_reverse]
  obtain ⟨u, hu⟩ := exists_trimStart_append hrev v.reverse
  rw [trimStart, ← List.reverse_append] at hu
  exact ⟨u.reverse, by rw [trimEnd, hu, List.reverse_append, List.reverse_reverse]⟩

/-- What stands in a text with no white space at its own ends is still there when the text is
trimmed. -/
theorem infix_trim (hne : w ≠ []) (hstart : ∀ c ∈ w.head?, Chars.isBlank c = false)
    (hend : ∀ c ∈ w.getLast?, Chars.isBlank c = false) (h : w <:+: t) : w <:+: trim t := by
  obtain ⟨u, v, rfl⟩ := h
  obtain ⟨c, w, rfl⟩ := List.exists_cons_of_ne_nil hne
  obtain ⟨u', hu⟩ := exists_trimStart_append (r := (c :: w) ++ v) hstart u
  have hlast : ∀ d ∈ (u' ++ c :: w).getLast?, Chars.isBlank d = false := fun d hd =>
    hend d (by simpa [List.getLast?_append] using hd)
  obtain ⟨v', hv⟩ := exists_trimEnd_append hlast v
  exact ⟨u', v', by rw [trim, List.append_assoc u, hu, ← List.append_assoc u', hv]⟩

theorem mem_trim (hc : Chars.isBlank c = false) (hm : c ∈ t) : c ∈ trim t := by
  obtain ⟨u, v, rfl⟩ := List.append_of_mem hm
  have hone : [c] <:+: trim (u ++ c :: v) := by
    refine infix_trim (by simp) (fun d hd => ?_) (fun d hd => ?_) ⟨u, v, by simp⟩
    · obtain rfl : c = d := by simpa using hd
      exact hc
    · obtain rfl : c = d := by simpa using hd
      exact hc
  exact hone.subset (List.mem_singleton_self c)

open Chars (isBlank)

-- -----------------------------------------------------------------------------------------
-- Words
-- -----------------------------------------------------------------------------------------

/-- What is between the white space, where there is anything. -/
theorem words_eq (t : Text) : words t = (t.splitOnP isBlank).filter (!·.isEmpty) := by
  induction t with
  | nil => rw [words.eq_def, List.splitOnP_nil]; rfl
  | cons c t ih =>
    rw [words.eq_def, List.splitOnP_cons_eq_if_modifyHead]
    dsimp only
    cases hc : isBlank c with
    | true => rw [if_pos rfl, if_pos rfl, ih]; rfl
    | false =>
      rw [if_neg Bool.false_ne_true, if_neg Bool.false_ne_true]
      cases t with
      | nil => rfl
      | cons d t =>
        rw [ih, List.splitOnP_cons_eq_if_modifyHead]
        cases hd : isBlank d with
        | true => cases hws : (t.splitOnP isBlank).filter (!·.isEmpty) <;> simp [hws, hd]
        | false =>
          obtain ⟨w, ws, hws⟩ := List.exists_cons_of_ne_nil (List.splitOnP_ne_nil isBlank t)
          simp [hws, hd]

theorem words_append_cons (hc : isBlank c = true) (x y : Text) :
    words (x ++ c :: y) = words x ++ words y := by
  rw [words_eq, words_eq, words_eq, List.splitOnP_append_cons x y hc, List.filter_append]

theorem words_cons_blank (hc : isBlank c = true) (t : Text) : words (c :: t) = words t :=
  words_append_cons hc [] t

theorem words_blank_append (hs : Blank s) (t : Text) : words (s ++ t) = words t := by
  induction s with
  | nil => rfl
  | cons c s ih =>
    obtain ⟨hc, hs⟩ := List.forall_mem_cons.mp hs
    rw [List.cons_append, words_cons_blank hc, ih hs]

theorem words_append_blank (hs : Blank s) (t : Text) : words (t ++ s) = words t := by
  cases s with
  | nil => rw [List.append_nil]
  | cons c s =>
    obtain ⟨hc, hs⟩ := List.forall_mem_cons.mp hs
    have hblank : words s = [] := by
      rw [← List.append_nil s, words_blank_append hs]
      rfl
    rw [words_append_cons hc, hblank, List.append_nil]

theorem words_append_run (hs : Blank s) (hne : s ≠ []) (x y : Text) :
    words (x ++ (s ++ y)) = words x ++ words y := by
  obtain ⟨c, s, rfl⟩ := List.exists_cons_of_ne_nil hne
  obtain ⟨hc, hs⟩ := List.forall_mem_cons.mp hs
  rw [List.cons_append, words_append_cons hc, words_blank_append hs]

/-- White space behind white space, or at the start, makes no difference. -/
theorem words_behind_blank (hx : ∀ c ∈ x.getLast?, isBlank c = true) (hs : Blank s) (y : Text) :
    words (x ++ (s ++ y)) = words (x ++ y) := by
  rcases List.eq_nil_or_concat x with rfl | ⟨x, c, rfl⟩
  · exact words_blank_append hs y
  · have hc : isBlank c = true := hx c (by simp)
    rw [List.concat_eq_append, List.append_assoc, List.append_assoc, List.singleton_append,
      List.singleton_append, words_append_cons hc, words_append_cons hc, words_blank_append hs]

-- -----------------------------------------------------------------------------------------
-- One space for several
-- -----------------------------------------------------------------------------------------

/-- There is nothing but spaces. -/
def Spaces (s : Text) : Prop := ∀ c ∈ s, c = ' '

theorem Spaces.blank (hs : Spaces s) : Blank s := fun c hc => by
  rw [hs c hc]
  decide

/-- The text with one space in the place of each run of them. -/
def squeeze : Text → Text
  | [] => []
  | c :: t => if c = ' ' ∧ t.head? = some ' ' then squeeze t else c :: squeeze t

theorem squeeze_double (t : Text) : squeeze (' ' :: ' ' :: t) = squeeze (' ' :: t) := by
  rw [squeeze, if_pos ⟨rfl, rfl⟩]

theorem squeeze_cons (h : ¬ (c = ' ' ∧ t.head? = some ' ')) : squeeze (c :: t) = c :: squeeze t := by
  rw [squeeze, if_neg h]

theorem head_squeeze (t : Text) : (squeeze t).head? = t.head? := by
  induction t with
  | nil => rfl
  | cons c t ih =>
    rw [squeeze]
    split
    · rename_i h
      rw [ih, h.2, h.1]
      rfl
    · rfl

theorem squeeze_eq_nil : squeeze t = [] ↔ t = [] := by
  rw [← List.head?_eq_none_iff, head_squeeze, List.head?_eq_none_iff]

theorem mem_squeeze (c : Char) (t : Text) : c ∈ squeeze t ↔ c ∈ t := by
  fun_induction squeeze t with
  | case1 => rfl
  | case2 d t h ih =>
    obtain ⟨rfl, hhead⟩ := h
    rw [ih, List.mem_cons, or_iff_right_of_imp]
    rintro rfl
    exact List.mem_of_head? hhead
  | case3 d t _ ih => rw [List.mem_cons, List.mem_cons, ih]

/-- No two spaces stand side by side in the squeezed text. -/
theorem isChain_squeeze (t : Text) : (squeeze t).IsChain fun x y => ¬ (x = ' ' ∧ y = ' ') := by
  fun_induction squeeze t with
  | case1 => exact .nil
  | case2 c t _ ih => exact ih
  | case3 c t h ih =>
    rw [List.isChain_cons]
    refine ⟨fun y hy => ?_, ih⟩
    rw [head_squeeze] at hy
    rintro ⟨rfl, rfl⟩
    exact h ⟨rfl, hy⟩

theorem squeeze_of_isChain (h : t.IsChain fun x y => ¬ (x = ' ' ∧ y = ' ')) : squeeze t = t := by
  induction t with
  | nil => rfl
  | cons c t ih =>
    rw [List.isChain_cons] at h
    rw [squeeze_cons (fun hc => h.1 ' ' hc.2 ⟨hc.1, rfl⟩), ih h.2]

/-- Texts that do not meet in spaces are squeezed apart. -/
theorem squeeze_append (h : x.getLast? = some ' ' → y.head? ≠ some ' ') :
    squeeze (x ++ y) = squeeze x ++ squeeze y := by
  fun_induction squeeze x with
  | case1 => rfl
  | case2 c t hc ih =>
    obtain ⟨d, t, rfl⟩ := List.exists_cons_of_ne_nil (l := t) (by rintro rfl; simp at hc)
    rw [← ih (by simpa using h), List.cons_append, squeeze, if_pos (by simpa using hc)]
  | case3 c t hc ih =>
    cases t with
    | nil =>
      rw [List.singleton_append, squeeze_cons fun hy => h (by simp [hy.1]) hy.2]
      rfl
    | cons d t =>
      rw [List.cons_append, squeeze_cons (by simpa using hc), ih (by simpa using h), List.cons_append]

theorem squeeze_append_cons (hc : c ≠ ' ') (x y : Text) :
    squeeze (x ++ c :: y) = squeeze x ++ c :: squeeze y := by
  rw [squeeze_append (by simp [hc]), squeeze_cons (by simp [hc])]

theorem squeeze_spaces (h : Spaces s) (hne : s ≠ []) : squeeze s = [' '] := by
  induction s with
  | nil => exact absurd rfl hne
  | cons c s ih =>
    obtain ⟨rfl, hs⟩ := List.forall_mem_cons.mp h
    cases s with
    | nil => rfl
    | cons d s =>
      obtain rfl := hs d List.mem_cons_self
      rw [squeeze_double, ih hs (by simp)]

/-- What is in front of a sign of the squeezed text and behind it comes from what is there in the text. -/
theorem exists_of_squeeze (hc : c ≠ ' ') (h : squeeze t = x ++ c :: y) :
    ∃ x' y', t = x' ++ c :: y' ∧ squeeze x' = x ∧ squeeze y' = y := by
  fun_induction squeeze t generalizing x with
  | case1 => simp at h
  | case2 d t hd ih =>
    obtain ⟨x', y', rfl, rfl, rfl⟩ := ih h
    obtain ⟨rfl, hhead⟩ := hd
    have hnext : x'.head? = some ' ' := by
      cases x' with
      | nil => exact absurd (by simpa using hhead) hc
      | cons => simpa using hhead
    exact ⟨' ' :: x', y', rfl, by rw [squeeze, if_pos ⟨rfl, hnext⟩], rfl⟩
  | case3 d t hd ih =>
    cases x with
    | nil =>
      obtain ⟨rfl, rfl⟩ := List.cons.inj h
      exact ⟨[], t, rfl, rfl, rfl⟩
    | cons e x =>
      obtain ⟨rfl, htail⟩ := List.cons.inj h
      obtain ⟨x', y', rfl, rfl, rfl⟩ := ih htail
      refine ⟨d :: x', y', rfl, squeeze_cons fun hx => hd ⟨hx.1, ?_⟩, rfl⟩
      rw [List.head?_append, hx.2]
      rfl

/-- It makes no difference to squeeze the end of a text first. -/
theorem squeeze_append_squeeze (x y : Text) : squeeze (x ++ squeeze y) = squeeze (x ++ y) := by
  induction x with
  | nil => exact squeeze_of_isChain (isChain_squeeze y)
  | cons c x ih =>
    have hhead : (x ++ squeeze y).head? = (x ++ y).head? := by
      rw [List.head?_append, List.head?_append, head_squeeze]
    rw [List.cons_append, List.cons_append, squeeze, squeeze, ih, hhead]

theorem squeeze_squeeze_append (x y : Text) : squeeze (squeeze x ++ y) = squeeze (x ++ y) := by
  fun_induction squeeze x with
  | case1 => rfl
  | case2 c t hc ih =>
    rw [ih, List.cons_append, squeeze, if_pos ⟨hc.1, by rw [List.head?_append, hc.2]; rfl⟩]
  | case3 c t _ ih =>
    have hhead : (squeeze t ++ y).head? = (t ++ y).head? := by
      rw [List.head?_append, List.head?_append, head_squeeze]
    rw [List.cons_append, List.cons_append, squeeze, squeeze, ih, hhead]

end Text

end Wikitext
