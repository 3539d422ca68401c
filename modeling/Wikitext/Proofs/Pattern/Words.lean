import Wikitext.Proofs.Pattern.Outline
import Wikitext.Proofs.Pattern.Shape
import Wikitext.Proofs.Text.Upper

/-!
# The words of a pattern, part by part

A pattern without anchors forms a word from the words of its parts, wherever they stand. Signs of
ASCII stand for themselves also where letter case does not count, and a pattern that is between
doubled brackets forms words between them (`Enclosing`).
-/

namespace Wikitext.Pattern

-- -----------------------------------------------------------------------------------------
-- Checks on patterns that are put together
-- -----------------------------------------------------------------------------------------

theorem nullable_caseless (p : Pattern) : p.caseless.nullable = p.nullable := by
  induction p with
  | seq p q ihp ihq | alt p q ihp ihq => simp only [caseless, nullable, ihp, ihq]
  | capture i p ih => exact ih
  | times least most greedy p ih => simp only [caseless, nullable, ih]
  | _ => rfl

theorem steady_caseless (p : Pattern) : p.caseless.steady = p.steady := by
  induction p with
  | seq p q ihp ihq | alt p q ihp ihq => simp only [caseless, steady, ihp, ihq]
  | capture i p ih => exact ih
  | times least most greedy p ih => simp only [caseless, steady, nullable_caseless, ih]
  | _ => rfl

theorem anchorless_caseless (p : Pattern) : p.caseless.anchorless = p.anchorless := by
  induction p with
  | seq p q ihp ihq | alt p q ihp ihq => simp only [caseless, anchorless, ihp, ihq]
  | capture i p ih | times least most greedy p ih => exact ih
  | _ => rfl

theorem steady_append (p q : Pattern) : (p ++ q).steady = (p.steady && q.steady) := rfl

theorem nullable_append (p q : Pattern) : (p ++ q).nullable = (p.nullable && q.nullable) := rfl

theorem anchorless_append (p q : Pattern) :
    (p ++ q).anchorless = (p.anchorless && q.anchorless) := rfl

theorem caseless_append (p q : Pattern) : (p ++ q).caseless = p.caseless ++ q.caseless := rfl

theorem inOrder_cons_steady (p : Pattern) (ps : List Pattern) :
    (inOrder (p :: ps)).steady = (p.steady && (inOrder ps).steady) := by
  cases ps with
  | nil => exact (Bool.and_true _).symm
  | cons => rfl

theorem inOrder_cons_anchorless (p : Pattern) (ps : List Pattern) :
    (inOrder (p :: ps)).anchorless = (p.anchorless && (inOrder ps).anchorless) := by
  cases ps with
  | nil => exact (Bool.and_true _).symm
  | cons => rfl

theorem steady_ofText (t : Text) : (ofText t).steady = true := by
  unfold ofText
  induction t with
  | nil => rfl
  | cons x t ih => rw [List.map_cons, inOrder_cons_steady, ih]; rfl

theorem steady_inOrder {ps : List Pattern} (h : ∀ p ∈ ps, p.steady = true) :
    (inOrder ps).steady = true := by
  induction ps with
  | nil => rfl
  | cons p ps ih =>
    rw [List.forall_mem_cons] at h
    rw [inOrder_cons_steady, h.1, ih h.2, Bool.and_self]

theorem steady_firstOf {ps : List Pattern} (h : ∀ p ∈ ps, p.steady = true) :
    (firstOf ps).steady = true := by
  induction ps with
  | nil => rfl
  | cons p ps ih =>
    rw [List.forall_mem_cons] at h
    cases ps with
    | nil => exact h.1
    | cons => exact Bool.and_eq_true _ _ |>.mpr ⟨h.1, ih h.2⟩

theorem anchorless_ofText (t : Text) : (ofText t).anchorless = true := by
  unfold ofText
  induction t with
  | nil => rfl
  | cons x t ih => rw [List.map_cons, inOrder_cons_anchorless, ih]; rfl

-- -----------------------------------------------------------------------------------------
-- Signs
-- -----------------------------------------------------------------------------------------

section
variable {cs : List Char} (h : ∀ x ∈ cs, Chars.Caseless x)
include h

theorem anyCase_contains : anyCase (fun c => cs.contains c) = fun c => cs.contains c := by
  funext c
  refine Bool.eq_iff_iff.mpr ⟨fun hc => ?_, fun hc => Bool.or_eq_true _ _ |>.mpr (.inl hc)⟩
  rcases Bool.or_eq_true _ _ |>.mp hc with hc | hc
  · exact hc
  · obtain ⟨y, hy, hin⟩ := List.any_eq_true.mp hc
    have hmem := List.contains_iff_mem.mp hin
    rwa [Chars.eq_of_mem_variants (h y hmem) hy] at hin

theorem anyCase_not_contains : anyCase (fun c => !cs.contains c) = fun c => !cs.contains c := by
  funext c
  refine Bool.eq_iff_iff.mpr ⟨fun hc => ?_, fun hc => Bool.or_eq_true _ _ |>.mpr (.inl hc)⟩
  by_contra hno
  rw [Bool.not_eq_true, Bool.not_eq_false'] at hno
  have hv := (h c (List.contains_iff_mem.mp hno)).variants
  simp only [anyCase, hv, hno, List.any_cons, List.any_nil, Bool.not_true, Bool.or_self,
    Bool.false_eq_true] at hc

end

theorem anyCase_single (h : Chars.Caseless x) : anyCase (· == x) = (· == x) := by
  have hone : (· == x) = fun c => [x].contains c := by
    funext c
    simp only [List.contains_cons, List.contains_nil, Bool.or_false]
  rw [hone]
  exact anyCase_contains (by simpa using h)

theorem caseless_inOrder (ps : List Pattern) : (inOrder ps).caseless = inOrder (ps.map caseless) := by
  induction ps with
  | nil => rfl
  | cons p ps ih =>
    cases ps with
    | nil => rfl
    | cons => exact congrArg (seq p.caseless) ih

theorem caseless_ofText (h : ∀ x ∈ t, Chars.Caseless x) : (ofText t).caseless = ofText t := by
  rw [ofText, caseless_inOrder, List.map_map]
  refine congrArg inOrder (List.map_congr_left fun x hx => ?_)
  exact congrArg char (anyCase_single (h x hx))

theorem caseless_oneOf (h : ∀ x ∈ s.toList, Chars.Caseless x) : (oneOf s).caseless = oneOf s :=
  congrArg char (anyCase_contains h)

theorem caseless_noneOf (h : ∀ x ∈ s.toList, Chars.Caseless x) : (noneOf s).caseless = noneOf s :=
  congrArg char (anyCase_not_contains h)

/-- A character with one case is no variant of another one. -/
theorem eq_of_anyCase (hy : Chars.variants y = [y]) (h : anyCase (· == x) y = true) : y = x := by
  simpa [anyCase, hy] using h

/-- What is written in any letter case has no other characters without case. -/
theorem mem_of_mem_anyCase (h : List.Forall₂ (fun x y => anyCase (· == x) y = true) t w) (hy : y ∈ w)
    (hone : Chars.variants y = [y]) : y ∈ t := by
  obtain ⟨i, hi, rfl⟩ := List.mem_iff_getElem.mp hy
  have hx := (List.forall₂_iff_get.mp h).2 i (h.length_eq ▸ hi) hi
  have heq := eq_of_anyCase hone hx
  exact heq ▸ List.getElem_mem _

/-- A class of characters that differ from nothing else in case only is closed. -/
theorem anyCase_eq {ok : Char → Bool} (h : ∀ {y c}, ok y = true → y ∈ Chars.variants c → y = c) :
    anyCase ok = ok := by
  funext c
  refine Bool.eq_iff_iff.mpr ⟨fun hc => ?_, fun hc => Bool.or_eq_true _ _ |>.mpr (.inl hc)⟩
  rcases Bool.or_eq_true _ _ |>.mp hc with hc | hc
  · exact hc
  · obtain ⟨y, hy, hok⟩ := List.any_eq_true.mp hc
    rwa [h hok hy] at hok

theorem caseless_blank : blank.caseless = blank :=
  congrArg char (anyCase_eq Chars.eq_of_mem_variants_blank)

theorem caseless_digit : digit.caseless = digit :=
  congrArg char (anyCase_eq Chars.eq_of_mem_variants_digit)

theorem caseless_blanks : blanks.caseless = blanks := congrArg many caseless_blank

-- -----------------------------------------------------------------------------------------
-- Words and groups
-- -----------------------------------------------------------------------------------------

/-- What the pattern reads when it stands alone. -/
abbrev Forms (p : Pattern) (w : Text) (gs : Groups) : Prop := p.Reads none w [] gs

theorem forms_append {p q : Pattern} (hp : p.anchorless = true) (hq : q.anchorless = true) :
    (p ++ q).Forms w gs ↔
      ∃ u v gs₁ gs₂, w = u ++ v ∧ gs = gs₂ ++ gs₁ ∧ p.Forms u gs₁ ∧ q.Forms v gs₂ := by
  constructor
  · intro h
    obtain ⟨hu, hv⟩ := reads_seq_iff.mp h
    exact ⟨_, _, _, _, rfl, rfl, hu.anywhere hp _ _, hv.anywhere hq _ _⟩
  · rintro ⟨u, v, gs₁, gs₂, rfl, rfl, hu, hv⟩
    exact .seq (hu.anywhere hp _ _) (hv.anywhere hq _ _)

theorem forms_char {accepts : Char → Bool} :
    (char accepts).Forms w gs ↔ ∃ x, accepts x = true ∧ w = [x] ∧ gs = [] := by
  constructor
  · rintro ⟨⟩
    exact ⟨_, ‹_›, rfl, rfl⟩
  · rintro ⟨x, hx, rfl, rfl⟩
    exact .char hx

theorem forms_run {accepts : Char → Bool} :
    (times 0 none greedy (char accepts)).Forms w gs ↔ (∀ x ∈ w, accepts x = true) ∧ gs = [] := by
  constructor
  · exact Exact.reads_run
  · rintro ⟨hw, rfl⟩
    exact .run hw

theorem forms_run1 {accepts : Char → Bool} : (times 1 none greedy (char accepts)).Forms w gs ↔
    w ≠ [] ∧ (∀ x ∈ w, accepts x = true) ∧ gs = [] := by
  constructor
  · intro h
    exact ⟨h.ne_nil rfl, forms_run.mp h.of_one⟩
  · rintro ⟨hne, hw, rfl⟩
    obtain ⟨x, w, rfl⟩ := List.exists_cons_of_ne_nil hne
    rw [List.forall_mem_cons] at hw
    have hall : (times 1 none greedy (char accepts)).Reads none ([x] ++ w) [] ([] ++ []) :=
      .round (.inl Nat.one_pos) (.char hw.1) (.run hw.2)
    exact hall

theorem bounds_of_between {accepts : Char → Bool}
    (h : (between least most (char accepts)).Reads b w r gs) (hle : least ≤ most) :
    (least ≤ w.length ∧ w.length ≤ most) ∧ (∀ x ∈ w, accepts x = true) ∧ gs = [] := by
  unfold between at h
  generalize hp : times least (some most) true (char accepts) = p at h
  induction h generalizing least most with
  | stop =>
    cases hp
    simp
  | @round k _ _ _ _ _ _ _ _ _ hmore hone _ _ ih =>
    cases hp
    cases hone with
    | char hx =>
      have hpos : 0 < most := by
        rcases hmore with h | h
        · omega
        · exact Nat.pos_of_ne_zero fun hzero => h (congrArg some hzero)
      obtain ⟨hlen, hall, rfl⟩ := @ih (k - 1) (most - 1) (by omega) rfl
      refine ⟨?_, List.forall_mem_cons.mpr ⟨hx, hall⟩, rfl⟩
      simp only [List.length_append, List.length_singleton]
      omega
  | _ => cases hp

/-- A bounded number of characters. -/
theorem forms_between {accepts : Char → Bool} (hle : least ≤ most) :
    (between least most (char accepts)).Forms w gs ↔
      (least ≤ w.length ∧ w.length ≤ most) ∧ (∀ x ∈ w, accepts x = true) ∧ gs = [] := by
  refine ⟨fun h => bounds_of_between h hle, ?_⟩
  rintro ⟨hlen, hall, rfl⟩
  induction w generalizing least most with
  | nil =>
    obtain rfl : least = 0 := by simpa using hlen.1
    exact .stop
  | cons x w ih =>
    rw [List.forall_mem_cons] at hall
    rw [List.length_cons] at hlen
    have hrest := @ih (least - 1) (most - 1) (by omega) (by omega) hall.2
    exact @Reads.round least (some most) (char accepts) none [x] w [] [] true [] (.inr (by simp; omega))
      (.char hall.1) (hrest.anywhere rfl _ _)
theorem forms_group {p : Pattern} :
    (group i p).Forms w gs ↔ ∃ gs', gs = (i, w) :: gs' ∧ p.Forms w gs' := by
  constructor
  · rintro ⟨⟩
    exact ⟨_, rfl, ‹_›⟩
  · rintro ⟨gs', rfl, h⟩
    exact .capture h

theorem forms_opt {p : Pattern} : (opt p).Forms w gs ↔ (w = [] ∧ gs = []) ∨ p.Forms w gs := by
  constructor
  · exact Reads.opt_cases
  · rintro (⟨rfl, rfl⟩ | h)
    · exact .stop
    · have hall : (opt p).Reads none (w ++ []) [] ([] ++ gs) :=
        .round (.inr (by simp)) (by simpa using h) .stop
      simpa using hall

/-- Rounds in a row. -/
theorem words_rounds {p : Pattern} (hp : p.anchorless = true) {rs : List Text}
    (hrs : ∀ r ∈ rs, p.Words r) (hn : least ≤ rs.length) :
    (times least none greedy p).Words rs.flatten := by
  induction rs generalizing least with
  | nil =>
    obtain rfl : least = 0 := Nat.eq_zero_of_le_zero hn
    exact ⟨[], .stop⟩
  | cons r rs ih =>
    rw [List.forall_mem_cons] at hrs
    obtain ⟨gs, hround⟩ := hrs.1
    have hlen : least - 1 ≤ rs.length := by
      rw [List.length_cons] at hn
      omega
    obtain ⟨gs', hrest⟩ := ih hrs.2 hlen
    have hmost : (none : Option Nat) ≠ some 0 := by simp
    exact ⟨gs' ++ gs, @Reads.round least none p none r rs.flatten [] gs greedy gs' (.inr hmost)
      (hround.anywhere hp _ _) (hrest.anywhere hp _ _)⟩

theorem Reads.rounds {p : Pattern} (hp : p.anchorless = true)
    (h : (times least none greedy p).Reads b w r gs) :
    ∃ rs : List Text, (∀ r ∈ rs, p.Words r) ∧ least ≤ rs.length ∧ w = rs.flatten := by
  generalize hq : times least none greedy p = q at h
  induction h generalizing least with
  | stop =>
    cases hq
    exact ⟨[], by simp, Nat.le_refl _, rfl⟩
  | @round _ _ _ _ u _ _ _ _ _ _ hround _ _ ih =>
    cases hq
    obtain ⟨rs, hrs, hn, rfl⟩ := ih rfl
    refine ⟨u :: rs, List.forall_mem_cons.mpr ⟨⟨_, hround.anywhere hp _ _⟩, hrs⟩, ?_, rfl⟩
    rw [List.length_cons]
    omega
  | _ => cases hq

theorem forms_inOrder_cons {p : Pattern} {ps : List Pattern} (hp : p.anchorless = true)
    (hps : (inOrder ps).anchorless = true) :
    (inOrder (p :: ps)).Forms w gs ↔
      ∃ u v gs₁ gs₂, w = u ++ v ∧ gs = gs₂ ++ gs₁ ∧ p.Forms u gs₁ ∧ (inOrder ps).Forms v gs₂ := by
  cases ps with
  | cons => exact forms_append hp hps
  | nil =>
    constructor
    · exact fun h => ⟨w, [], gs, [], by simp, rfl, h, .empty⟩
    · rintro ⟨u, v, gs₁, gs₂, rfl, rfl, h, h'⟩
      obtain ⟨rfl, rfl⟩ := reads_empty_iff.mp h'
      rw [List.append_nil, List.nil_append]
      exact h

/-- A text where letter case does not count. -/
theorem forms_ofText_caseless :
    (ofText t).caseless.Forms w gs ↔ List.Forall₂ (fun x y => anyCase (· == x) y = true) t w ∧ gs = [] := by
  induction t generalizing w gs with
  | nil =>
    rw [List.forall₂_nil_left_iff]
    exact reads_empty_iff
  | cons x t ih =>
    rw [ofText, caseless_inOrder] at ih ⊢
    have hps : (inOrder ((t.map single).map caseless)).anchorless = true := by
      rw [← caseless_inOrder, anchorless_caseless]
      exact anchorless_ofText t
    rw [List.map_cons, List.map_cons, forms_inOrder_cons rfl hps, List.forall₂_cons_left_iff]
    constructor
    · rintro ⟨u, v, gs₁, gs₂, rfl, rfl, hu, hv⟩
      obtain ⟨y, hy, rfl, rfl⟩ := forms_char.mp hu
      obtain ⟨htail, rfl⟩ := ih.mp hv
      exact ⟨⟨y, v, hy, htail, rfl⟩, rfl⟩
    · rintro ⟨⟨y, v, hy, hv, rfl⟩, rfl⟩
      exact ⟨[y], v, [], [], rfl, rfl, forms_char.mpr ⟨y, hy, rfl, rfl⟩, ih.mpr ⟨hv, rfl⟩⟩

theorem forms_ofText : (ofText t).Forms w gs ↔ w = t ∧ gs = [] := by
  induction t generalizing w gs with
  | nil => exact reads_empty_iff
  | cons x t ih =>
    rw [ofText, List.map_cons, forms_inOrder_cons rfl (anchorless_ofText t)]
    constructor
    · rintro ⟨u, v, gs₁, gs₂, rfl, rfl, hu, hv⟩
      obtain ⟨y, hy, rfl, rfl⟩ := forms_char.mp hu
      obtain ⟨rfl, rfl⟩ := ih.mp hv
      obtain rfl := eq_of_beq hy
      exact ⟨rfl, rfl⟩
    · rintro ⟨rfl, rfl⟩
      exact ⟨[x], t, [], [], rfl, rfl, forms_char.mpr ⟨x, BEq.rfl, rfl, rfl⟩, ih.mpr ⟨rfl, rfl⟩⟩

-- -----------------------------------------------------------------------------------------
-- Readings in a text
-- -----------------------------------------------------------------------------------------

/-- What is read where letter case counts is read where it does not. -/
theorem Reads.caseless {p : Pattern} (h : p.Reads b w r gs) : p.caseless.Reads b w r gs := by
  induction h with
  | empty => exact .empty
  | char hx => exact .char (Bool.or_eq_true _ _ |>.mpr (.inl hx))
  | anchor ha hb hr => exact .anchor ha hb hr
  | seq _ _ ihp ihq => exact .seq ihp ihq
  | left _ ih => exact .left ih
  | right _ ih => exact .right ih
  | capture _ ih => exact .capture ih
  | stop => exact .stop
  | round hr _ _ ihp ihq => exact .round hr ihp ihq

theorem reads_ofText (t : Text) (b : Option Char) (r : Text) : (ofText t).Reads b t r [] :=
  (forms_ofText.mpr ⟨rfl, rfl⟩).anywhere (anchorless_ofText t) b r

theorem Reads.inOrder_cons {p : Pattern} {ps : List Pattern} (h : p.Reads b u (v ++ r) gs)
    (hs : (inOrder ps).Reads (lastOf b u) v r gs') :
    (inOrder (p :: ps)).Reads b (u ++ v) r (gs' ++ gs) := by
  cases ps with
  | cons => exact .seq h hs
  | nil =>
    obtain ⟨rfl, rfl⟩ := reads_empty_iff.mp hs
    rwa [List.append_nil, List.nil_append]

theorem Reads.append_nothing {p q : Pattern} (h : p.Reads b w r gs)
    (hq : q.Reads (lastOf b w) [] r []) : (p ++ q).Reads b w r gs := by
  have hall := Reads.seq (p := p) (u := w) (v := []) h hq
  rwa [List.append_nil, List.nil_append] at hall

theorem Reads.firstOf {q : Pattern} (h : q.Reads b w r gs) (hq : q ∈ ps) :
    (firstOf ps).Reads b w r gs := by
  induction ps with
  | nil => cases hq
  | cons p ps ih =>
    cases ps with
    | nil =>
      obtain rfl := List.mem_singleton.mp hq
      exact h
    | cons =>
      cases hq with
      | head => exact .left h
      | tail _ hq => exact .right (ih hq)

-- -----------------------------------------------------------------------------------------
-- Words between brackets
-- -----------------------------------------------------------------------------------------

/-- The pattern forms words that begin with a doubled bracket and have no other one. -/
structure Opening (o c : Char) (p : Pattern) : Prop where
  anchorless : p.anchorless = true
  opens : ∀ w gs, p.Forms w gs → ∃ x, w = o :: o :: x ∧ o ∉ x ∧ c ∉ x

/-- The words of the pattern stand between doubled brackets. -/
structure Enclosing (o c : Char) (p : Pattern) : Prop extends p.Lexical where
  apart : o ≠ c
  enclosed : ∀ w, p.Words w → Enclosed o c w

theorem Enclosing.separate {p : Pattern} (h : p.Enclosing o c) : Separate p.Words :=
  fun hw hw' => separate_enclosed h.apart (h.enclosed _ hw) (h.enclosed _ hw')

namespace Opening

theorem brackets (o c : Char) : Opening o c (ofText [o, o]) where
  anchorless := anchorless_ofText _
  opens w gs h := by
    obtain ⟨rfl, -⟩ := forms_ofText.mp h
    exact ⟨[], rfl, by simp, by simp⟩

theorem append {p q : Pattern} (h : Opening o c p) (hq : q.anchorless = true)
    (havoids : q.avoids [o, c] = true) : Opening o c (p ++ q) where
  anchorless := by rw [anchorless_append, h.anchorless, hq, Bool.and_true]
  opens w gs hw := by
    obtain ⟨u, v, gs₁, gs₂, rfl, -, hu, hv⟩ := (forms_append h.anchorless hq).mp hw
    obtain ⟨x, rfl, ho, hc⟩ := h.opens u gs₁ hu
    have hoff := hv.avoids havoids
    refine ⟨x ++ v, rfl, fun hm => ?_, fun hm => ?_⟩
    · exact (List.mem_append.mp hm).elim ho fun hm => hoff o hm (by simp)
    · exact (List.mem_append.mp hm).elim hc fun hm => hoff c hm (by simp)

theorem enclosing {p : Pattern} (h : Opening o c p) (hoc : o ≠ c) (hp : p.steady = true) :
    Enclosing o c (p ++ ofText [c, c]) where
  steady := by rw [steady_append, hp, steady_ofText, Bool.and_true]
  nullable := by rw [nullable_append]; exact Bool.and_false _
  anchorless := by rw [anchorless_append, h.anchorless, anchorless_ofText, Bool.and_true]
  apart := hoc
  enclosed w hw := by
    obtain ⟨gs, hw⟩ := hw
    obtain ⟨u, v, gs₁, gs₂, rfl, -, hu, hv⟩ :=
      (forms_append h.anchorless (anchorless_ofText _)).mp hw
    obtain ⟨x, rfl, ho, hc⟩ := h.opens u gs₁ hu
    obtain ⟨rfl, -⟩ := forms_ofText.mp hv
    exact .intro ho hc

end Opening

end Wikitext.Pattern
