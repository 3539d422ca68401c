import Wikitext.Fix.Typography
import Wikitext.Proofs.Fix.Harmless
import Wikitext.Proofs.Fix.Passes
import Wikitext.Proofs.Pattern.Context
import Wikitext.Proofs.Text.Kinds

/-!
# Dashes in the place of hyphens

A dash takes the place of hyphens and white space between two words, and no pattern for hyphens
reads a dash. So whatever such a pattern reads in the new text lies between two of the new dashes and
was there before (`Dashed.pull`). Ranges of pages and of years are all found in one pass. Of hyphens
in a row between single letters every second pair is left over by the first pass, since neighbours
share a letter, and the second pass finds the others; so three passes are always enough.
-/

namespace Wikitext.Fix.Dashes

open Pattern

-- -----------------------------------------------------------------------------------------
-- Texts with dashes put in
-- -----------------------------------------------------------------------------------------

/-- Hyphens and white space. -/
def Gap (s : Text) : Prop := s ≠ [] ∧ ∀ c ∈ s, Chars.isBlank c = true ∨ c = '-'

theorem Gap.not_word (hs : Gap s) : ∀ c ∈ s, Chars.isWord c = false := by
  intro c hc
  rcases hs.2 c hc with hblank | rfl
  · exact Chars.not_isWord_of_isBlank hblank
  · decide

theorem Gap.lastOf (hs : Gap s) (hd : Chars.isWord d = false) (b : Option Char) :
    SameKind (lastOf b s) (some d) := by
  have hword := hs.not_word
  obtain ⟨s, c, rfl⟩ := List.eq_nil_or_concat s |>.resolve_left hs.1
  simp [SameKind, hd, hword c (by simp)]

theorem Gap.head (hs : Gap s) (hd : Chars.isWord d = false) (r r' : Text) :
    SameKind (d :: r).head? (s ++ r').head? := by
  have hword := hs.not_word
  obtain ⟨c, s, rfl⟩ := List.exists_cons_of_ne_nil hs.1
  simp [SameKind, hd, hword c (by simp)]

/-- A pattern in which nothing else occurs reads gaps. -/
theorem gap_of_avoids {p : Pattern} (h : p.Reads b s r gs) (hn : p.nullable = false)
    (hp : ∀ c, Chars.isBlank c = false → c ≠ '-' → p.avoids [c] = true) : Gap s := by
  refine ⟨h.ne_nil hn, fun c hc => ?_⟩
  by_contra hother
  rw [not_or, Bool.not_eq_true] at hother
  exact h.not_mem (hp c hother.1 hother.2) hc

/-- The second text is the first one, which stands behind `b`, with `d` in the place of what stands
between the two sides of each match. -/
inductive Dashed (p : Pattern) (d : Char) (Joined : Text → Text → Text → Prop) :
    Option Char → Text → Text → Prop
  | rest : Vacant p b t [] → Dashed p d Joined b t t
  | dash : Vacant p b u (x ++ (s ++ (y ++ r))) → Joined x s y →
      Dashed p d Joined (lastOf (lastOf b u) (x ++ (s ++ y))) r r' →
      Dashed p d Joined b (u ++ (x ++ (s ++ (y ++ r)))) (u ++ (x ++ d :: (y ++ r')))

variable {p q : Pattern} {d : Char} {Joined : Text → Text → Text → Prop}

theorem dashed_of_replaces {f : Match → Text} (h : Replaces p f b t t')
    (hf : ∀ {m b w r}, Takes p m b w r →
      ∃ x s y, w = x ++ (s ++ y) ∧ f m = x ++ d :: y ∧ Joined x s y) :
    Dashed p d Joined b t t' := by
  induction h with
  | rest hvacant => exact .rest hvacant
  | hit hvacant hm _ ih =>
    obtain ⟨x, s, y, rfl, htext, hjoined⟩ := hf hm
    simp only [htext, List.append_assoc, List.cons_append] at hvacant ⊢
    exact .dash hvacant hjoined ih

/-- A dash joins words where only characters that belong to no word stood. -/
structure Joins (d : Char) (Joined : Text → Text → Text → Prop) : Prop where
  dash : Chars.isWord d = false
  gap : ∀ {x s y}, Joined x s y → Gap s

namespace Dashed

/-- What a pattern reads without a dash in it was there before the dashes. By induction on the
matches; `y` is what stands behind the last one. -/
theorem pull (h : Dashed p d Joined b t t') (hd : Joins d Joined) (hq : q.bounded = true)
    (hno : q.avoids [d] = true) (hc : SameKind c c') (ht : y ++ t' = a ++ (w ++ r))
    (hreads : q.Reads (lastOf c' a) w r gs) :
    ∃ a₀ r₀, y ++ t = a₀ ++ (w ++ r₀) ∧ q.Reads (lastOf c a₀) w r₀ gs := by
  induction h generalizing y a c c' with
  | rest => exact ⟨a, r, ht, hreads.around hq (hc.symm.lastOf a) rfl⟩
  | @dash b u x s y' t t' _ hjoined _ ih =>
    have hgap := hd.gap hjoined
    have hcut : a ++ (w ++ r) = y ++ (u ++ x) ++ d :: (y' ++ t') := by simp [← ht]
    rcases append_cases_of_not_mem (hreads.not_mem hno) hcut with ⟨k, hfront, rfl⟩ | ⟨k, rfl, hbehind⟩
    · refine ⟨a, k ++ (s ++ (y' ++ t)), ?_, hreads.around hq (hc.symm.lastOf a) ?_⟩
      · have hparts := congrArg (· ++ (s ++ (y' ++ t))) hfront
        simpa using hparts
      · exact (hgap.head hd.dash _ _).head k
    · have hcontext := hgap.lastOf hd.dash (lastOf c (y ++ (u ++ x)))
      obtain ⟨a₀, r₀, heq, hreads₀⟩ := ih hcontext hbehind (by simpa using hreads)
      exact ⟨y ++ (u ++ (x ++ (s ++ a₀))), r₀, by simp [heq], by simpa using hreads₀⟩

theorem vacant (h : Dashed p d Joined b t t') (hd : Joins d Joined) (hq : q.bounded = true)
    (hno : q.avoids [d] = true) (hn : q.nullable = false) (hvacant : Vacant q b t []) :
    Vacant q b t' [] := by
  rw [vacant_iff hn] at hvacant ⊢
  intro a w r gs ht hreads
  obtain ⟨a₀, r₀, heq, hreads₀⟩ := h.pull (y := []) hd hq hno rfl ht hreads
  exact hvacant a₀ w r₀ gs heq hreads₀

/-- In the second text `w` stands behind `a` and begins on the right side of a match, as it did in the
first one. -/
def Behind (d : Char) (Joined : Text → Text → Text → Prop) (t a w : Text) : Prop :=
  ∃ a₀ a' x s k l r, Joined x s (k ++ l) ∧ l.head? = w.head? ∧ a = a' ++ d :: k ∧
    t = a₀ ++ (x ++ (s ++ (k ++ (w ++ r))))

theorem Behind.append (h : Behind d Joined t a w) (u v : Text) :
    Behind d Joined (u ++ t) (v ++ a) w := by
  obtain ⟨a₀, a', x, s, k, l, r, hjoined, hhead, rfl, rfl⟩ := h
  exact ⟨u ++ a₀, v ++ a', x, s, k, l, r, hjoined, hhead, by simp, by simp⟩

/-- What the pattern itself reads in the new text is at a match: on the left side of one, or it begins
on the right side of one. By induction on the matches; `y` is the right side of the last one. -/
theorem at_match (h : Dashed p d Joined b t t') (hd : Joins d Joined) (hp : p.bounded = true)
    (hno : p.avoids [d] = true) (hn : p.nullable = false) (hc : SameKind (lastOf c y) b)
    (ht : y ++ t' = a ++ (w ++ r)) (hw : p.Reads (lastOf c a) w r gs) :
    (∃ l r₀, y = a ++ l ∧ l.head? = w.head? ∧ y ++ t = a ++ (w ++ r₀)) ∨
      (∃ x s y', Joined x s y' ∧ w <:+: x) ∨ Behind d Joined (y ++ t) a w := by
  have hne := hw.ne_nil hn
  induction h generalizing y a c with
  | rest hvacant =>
    rcases begins_or_behind hne ht with ⟨l, hy, hl⟩ | ⟨a', rfl, ht'⟩
    · exact .inl ⟨l, r, hy, hl, ht⟩
    · rw [lastOf_append] at hw
      exact absurd (hw.around hp (hc.lastOf a') rfl) ((vacant_iff hn).mp hvacant a' w r gs ht')
  | @dash b u x s y' t t' hvacant hjoined _ ih =>
    have hgap := hd.gap hjoined
    have hcut : a ++ (w ++ r) = y ++ (u ++ x) ++ d :: (y' ++ t') := by simp [← ht]
    rcases append_cases_of_not_mem (hw.not_mem hno) hcut with ⟨k, hfront, rfl⟩ | ⟨k, rfl, hbehind⟩
    · rcases begins_or_behind hne hfront with ⟨l, hy, hl⟩ | ⟨a', rfl, hx⟩
      · have hparts := congrArg (· ++ (s ++ (y' ++ t))) hfront
        exact .inl ⟨l, k ++ (s ++ (y' ++ t)), hy, hl, by simpa using hparts⟩
      rw [lastOf_append] at hw
      rcases begins_or_behind hne hx with ⟨l, rfl, hl⟩ | ⟨a'', -, rfl⟩
      · have hparts : l ++ x = w ++ k := by simpa using hx
        refine absurd (hw.around hp (hc.lastOf a') ((hgap.head hd.dash _ _).head k))
          (hvacant a' l w (k ++ (s ++ (y' ++ t))) gs rfl ?_ ?_)
        · rintro rfl
          exact hne (List.head?_eq_none_iff.mp hl.symm)
        · have hparts' := congrArg (· ++ (s ++ (y' ++ t))) hparts
          simpa using hparts'
      · exact .inr (.inl ⟨_, s, y', hjoined, (List.infix_append' a'' w k)⟩)
    · have hcontext : SameKind (lastOf (some d) y') (lastOf (lastOf b u) (x ++ (s ++ y'))) := by
        rw [← List.append_assoc, lastOf_append, lastOf_append]
        exact (hgap.lastOf hd.dash _).symm.lastOf y'
      refine .inr ?_
      rcases ih hcontext hbehind (by simpa using hw) with ⟨l, r₀, rfl, hl, hr₀⟩ | hleft | hright
      · exact .inr ⟨y ++ u, y ++ (u ++ x), x, s, k, l, r₀, hjoined, hl, rfl, by simp [hr₀]⟩
      · exact .inl hleft
      · have hall := hright.append (y ++ (u ++ (x ++ s))) (y ++ (u ++ (x ++ [d])))
        exact .inr (by simpa using hall)

end Dashed

/-- A range with the character that it begins with. -/
structure Range (first : Char) (x s y : Text) : Prop where
  gap : Gap s
  hyphen : '-' ∈ s
  front : '-' ∉ x
  head : x.head? = some first
  behind : first ∉ y

def ReadsRanges (p : Pattern) (first : Char) : Prop :=
  ∀ {b w r gs}, p.Reads b w r gs → ∃ x s y, w = x ++ (s ++ y) ∧ Range first x s y

/-- One pass finds all ranges, since a range does not begin or lie on a side of another one. -/
theorem Dashed.ranges (h : Dashed p d (Range first) none t t') (hd : Joins d (Range first))
    (hp : p.bounded = true) (hno : p.avoids [d] = true) (hn : p.nullable = false)
    (hreads : ReadsRanges p first) : Vacant p none t' [] := by
  rw [vacant_iff hn]
  intro a w r gs ht hw
  obtain ⟨x, s, y, rfl, hrange⟩ := hreads hw
  have hfirst : (x ++ (s ++ y)).head? = some first := by
    rw [List.head?_append, hrange.head, Option.some_or]
  rcases h.at_match hd hp hno hn (y := []) rfl ht hw with ⟨l, -, hy, hl, -⟩ |
    ⟨x', s', y', hleft, hin⟩ | ⟨_, _, x', s', k, l, _, hright, hl, -⟩
  · obtain ⟨-, rfl⟩ := List.append_eq_nil_iff.mp hy.symm
    rw [hfirst] at hl
    cases hl
  · exact hleft.front (hin.subset (by simp [hrange.hyphen]))
  · rw [hfirst] at hl
    exact hright.behind (List.mem_append_right k (List.mem_of_head? hl))

-- -----------------------------------------------------------------------------------------
-- Ranges of pages and years
-- -----------------------------------------------------------------------------------------

/-- A hyphen with white space around it. -/
def hyphen : Pattern := blanks ++ lit "-" ++ blanks

theorem gap_of_hyphen (h : hyphen.Reads b s r gs) : Gap s ∧ '-' ∈ s := by
  refine ⟨gap_of_avoids h rfl fun c hblank hne => ?_, ?_⟩
  · simp [hyphen, avoids_append, avoids, blanks, many, blank, hblank, lit, avoids_ofText, hne.symm]
  · have hforms : hyphen.Forms s gs := h.anywhere rfl none []
    obtain ⟨_, _, _, _, rfl, -, h, -⟩ := (forms_append rfl rfl).mp hforms
    obtain ⟨_, _, _, _, rfl, -, -, h⟩ := (forms_append rfl rfl).mp h
    obtain ⟨rfl, -⟩ := forms_ofText.mp h
    simp

def pages : Pattern := lit "p" ++ opt (lit "p") ++ lit "." ++ blanks

def pageRange : Pattern :=
  boundary ++ group 1 pages ++ group 2 (many1 digit) ++ blanks ++ lit "-" ++ blanks ++
    group 3 (many1 digit) ++ boundary

theorem head_of_pages (h : pages.Reads b w r gs) : w.head? = some 'p' := by
  have hforms : pages.Forms w gs := h.anywhere rfl none []
  obtain ⟨_, _, _, _, rfl, -, h, -⟩ := (forms_append rfl rfl).mp hforms
  obtain ⟨_, _, _, _, rfl, -, h, -⟩ := (forms_append rfl rfl).mp h
  obtain ⟨_, _, _, _, rfl, -, h, -⟩ := (forms_append rfl rfl).mp h
  obtain ⟨rfl, -⟩ := forms_ofText.mp h
  rfl

theorem pageRange_reads (h : pageRange.Reads b w r gs) : ∃ x₁ x₂ s y, w = x₁ ++ x₂ ++ (s ++ y) ∧
    gs = [(3, y), (2, x₂), (1, x₁)] ∧ Range 'p' (x₁ ++ x₂) s y := by
  have hshapes : pageRange.shapes = some [[.out boundary, .group 1 pages,
    .group 2 (many1 digit), .out hyphen, .group 3 (many1 digit), .out boundary]] := rfl
  obtain ⟨_, hmem, hf⟩ := h.fits hshapes
  obtain rfl := List.mem_singleton.mp hmem
  obtain ⟨_, _, rfl, h, x₁, _, _, rfl, hgs, h₁, x₂, _, _, rfl, rfl, h₂, s, _, rfl, hs, y, _, _, rfl,
    rfl, h₃, _, _, rfl, h', rfl, rfl⟩ := hf
  obtain ⟨rfl, -⟩ := reads_boundary.mp h
  obtain ⟨rfl, -⟩ := reads_boundary.mp h'
  refine ⟨x₁, x₂, s, y, by simp, by simpa using congrArg List.reverse hgs,
    (gap_of_hyphen hs).1, (gap_of_hyphen hs).2, ?_, ?_, h₃.not_mem rfl⟩
  · simpa using ⟨h₁.not_mem rfl, h₂.not_mem rfl⟩
  · rw [List.head?_append, head_of_pages h₁, Option.some_or]

def yearRange : Pattern :=
  lit "(" ++ group 1 (exactly 4 digit) ++ blanks ++ lit "-" ++ blanks ++
    group 2 (exactly 4 digit) ++ lit ")"

theorem yearRange_reads (h : yearRange.Reads b w r gs) : ∃ x s y,
    w = '(' :: x ++ (s ++ (y ++ [')'])) ∧ gs = [(2, y), (1, x)] ∧
      Range '(' ('(' :: x) s (y ++ [')']) := by
  have hshapes : yearRange.shapes = some [[.out (lit "("), .group 1 (exactly 4 digit),
    .out hyphen, .group 2 (exactly 4 digit), .out (lit ")")]] := rfl
  obtain ⟨_, hmem, hf⟩ := h.fits hshapes
  obtain rfl := List.mem_singleton.mp hmem
  obtain ⟨_, _, rfl, h, x, _, _, rfl, hgs, h₁, s, _, rfl, hs, y, _, _, rfl, rfl, h₂, _, _, rfl, h',
    rfl, rfl⟩ := hf
  obtain ⟨rfl, -⟩ := forms_ofText.mp (h.anywhere rfl none [])
  obtain ⟨rfl, -⟩ := forms_ofText.mp (h'.anywhere rfl none [])
  refine ⟨x, s, y, by simp, by simpa using congrArg List.reverse hgs,
    (gap_of_hyphen hs).1, (gap_of_hyphen hs).2, ?_, rfl, ?_⟩
  · simpa using h₁.not_mem rfl
  · simpa using h₂.not_mem rfl

-- -----------------------------------------------------------------------------------------
-- Hyphens in pairs
-- -----------------------------------------------------------------------------------------

def hyphenPair : Pattern := many1 (lit " ") ++ lit "--" ++ many1 (lit " ")

def aside : Pattern :=
  group 1 word ++ many1 (lit " ") ++ lit "--" ++ many1 (lit " ") ++ group 2 word

/-- Two characters of words, with a pair of hyphens between them. -/
structure Aside (x s y : Text) : Prop where
  gap : Gap s
  left : ∃ c, x = [c]
  right : ∃ c, y = [c]
  words : aside.Words (x ++ (s ++ y))

theorem gap_of_hyphenPair (h : hyphenPair.Reads b s r gs) : Gap s := by
  refine gap_of_avoids h rfl fun c hblank hne => ?_
  have hspace : ' ' ≠ c := by rintro rfl; exact absurd hblank (by decide)
  simp [hyphenPair, avoids_append, avoids, many1, lit, avoids_ofText, hspace, hne.symm]

theorem aside_reads (h : aside.Reads b w r gs) :
    ∃ x s y, w = x ++ (s ++ y) ∧ gs = [(2, y), (1, x)] ∧ Aside x s y := by
  have hwords : aside.Words w := ⟨gs, h.anywhere rfl none []⟩
  have hshapes : aside.shapes = some [[.group 1 word, .out hyphenPair, .group 2 word]] := rfl
  obtain ⟨_, hmem, hf⟩ := h.fits hshapes
  obtain rfl := List.mem_singleton.mp hmem
  obtain ⟨x, _, _, rfl, hgs, h₁, s, _, rfl, hs, y, _, _, rfl, rfl, h₂, rfl, rfl⟩ := hf
  obtain ⟨c, -, hx, -⟩ := forms_char.mp (h₁.anywhere rfl none [])
  obtain ⟨c', -, hy, -⟩ := forms_char.mp (h₂.anywhere rfl none [])
  exact ⟨x, s, y, by simp, by simpa using congrArg List.reverse hgs,
    gap_of_hyphenPair hs, ⟨c, hx⟩, ⟨c', hy⟩, by simpa using hwords⟩

theorem Aside.length (h : Aside x s y) : 2 < (x ++ (s ++ y)).length := by
  obtain ⟨c, rfl⟩ := h.left
  obtain ⟨c', rfl⟩ := h.right
  have hs := List.length_pos_iff.mpr h.gap.1
  simp
  omega

theorem length_of_aside (h : aside.Reads b w r gs) : 2 < w.length := by
  obtain ⟨x, s, y, rfl, -, haside⟩ := aside_reads h
  exact haside.length

/-- No two pairs of hyphens in a row between the same words. -/
def Unchained (t : Text) : Prop :=
  ∀ v c v', v ++ c :: v' <:+: t → aside.Words (v ++ [c]) → ¬ aside.Words (c :: v')

theorem joins_aside : Joins '—' Aside := ⟨by decide +kernel, Aside.gap⟩

theorem aside_avoids : aside.avoids ['—'] = true := by decide +kernel

namespace Dashed

theorem at_aside (h : Dashed aside '—' Aside none t t') (ht : t' = a ++ (w ++ r))
    (hw : aside.Reads (lastOf none a) w r gs) : ∃ a₀ a' x s c v r₀, w = c :: v ∧ Aside x s [c] ∧
      a = a' ++ ['—'] ∧ t = a₀ ++ (x ++ (s ++ (w ++ r₀))) := by
  have hlen := length_of_aside hw
  rcases h.at_match joins_aside rfl aside_avoids rfl (y := []) rfl ht hw with ⟨l, -, hy, hl, -⟩ |
    ⟨x, s, y, hleft, hin⟩ | ⟨a₀, a', x, s, k, l, r₀, hright, hl, rfl, ht₀⟩
  · obtain ⟨-, rfl⟩ := List.append_eq_nil_iff.mp hy.symm
    rw [List.head?_eq_none_iff.mp hl.symm] at hlen
    simp at hlen
  · obtain ⟨c, rfl⟩ := hleft.left
    have hle := hin.length_le
    simp at hle
    omega
  · obtain ⟨e, v, rfl⟩ := List.exists_cons_of_length_pos (Nat.lt_trans Nat.two_pos hlen)
    obtain ⟨l, rfl⟩ := List.head?_eq_some_iff.mp hl
    obtain ⟨c, hc⟩ := hright.right
    obtain ⟨rfl, rfl⟩ : k = [] ∧ l = [] := by
      have hlength := congrArg List.length hc
      simp at hlength
      exact ⟨List.length_eq_zero_iff.mp (by omega), List.length_eq_zero_iff.mp (by omega)⟩
    exact ⟨a₀, a', x, s, e, v, r₀, rfl, hright, rfl, ht₀⟩

/-- After one pass, there are no pairs in a row: the second one would begin behind a dash. -/
theorem unchained (h : Dashed aside '—' Aside none t t') : Unchained t' := by
  rintro v c v' ⟨a, r, ht⟩ ⟨gs, hv⟩ ⟨gs', hv'⟩
  obtain ⟨-, a', -, -, -, -, -, -, -, hend, -⟩ :=
    h.at_aside (a := a ++ v) (w := c :: v') (r := r) (by simp [← ht]) (hv'.anywhere rfl _ _)
  rcases List.eq_nil_or_concat v with rfl | ⟨v, e, rfl⟩
  · have hlen := length_of_aside hv
    simp at hlen
  · rw [List.concat_eq_append, ← List.append_assoc] at hend
    obtain ⟨-, hdash⟩ := List.append_inj' hend rfl
    obtain rfl : e = '—' := by simpa using hdash
    exact hv.not_mem aside_avoids (by simp)

/-- In a text without pairs in a row, one pass finds all of them. -/
theorem asides (h : Dashed aside '—' Aside none t t') (ht : Unchained t) :
    Vacant aside none t' [] := by
  rw [vacant_iff rfl]
  intro a w r gs ht' hw
  obtain ⟨a₀, -, x, s, c, v, r₀, rfl, haside, -, rfl⟩ := h.at_aside ht' hw
  refine ht (x ++ s) c v ⟨a₀, r₀, by simp⟩ ?_ ⟨gs, hw.anywhere rfl none []⟩
  simpa using haside.words

theorem keeps_unchained (h : Dashed p d Joined b t t') (hd : Joins d Joined)
    (hno : aside.avoids [d] = true) (ht : Unchained t) : Unchained t' := by
  rintro v c v' ⟨a, r, ht'⟩ ⟨gs, hv⟩ ⟨gs', hv'⟩
  have havoids : (ofText (v ++ c :: v')).avoids [d] = true := avoids_ofText fun e he hed => by
    obtain rfl := List.mem_singleton.mp hed
    rcases List.mem_append.mp he with he | he
    · exact hv.not_mem hno (List.mem_append_left _ he)
    · exact hv'.not_mem hno he
  have hwhole : t' = a ++ (v ++ c :: v' ++ r) := by simpa using ht'.symm
  obtain ⟨a₀, r₀, rfl, -⟩ := h.pull hd (bounded_of_anchorless (anchorless_ofText _)) havoids
    (y := []) (c := none) rfl hwhole (reads_ofText _ _ _)
  exact ht v c v' ⟨a₀, r₀, by simp⟩ ⟨gs, hv⟩ ⟨gs', hv'⟩

end Dashed

-- -----------------------------------------------------------------------------------------
-- The passes
-- -----------------------------------------------------------------------------------------

def asidePass : Replacement := .of aside fun m => m.group 1 ++ "—".toList ++ m.group 2

def pagePass : Replacement :=
  .of pageRange fun m => m.group 1 ++ m.group 2 ++ "–".toList ++ m.group 3

def yearPass : Replacement :=
  .of yearRange fun m => "(".toList ++ m.group 1 ++ "–".toList ++ m.group 2 ++ ")".toList

theorem replaceOnce_dashTable (t : Text) :
    replaceOnce dashTable t = yearPass.apply (pagePass.apply (asidePass.apply t)) := rfl

theorem dashed_asidePass (t : Text) : Dashed aside '—' Aside none t (asidePass.apply t) := by
  refine dashed_of_replaces (replaces_apply rfl rfl _ t) fun {m b w r} hm => ?_
  obtain ⟨x, s, y, rfl, hgs, haside⟩ := aside_reads hm.reads
  refine ⟨x, s, y, rfl, ?_, haside⟩
  rw [m.group_eq_of_texts hgs (by decide) rfl,
    m.group_eq_of_texts hgs (by decide) rfl]
  simp

theorem dashed_pagePass (t : Text) :
    Dashed pageRange '–' (Range 'p') none t (pagePass.apply t) := by
  refine dashed_of_replaces (replaces_apply rfl rfl _ t) fun {m b w r} hm => ?_
  obtain ⟨x₁, x₂, s, y, rfl, hgs, hrange⟩ := pageRange_reads hm.reads
  refine ⟨x₁ ++ x₂, s, y, rfl, ?_, hrange⟩
  rw [m.group_eq_of_texts hgs (by decide) rfl,
    m.group_eq_of_texts hgs (by decide) rfl,
    m.group_eq_of_texts hgs (by decide) rfl]
  simp

theorem dashed_yearPass (t : Text) :
    Dashed yearRange '–' (Range '(') none t (yearPass.apply t) := by
  refine dashed_of_replaces (replaces_apply rfl rfl _ t) fun {m b w r} hm => ?_
  obtain ⟨x, s, y, rfl, hgs, hrange⟩ := yearRange_reads hm.reads
  refine ⟨'(' :: x, s, y ++ [')'], rfl, ?_, hrange⟩
  rw [m.group_eq_of_texts hgs (by decide) rfl,
    m.group_eq_of_texts hgs (by decide) rfl]
  simp

theorem joins_range (first : Char) : Joins '–' (Range first) := ⟨by decide +kernel, Range.gap⟩

theorem readsRanges_pageRange : ReadsRanges pageRange 'p' := fun h =>
  let ⟨x₁, x₂, s, y, hw, _, hrange⟩ := pageRange_reads h
  ⟨x₁ ++ x₂, s, y, hw, hrange⟩

theorem readsRanges_yearRange : ReadsRanges yearRange '(' := fun h =>
  let ⟨x, s, y, hw, _, hrange⟩ := yearRange_reads h
  ⟨'(' :: x, s, y ++ [')'], hw, hrange⟩

/-- The second pass finds what the first one leaves over, and then nothing is left. -/
theorem replaceOnce_dashTable_twice (t : Text) :
    Function.IsFixedPt (replaceOnce dashTable) ((replaceOnce dashTable)^[2] t) := by
  have hyearNo : yearRange.avoids ['–'] = true := by decide +kernel
  have hpageNo : pageRange.avoids ['–'] = true := by decide +kernel
  have hasideNo : aside.avoids ['–'] = true := by decide +kernel
  obtain ⟨t₁, ht₁⟩ : ∃ t₁, t₁ = replaceOnce dashTable t := ⟨_, rfl⟩
  have hpages := dashed_pagePass (asidePass.apply t)
  have hyears := dashed_yearPass (pagePass.apply (asidePass.apply t))
  rw [← replaceOnce_dashTable, ← ht₁] at hyears
  -- After the first pass no pairs are in a row, and there are no ranges.
  have hunchained : Unchained t₁ := hyears.keeps_unchained (joins_range _) hasideNo
    (hpages.keeps_unchained (joins_range _) hasideNo (dashed_asidePass t).unchained)
  have hpage : Vacant pageRange none t₁ [] := hyears.vacant (joins_range _) rfl hpageNo rfl
    (hpages.ranges (joins_range _) rfl hpageNo rfl readsRanges_pageRange)
  have hyear : Vacant yearRange none t₁ [] :=
    hyears.ranges (joins_range _) rfl hyearNo rfl readsRanges_yearRange
  -- The second pass puts dashes in the place of the other pairs, which makes no new ranges.
  obtain ⟨t₂, ht₂⟩ : ∃ t₂, t₂ = asidePass.apply t₁ := ⟨_, rfl⟩
  have hasides := dashed_asidePass t₁
  rw [← ht₂] at hasides
  have haside : asidePass.apply t₂ = t₂ := apply_of_vacant rfl rfl (hasides.asides hunchained)
  have hpage : pagePass.apply t₂ = t₂ := apply_of_vacant rfl rfl
    (hasides.vacant joins_aside rfl (by decide +kernel) rfl hpage)
  have hyear : yearPass.apply t₂ = t₂ := apply_of_vacant rfl rfl
    (hasides.vacant joins_aside rfl (by decide +kernel) rfl hyear)
  have htwice : (replaceOnce dashTable)^[2] t = t₂ := by
    rw [Function.iterate_succ_apply, Function.iterate_one, ← ht₁, replaceOnce_dashTable, ← ht₂,
      hpage, hyear]
  rw [htwice, Function.IsFixedPt, replaceOnce_dashTable, haside, hpage, hyear]

/-- White space, hyphens and dashes. -/
def isDashOrBlank (c : Char) : Bool := Chars.isBlank c || "-–—".toList.contains c

theorem Dashed.filter_eq (h : Dashed p d Joined b t t') (hd : Joins d Joined)
    (hdash : isDashOrBlank d = true) :
    t'.filter (!isDashOrBlank ·) = t.filter (!isDashOrBlank ·) := by
  induction h with
  | rest => rfl
  | @dash _ _ _ s _ _ _ _ hjoined _ ih =>
    have hgap : s.filter (!isDashOrBlank ·) = [] := by
      rw [List.filter_eq_nil_iff]
      intro c hc
      rcases (hd.gap hjoined).2 c hc with hblank | rfl
      · simp [isDashOrBlank, hblank]
      · decide
    simp [ih, hgap, hdash]

theorem filter_replaceOnce_dashTable (t : Text) :
    (replaceOnce dashTable t).filter (!isDashOrBlank ·) = t.filter (!isDashOrBlank ·) := by
  rw [replaceOnce_dashTable, (dashed_yearPass _).filter_eq (joins_range _) (by decide),
    (dashed_pagePass _).filter_eq (joins_range _) (by decide),
    (dashed_asidePass _).filter_eq joins_aside (by decide)]

/-- Double hyphens and hyphens in ranges are all found, and nothing but white space and dashes is
touched. -/
theorem dashes_idempotent_and_keeps_others (t : Text) : dashes (dashes t) = dashes t ∧
    (dashes t).filter (!isDashOrBlank ·) = t.filter (!isDashOrBlank ·) := by
  constructor
  · exact untilStable_of_fixed
      (rests_iff_enough.mpr ⟨2, by decide, replaceOnce_dashTable_twice t⟩)
  · exact untilStable_related
      (R := fun t t' => t'.filter (!isDashOrBlank ·) = t.filter (!isDashOrBlank ·))
      (fun _ => rfl) (fun h h' => h'.trans h) filter_replaceOnce_dashTable t

end Wikitext.Fix.Dashes
