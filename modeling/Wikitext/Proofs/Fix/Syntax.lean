import Wikitext.Fix.Syntax
import Wikitext.Proofs.Fix.Descent
import Wikitext.Proofs.Fix.Names
import Wikitext.Proofs.Pattern.Words

/-!
# Malformed markup

Almost all replacements of malformed markup take ink away. Only a broken line break can become
longer, by a space and a slash; it has a blot instead, a sign that it should not have, and loses
it. No replacement makes a new blot where it meets the text around it (`blots_plain`), so there is
always less of ink and blots together.
-/

namespace Wikitext

open Pattern

namespace Fix

-- -----------------------------------------------------------------------------------------
-- Blots
-- -----------------------------------------------------------------------------------------

/-- The text begins with a backslash, a dot or the start of a closing tag. -/
def startsBlot : Text → Bool
  | [] => false
  | c :: t => c == '\\' || c == '.' || (c == '<' && t.head? == some '/')

def blots : Text → Nat
  | [] => 0
  | c :: t => (startsBlot (c :: t)).toNat + blots t

theorem startsBlot_append (hne : t ≠ []) (h : t ≠ ['<']) (v : Text) :
    startsBlot (t ++ v) = startsBlot t := by
  match t with
  | [] => exact absurd rfl hne
  | [c] =>
    have hc : c ≠ '<' := fun heq => h (by rw [heq])
    simp [startsBlot, hc]
  | c :: d :: t => rfl

/-- Blots come into being only where a bracket meets a slash. -/
theorem blots_append_of (h : u.getLast? ≠ some '<' ∨ v.head? ≠ some '/') :
    blots (u ++ v) = blots u + blots v := by
  induction u with
  | nil => exact (Nat.zero_add _).symm
  | cons c u ih =>
    have hhead : startsBlot (c :: u ++ v) = startsBlot (c :: u) := by
      by_cases hone : c :: u = ['<']
      · rw [hone] at h ⊢
        have hv : v.head? ≠ some '/' := h.resolve_left fun hno => hno rfl
        simpa [startsBlot] using hv
      · exact startsBlot_append (List.cons_ne_nil c u) hone v
    have hrest : blots (u ++ v) = blots u + blots v := by
      cases u with
      | nil => exact (Nat.zero_add _).symm
      | cons d u =>
        rw [List.getLast?_cons_cons] at h
        exact ih h
    rw [List.cons_append, blots, ← List.cons_append, hhead, hrest, blots, Nat.add_assoc]

theorem blots_append_le (u v : Text) : blots u + blots v ≤ blots (u ++ v) := by
  induction u with
  | nil => exact Nat.le_of_eq (Nat.zero_add _)
  | cons c u ih =>
    have hhead : (startsBlot (c :: u)).toNat ≤ (startsBlot (c :: u ++ v)).toNat := by
      by_cases hone : c :: u = ['<']
      · rw [hone]
        exact Nat.zero_le _
      · rw [startsBlot_append (List.cons_ne_nil c u) hone v]
    rw [List.cons_append, blots, blots]
    rw [List.cons_append] at hhead
    omega

/-- The text has no blots and makes none with what stands around it. -/
def isPlain (t : Text) : Bool :=
  t.head?.any (· != '/') && t.getLast?.all (· != '<') && blots t == 0

theorem blots_plain (h : isPlain t = true) (u v : Text) :
    blots (u ++ (t ++ v)) = blots u + blots v := by
  simp only [isPlain, Bool.and_eq_true, beq_iff_eq] at h
  obtain ⟨⟨hhead, hlast⟩, hzero⟩ := h
  obtain ⟨c, t, rfl⟩ : ∃ c t', t = c :: t' := by
    cases t with
    | nil => cases hhead
    | cons c t => exact ⟨c, t, rfl⟩
  have hfirst : (c :: t ++ v).head? ≠ some '/' := by simpa using hhead
  have hend : (c :: t).getLast? ≠ some '<' := by
    intro heq
    rw [heq] at hlast
    cases hlast
  rw [blots_append_of (.inr hfirst), blots_append_of (.inl hend), hzero, Nat.zero_add]

theorem blots_infix_le (u w v : Text) : blots u + blots w + blots v ≤ blots (u ++ (w ++ v)) := by
  have hfront := blots_append_le u (w ++ v)
  have hback := blots_append_le w v
  omega

theorem blots_pos (hc : c = '\\' ∨ c = '.') (h : c ∈ t) : 0 < blots t := by
  obtain ⟨u, v, rfl⟩ := List.append_of_mem h
  have hone : 0 < blots [c] := by rcases hc with rfl | rfl <;> decide
  have hle := blots_infix_le u [c] v
  rw [List.singleton_append] at hle
  omega

-- -----------------------------------------------------------------------------------------
-- Ink and blots
-- -----------------------------------------------------------------------------------------

/-- What malformed markup has too much of. -/
def excess (t : Text) : Nat := ink t + blots t

/-- A fixed text in the place of another one. -/
theorem lessens_plain (ht : isPlain t = true) (hlt : ink t < excess w) (x r : Text) :
    Lessens excess (x ++ (w ++ r)) (x ++ (t ++ r)) := by
  right
  have hnew := blots_plain ht x r
  have hold := blots_infix_le x w r
  simp only [excess, ink_append] at hlt ⊢
  omega

/-- Groups between fixed texts that are plain. -/
def framed : List Slot → Bool
  | [.lit t] => isPlain t
  | .lit t :: .group _ :: slots => isPlain t && framed slots
  | _ => false

theorem blots_fill (h : framed slots = true) (m : Match) (x r : Text) :
    blots (x ++ (fill m slots ++ r)) =
      blots x + ((groupsOf slots).map fun i => blots (m.group i)).sum + blots r := by
  fun_induction framed slots generalizing x with
  | case1 t => simpa [fill, groupsOf] using blots_plain h x r
  | case2 t i slots ih =>
    rw [Bool.and_eq_true] at h
    have hrest := ih h.2 (m.group i)
    simp only [fill, groupsOf, List.append_assoc, List.map_cons, List.sum_cons]
    rw [blots_plain h.1, hrest]
    omega
  | case3 => cases h

theorem sum_blots_le {s : Shape} (h : Shape.Fits s b w r gs) :
    (gs.map fun g => blots g.2).sum ≤ blots w := by
  induction s generalizing b w gs with
  | nil =>
    obtain ⟨rfl, rfl⟩ := h
    exact Nat.le_refl 0
  | cons i s ih =>
    cases i with
    | out p =>
      obtain ⟨x, v, rfl, -, h⟩ := h
      have hle := blots_append_le x v
      have hrest := ih h
      omega
    | group i p =>
      obtain ⟨g, v, gs, rfl, rfl, -, h⟩ := h
      have hle := blots_append_le g v
      have hrest := ih h
      rw [List.map_cons, List.sum_cons]
      dsimp only
      omega

theorem lessens_slots (fold : Bool) {p : Pattern} (hp : lightens p slots = true)
    (hs : framed slots = true) (hm : Takes (p.folded fold) m b w r) (x : Text) :
    Lessens excess (x ++ (w ++ r)) (x ++ (fill m slots ++ r)) := by
  right
  have hink := ink_fill_lt fold _ hp hm
  obtain ⟨s, hfits, -⟩ := fits_of_lightens fold hp hm
  have hgroups := sum_blots_le hfits
  rw [List.map_map] at hgroups
  have hnew := blots_fill hs m x r
  have hold := blots_infix_le x w r
  simp only [Function.comp_def] at hgroups
  simp only [excess, ink_append]
  omega

theorem usesUp_slots (fold : Bool) (slots : List Slot) {p : Pattern} {f : Match → Text}
    (hp : lightens p slots = true) (hs : framed slots = true) (hf : ∀ m, f m = fill m slots) :
    UsesUp excess (Replacement.of (p.folded fold) f).apply := by
  obtain rfl : f = fun m => fill m slots := funext hf
  exact usesUp_apply fun hm x => lessens_slots fold hp hs hm x

-- -----------------------------------------------------------------------------------------
-- Broken line breaks and book numbers
-- -----------------------------------------------------------------------------------------

/-- What a fixed text is written as, in any letter case, at the beginning of a match. -/
theorem beginning_of_caseless {p q : Pattern} (h : (ofText t ++ p ++ q).caseless.Reads b w r gs) :
    ∃ f v, w = f ++ v ∧ List.Forall₂ (fun x y => anyCase (· == x) y = true) t f := by
  cases h with
  | seq h _ =>
    cases h with
    | seq hf _ =>
      have hf := hf.anywhere ((anchorless_caseless _).trans (anchorless_ofText _)) none []
      exact ⟨_, _, List.append_assoc _ _ _, (forms_ofText_caseless.mp hf).1⟩

/-- A text that begins with two signs does so in any letter case. -/
theorem signs_of_caseless {p q : Pattern} (hx : Chars.Caseless x) (hy : Chars.Caseless y)
    (h : (ofText (x :: y :: t) ++ p ++ q).caseless.Reads b w r gs) : ∃ v, w = x :: y :: v := by
  obtain ⟨f, v, rfl, hf⟩ := beginning_of_caseless h
  obtain ⟨c, _, hc, hf', rfl⟩ := List.forall₂_cons_left_iff.mp hf
  obtain ⟨d, f, hd, -, rfl⟩ := List.forall₂_cons_left_iff.mp hf'
  rw [anyCase_single hx] at hc
  rw [anyCase_single hy] at hd
  exact ⟨f ++ v, by rw [eq_of_beq hc, eq_of_beq hd]; rfl⟩

/-- What a part of a pattern reads is part of what the whole reads. -/
theorem middle_of_append {p q q' q'' : Pattern} (h : (p ++ q ++ q' ++ q'').Reads b w r gs) :
    ∃ v b' r' gs', v <:+: w ∧ q.Reads b' v r' gs' := by
  cases h with
  | seq h _ =>
    cases h with
    | seq h _ =>
      cases h with
      | seq _ h => exact ⟨_, _, _, _, by simp, h⟩

/-- All ways to break a line break. -/
def brokenBreak : Pattern :=
  firstOf [lit "</br" ++ blanks ++ lit ">", lit "<br" ++ blanks ++ oneOf "\\." ++ blanks ++ lit ">",
    lit "<\\br" ++ blanks ++ lit ">"]

theorem blots_brokenBreak (h : brokenBreak.caseless.Reads b w r gs) : 0 < blots w := by
  cases h with
  | left h =>
    obtain ⟨v, rfl⟩ := signs_of_caseless (x := '<') (y := '/') (by decide) (by decide) h
    exact Nat.lt_of_lt_of_le Nat.one_pos (Nat.le_add_right 1 _)
  | right h =>
    cases h with
    | left h =>
      have hone : (oneOf "\\.").caseless = oneOf "\\." := caseless_oneOf (by decide)
      obtain ⟨v, _, _, _, hinfix, hsign⟩ := middle_of_append h
      change (oneOf "\\.").caseless.Reads _ v _ _ at hsign
      rw [hone] at hsign
      cases hsign with
      | char hc => exact blots_pos (by simpa using hc) (List.IsInfix.subset hinfix (List.mem_singleton_self _))
    | right h =>
      obtain ⟨v, rfl⟩ := signs_of_caseless (x := '<') (y := '\\') (by decide) (by decide) h
      exact blots_pos (.inl rfl) (by simp)

theorem usesUp_brokenBreak :
    UsesUp excess (Replacement.of brokenBreak.caseless fun _ => "<br />".toList).apply := by
  refine usesUp_apply fun {m b w r} hm x => lessens_plain (t := "<br />".toList) (by decide) ?_ x r
  have hink : 5 ≤ ink w := Nat.le_trans (leastInk_caseless brokenBreak) hm.reads.leastInk
  have hblots := blots_brokenBreak hm.reads
  have hnew : ink "<br />".toList = 5 := rfl
  rw [excess, hnew]
  omega

/-- What stands before the first digit of a book number. -/
def bookSign : Pattern :=
  boundary ++ lit "ISBN" ++ opt (lit "-1" ++ oneOf "03") ++ blanks ++ lit ":" ++ blanks

/-- The digit stays where it is. -/
theorem usesUp_bookNumber : UsesUp excess
    (Replacement.of (bookSign ++ group 1 digit) fun m => "ISBN ".toList ++ m.group 1).apply := by
  refine usesUp_apply fun {m b w r} hm x => ?_
  have hshapes : (bookSign ++ group 1 digit).shapes = some [[.out bookSign, .group 1 digit]] := rfl
  obtain ⟨s, hmem, gs, hf, hhas⟩ := fits_of_takes hm hshapes
  obtain rfl := List.mem_singleton.mp hmem
  obtain ⟨y, _, rfl, hy, g, _, _, rfl, rfl, -, rfl, rfl⟩ := hf
  have hg : m.group 1 = g := (hhas (by simp [Shape.indices])).group_eq (by simp)
  have hleast : 5 ≤ ink y := hy.leastInk
  have hfront : ink "ISBN ".toList < excess y := Nat.lt_of_lt_of_le hleast (Nat.le_add_right _ _)
  have hless := lessens_plain (by decide) hfront x (g ++ r)
  simpa [hg] using hless

-- -----------------------------------------------------------------------------------------
-- The table
-- -----------------------------------------------------------------------------------------

theorem usesUp_markupTable : UsesUp excess (replaceOnce markupTable) := by
  let label := [Slot.lit "[".toList, .group 1, .lit " ".toList, .group 2, .lit "]".toList]
  refine .cons (usesUp_slots false label (by decide) (by decide) fun m => ?_) <|
    .cons (usesUp_slots false label (by decide) (by decide) fun m => ?_) <|
    .cons (usesUp_slots false [.lit "[".toList, .group 1, .lit "]".toList] (by decide) (by decide) fun m => ?_) <|
    .cons (usesUp_slots false label (by decide) (by decide) fun m => ?_) <|
    .cons (usesUp_slots false [.lit "[[".toList, .group 1, .lit "|".toList, .group 2, .lit "]]".toList]
      (by decide) (by decide) fun m => ?_) <|
    .cons (usesUp_slots true [.lit "'''".toList, .group 1, .lit "'''".toList] (by decide)
      (by decide) fun m => ?_) <|
    .cons (usesUp_slots true [.lit "''".toList, .group 1, .lit "''".toList] (by decide)
      (by decide) fun m => ?_) <|
    .cons usesUp_brokenBreak <|
    .cons (usesUp_slots false [.lit "----".toList] (by decide) (by decide) fun m => ?_) <|
    .cons usesUp_bookNumber .nil
  all_goals simp [externalLink, label, fill]

theorem usesUp_templatePrefix (hv : Vocabulary.ofProfile p = .ok v) :
    UsesUp excess (v.templatePrefix.replaceAll fun _ => "\x7b\x7b".toList) := by
  rw [(names_ofProfile hv).templatePrefix]
  refine usesUp_replaceAll fun {m b w r} hm x =>
    lessens_plain (t := "\x7b\x7b".toList) (by decide) ?_ x r
  have hleast := Nat.le_trans (leastInk_caseless _) hm.reads.leastInk
  have hopen : (lit "\x7b\x7b").leastInk = 2 := rfl
  have hcolon : (lit ":").leastInk = 1 := rfl
  have hnew : ink "\x7b\x7b".toList = 2 := rfl
  simp only [leastInk_append, hopen, hcolon] at hleast
  rw [excess, hnew]
  omega

theorem usesUp_markup (hv : Vocabulary.ofProfile p = .ok v) : UsesUp excess fun t =>
    v.templatePrefix.replaceAll (fun _ => "\x7b\x7b".toList) (replaceUntilStable markupTable t) :=
  (usesUp_templatePrefix hv).comp usesUp_markupTable.untilStable

end Fix

end Wikitext
