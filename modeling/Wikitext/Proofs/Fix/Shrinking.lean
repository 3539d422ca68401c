import Wikitext.Fix.References
import Wikitext.Proofs.Fix.Descent
import Wikitext.Proofs.Fix.Links
import Wikitext.Proofs.Pattern.Words

/-!
# Fixes that use something up

Each match of an empty link, an empty reference, a target with underscores or a link of an article
to itself gives way to a text with less ink. A punctuation mark behind references moves in front of
them, or disappears; either way fewer characters stand in front of punctuation marks, counted for
each mark (`delay`). So the passes of these fixes come to rest, however deeply the constructs are
nested.
-/

namespace Wikitext.Fix

open Pattern

-- -----------------------------------------------------------------------------------------
-- Empty constructs and references
-- -----------------------------------------------------------------------------------------

theorem usesUp_emptyConstruct : UsesUp ink emptyConstruct.apply := by
  refine usesUp_ink fun hm => .inr ?_
  have hleast := hm.reads.leastInk
  exact Nat.lt_of_lt_of_le (by decide) hleast

theorem usesUp_emptyNamedRef : UsesUp ink emptyNamedRef.apply := by
  refine usesUp_ink fun {m b w r} hm => .inr ?_
  have hfill := ink_fill_lt true [.lit "<ref".toList, .group 1, .lit " />".toList] (by decide) hm
  simpa [fill] using hfill

theorem usesUp_emptyRef : UsesUp ink emptyRef.apply := by
  refine usesUp_ink fun hm => .inr ?_
  have hleast := Nat.le_trans (leastInk_caseless _) hm.reads.leastInk
  exact Nat.lt_of_lt_of_le (by decide) hleast

theorem usesUp_simplifiedTags : UsesUp ink fun t => emptyRef.apply (emptyNamedRef.apply t) :=
  usesUp_emptyRef.comp usesUp_emptyNamedRef

-- -----------------------------------------------------------------------------------------
-- Targets of links
-- -----------------------------------------------------------------------------------------

theorem ink_join (separator : Text) (parts : List Text) :
    ink (Text.join separator parts) = (parts.map ink).sum + (parts.length - 1) * ink separator := by
  induction parts with
  | nil => simp [Text.join]
  | cons part parts ih =>
    cases parts with
    | nil => simp [Text.join]
    | cons next parts =>
      rw [Text.join, ink_append, ink_append, ih]
      · simp only [List.map_cons, List.sum_cons, List.length_cons, Nat.add_sub_cancel, Nat.succ_mul]
        omega
      · simp

theorem ink_replace_lt (hlt : ink by' < ink piece) (h : piece <:+: t) :
    ink (Text.replace piece by' t) < ink t := by
  have hpiece : piece ≠ [] := by
    rintro rfl
    exact Nat.not_lt_zero _ hlt
  have hparts : 1 < (Text.cut piece t).length := ((Text.divides_cut hpiece t).isInfix_iff).mp h
  have hless := Nat.mul_lt_mul_of_pos_left hlt (Nat.sub_pos_of_lt hparts)
  rw [Text.replace, ink_join]
  conv_rhs => rw [← Text.join_cut hpiece t, ink_join]
  exact Nat.add_lt_add_left hless _

/-- The characters of a target beside the piece that it has. -/
def targetPart : Pattern := many (noneOf "[]|\x7b\x7d")

theorem targetWith_split {piece : String} (hm : Takes (targetWith piece) m b w r)
    (hs : (targetWith piece).shapes = some [[.out (lit "[["),
      .group 1 (targetPart ++ lit piece ++ targetPart), .group 2 (lit "|" <|> lit "]]")]]) :
    w = "[[".toList ++ (m.group 1 ++ m.group 2) ∧ piece.toList <:+: m.group 1 := by
  obtain ⟨s, hmem, gs, hf, hhas⟩ := fits_of_takes hm hs
  obtain rfl := List.mem_singleton.mp hmem
  obtain ⟨x, _, rfl, hx, g₁, _, _, rfl, rfl, h₁, g₂, _, _, rfl, rfl, -, rfl, rfl⟩ := hf
  have hgroups := hhas (by simp [Shape.indices])
  have hg₁ : m.group 1 = g₁ := hgroups.group_eq (by simp)
  have hg₂ : m.group 2 = g₂ := hgroups.group_eq (by simp)
  obtain ⟨rfl, -⟩ := forms_ofText.mp (hx.anywhere (anchorless_ofText _) none [])
  have hpiece : (targetPart ++ lit piece).anchorless = true := by
    rw [anchorless_append, lit, anchorless_ofText]
    rfl
  have hall : (targetPart ++ lit piece ++ targetPart).anchorless = true := by
    rw [anchorless_append, hpiece]
    rfl
  obtain ⟨u, v, _, _, rfl, -, hu, -⟩ := (forms_append hpiece rfl).mp (h₁.anywhere hall none [])
  obtain ⟨u, y, _, _, rfl, -, -, hy⟩ := (forms_append rfl (anchorless_ofText _)).mp hu
  obtain ⟨rfl, -⟩ := forms_ofText.mp hy
  exact ⟨by simp [hg₁, hg₂], hg₁ ▸ ⟨u, v, rfl⟩⟩

theorem lessens_target {piece : String} (hpiece : ink " ".toList < ink piece.toList)
    (hm : Takes (targetWith piece) m b w r)
    (hs : (targetWith piece).shapes = some [[.out (lit "[["),
      .group 1 (targetPart ++ lit piece ++ targetPart), .group 2 (lit "|" <|> lit "]]")]]) :
    Lessens ink w
      ("[[".toList ++ Text.replace piece.toList " ".toList (m.group 1) ++ m.group 2) := by
  obtain ⟨rfl, hinfix⟩ := targetWith_split hm hs
  have hless := ink_replace_lt hpiece hinfix
  right
  simp only [ink_append]
  omega

theorem usesUp_underscores : UsesUp ink underscores.apply := by
  refine usesUp_ink fun {m b w r} hm => ?_
  split
  · exact hm.text ▸ .refl _
  · exact lessens_target (by decide) hm rfl

theorem usesUp_encodedSpaces : UsesUp ink encodedSpaces.apply :=
  usesUp_ink fun hm => lessens_target (by decide) hm rfl

-- -----------------------------------------------------------------------------------------
-- Links of an article to itself
-- -----------------------------------------------------------------------------------------

theorem dropAllPrefix_append (piece rest : Text) (n : Nat) :
    dropAllPrefix piece (n + 1) (piece ++ rest) = dropAllPrefix piece n rest := by
  rw [dropAllPrefix, Text.dropPrefix?_eq_some.mpr rfl]

/-- Without a label, what stays is part of what stands behind the opening brackets. -/
theorem unlink_within (hg : m.group? 1 = none) (hm : m.text = "[[".toList ++ rest) :
    unlink m <:+: rest := by
  have hlength : m.text.length = rest.length + 1 + 1 := by simp [hm]
  unfold unlink
  rw [hg]
  dsimp only
  rw [hlength, hm, dropAllPrefix_append]
  have hopened := dropAllPrefix_suffix "[[".toList (rest.length + 1) rest
  generalize dropAllPrefix "[[".toList (rest.length + 1) rest = opened at hopened ⊢
  have hclosed := dropAllPrefix_suffix "]]".toList opened.length opened.reverse
  rw [← List.reverse_prefix, List.reverse_reverse] at hclosed
  exact (Text.trim_isInfix _).trans (hclosed.isInfix.trans hopened.isInfix)

/-- Every text that the pattern reads begins so. -/
def Begins (p : Pattern) (t : Text) : Prop := ∀ b w r gs, p.Reads b w r gs → t <+: w

theorem begins_lit (s : String) : Begins (lit s) s.toList := by
  intro b w r gs h
  obtain ⟨rfl, -⟩ := forms_ofText.mp (h.anywhere (anchorless_ofText _) none [])
  exact List.prefix_rfl

theorem Begins.append {p : Pattern} (h : Begins p t) (q : Pattern) : Begins (p ++ q) t := by
  rintro b w r gs (_ | _)
  exact (h _ _ _ _ ‹_›).trans (List.prefix_append _ _)

theorem begins_titleLink (title : Text) : Begins (titleLink title) "[[".toList :=
  (((begins_lit "[[").append _).append _).append _

theorem usesUp_linkToSelf (title : Text) : UsesUp ink ((linkToSelf title).replaceAll unlink) := by
  refine usesUp_replaceAll fun {m b w r} hm x => .around_ink (.inr ?_) x r
  obtain ⟨s, hs, gs, hf, hhas⟩ := fits_of_takes hm (shapes_linkToSelf title)
  simp only [List.mem_cons, List.not_mem_nil, or_false] at hs
  rcases hs with rfl | rfl
  · obtain ⟨x, _, rfl, hx, rfl, rfl⟩ := hf
    obtain ⟨rest, rfl⟩ := (begins_titleLink title).append _ _ _ _ _ hx
    have hg : m.group? 1 = none := (hhas (by simp [Shape.indices])).other 1 (by decide) (by simp)
    have hle := ink_le_of_infix (unlink_within hg (hm.text.trans (List.append_nil _)))
    have hopen : ink "[[".toList = 2 := rfl
    rw [ink_append, ink_append, hopen]
    omega
  · obtain ⟨x, _, rfl, -, g, _, _, rfl, rfl, -, y, _, rfl, hy, rfl, rfl⟩ := hf
    have hg : m.group? 1 = some g :=
      (hhas (by simp [Shape.indices])).group (1, g) List.mem_cons_self
    have hclose : 2 ≤ ink y := hy.leastInk
    have hunlink : unlink m = g := by simp [unlink, hg]
    rw [hunlink]
    simp only [ink_append]
    omega

theorem usesUp_targets : UsesUp ink fun t => encodedSpaces.apply (underscores.apply t) :=
  usesUp_encodedSpaces.comp usesUp_underscores

-- -----------------------------------------------------------------------------------------
-- Punctuation that moves forward
-- -----------------------------------------------------------------------------------------

def isMark (c : Char) : Bool := ".,;:".toList.contains c

/-- The punctuation marks in the text. -/
def markCount (t : Text) : Nat := t.countP isMark

/-- How many characters stand in front of the punctuation marks, all marks taken together. -/
def delay : Text → Nat
  | [] => 0
  | _ :: t => delay t + markCount t

theorem markCount_append (u v : Text) : markCount (u ++ v) = markCount u + markCount v :=
  List.countP_append

theorem delay_append (u v : Text) :
    delay (u ++ v) = delay u + delay v + u.length * markCount v := by
  induction u with
  | nil => simp [delay]
  | cons c u ih =>
    rw [List.cons_append, delay, delay, ih, markCount_append, List.length_cons, Nat.succ_mul]
    omega

/-- A text with fewer characters in front of its marks, and with no more of either. -/
theorem lessens_delay (hlength : w'.length ≤ w.length) (hmarks : markCount w' ≤ markCount w)
    (hdelay : delay w' < delay w) (x r : Text) :
    Lessens delay (x ++ (w ++ r)) (x ++ (w' ++ r)) := by
  right
  have hbehind : w'.length * markCount r ≤ w.length * markCount r :=
    Nat.mul_le_mul_right _ hlength
  have hinside : x.length * markCount (w' ++ r) ≤ x.length * markCount (w ++ r) := by
    refine Nat.mul_le_mul_left _ ?_
    simp only [markCount_append]
    omega
  simp only [delay_append]
  omega

/-- References with a mark some way behind them. -/
theorem lt_delay (hg : g ≠ []) (hc : isMark c = true) : delay g < delay (g ++ (y ++ [c])) := by
  have hpos : g.length * 1 ≤ g.length * markCount (y ++ [c]) := by
    refine Nat.mul_le_mul_left _ ?_
    simp [markCount, hc]
  have hlength := List.length_pos_iff.mpr hg
  rw [delay_append]
  omega

/-- Not all characters of a reference are marks. -/
theorem markCount_lt (hx : isMark x = false) : markCount (x :: g) < (x :: g).length := by
  have hle : markCount g ≤ g.length := List.countP_le_length
  have hcount : markCount (x :: g) = markCount g := List.countP_cons_of_neg (by simp [hx])
  rw [hcount, List.length_cons]
  omega

theorem delay_move_lt (hx : isMark x = false) (hc : isMark c = true) :
    delay (c :: x :: g) < delay (x :: g ++ (y ++ [c])) := by
  have hpos : (x :: g).length * 1 ≤ (x :: g).length * markCount (y ++ [c]) := by
    refine Nat.mul_le_mul_left _ ?_
    simp [markCount, hc]
  have hless := markCount_lt (g := g) hx
  rw [delay_append, delay]
  omega

/-- A match of references with a mark behind them, part by part. -/
theorem refs_split {refs : Pattern} (hgroups : refs.hasGroups = false)
    (hbegins : refs.beginsOff ".,;:".toList = true)
    (hm : Takes (group 1 refs ++ gap ++ group 2 (oneOf ".,;:")).caseless m b w r) :
    ∃ x g y c, m.group 1 = x :: g ∧ m.group 2 = [c] ∧ isMark x = false ∧ isMark c = true ∧
      w = x :: g ++ (y ++ [c]) := by
  have hclosed : CaseClosure ".,;:".toList ".,;:".toList := by decide
  have hrefs : (group 1 refs).shapes = some [[.group 1 refs]] := by simp [group, shapes, hgroups]
  have hgap : gap.shapes = some [[.out gap]] := rfl
  have hmark : (group 2 (oneOf ".,;:")).shapes = some [[.group 2 (oneOf ".,;:")]] := rfl
  have hshapes : (group 1 refs ++ gap ++ group 2 (oneOf ".,;:")).shapes =
      some [[.group 1 refs, .out gap, .group 2 (oneOf ".,;:")]] :=
    shapes_append (shapes_append hrefs hgap) hmark
  obtain ⟨s, hmem, gs, hf, hhas⟩ := fits_of_takes hm (by rw [shapes_caseless, hshapes]; rfl)
  obtain rfl := List.mem_singleton.mp hmem
  obtain ⟨g₁, _, _, rfl, rfl, h₁, y, _, rfl, -, g₂, _, _, rfl, rfl, h₂, rfl, rfl⟩ := hf
  have hhas := hhas (by decide : [0, 1, 2].Nodup)
  obtain ⟨x, g, rfl, hx⟩ := h₁.spells.beginsOff (beginsOff_caseless hclosed hbegins)
  have hone : (oneOf ".,;:").caseless = oneOf ".,;:" := caseless_oneOf (by decide)
  change (oneOf ".,;:").caseless.Reads _ _ _ _ at h₂
  rw [hone] at h₂
  obtain ⟨c, hc, rfl, -⟩ := forms_char.mp (h₂.anywhere rfl none [])
  refine ⟨x, g, y, c, hhas.group_eq (by simp), hhas.group_eq (by simp), ?_, hc, by simp⟩
  simpa [isMark] using hx

theorem usesUp_punctuation : UsesUp delay (refsThenPunctuation.replaceAll punctuationFirst) := by
  obtain ⟨refs, hpattern, hgroups, hbegins⟩ : ∃ refs : Pattern, refsThenPunctuation =
      (group 1 refs ++ gap ++ group 2 (oneOf ".,;:")).caseless.compile ∧
      refs.hasGroups = false ∧ refs.beginsOff ".,;:".toList = true :=
    ⟨_, rfl, by decide, by decide⟩
  rw [hpattern]
  refine usesUp_replaceAll fun {m b w r} hm front => ?_
  obtain ⟨x, g, y, c, hg, hmark, hx, hc, rfl⟩ := refs_split hgroups hbegins hm
  have hone : markCount [c] = 1 := by simp [markCount, hc]
  unfold punctuationFirst
  rw [hg, hmark]
  dsimp only
  split
  · refine lessens_delay ?_ ?_ (lt_delay (List.cons_ne_nil x g) hc) front r
    · simp
    · rw [markCount_append]
      exact Nat.le_add_right _ _
  · refine lessens_delay ?_ ?_ (delay_move_lt hx hc) front r
    · simp
    · rw [← List.singleton_append, markCount_append, markCount_append, markCount_append, hone]
      omega

end Wikitext.Fix
