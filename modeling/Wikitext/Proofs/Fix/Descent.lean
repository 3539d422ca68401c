import Wikitext.Proofs.Fix.Harmless
import Wikitext.Proofs.Fix.Passes
import Wikitext.Proofs.Text.Blank

/-!
# Replacements that leave less

A pass replaces its matches from left to right. If each of them leaves less to spare where it
stands, between what was replaced before it and the rest of the text, then so does the pass
(`usesUp_replaceAll`). What most replacements leave less of is ink, that is characters other than
spaces; for a replacement made up of groups and fixed texts this is checked on the pattern alone
(`ink_fill_lt`).

What is counted for each line adds up over the lines of a text. So a pass that replaces whole lines
leaves less of it if every line that changes does, and a text that is trimmed does not get more of
it if no line does.
-/

namespace Wikitext.Fix

open Pattern

variable {spare : Text → Nat}

-- -----------------------------------------------------------------------------------------
-- One match after the other
-- -----------------------------------------------------------------------------------------

/-- What stands in the place of a text is that text, or leaves less to spare. -/
def Lessens (spare : Text → Nat) (t t' : Text) : Prop := t' = t ∨ spare t' < spare t

theorem Lessens.refl (t : Text) : Lessens spare t t := .inl rfl

theorem Lessens.le (h : Lessens spare t u) : spare u ≤ spare t := by
  rcases h with rfl | hlt
  · exact Nat.le_refl _
  · exact Nat.le_of_lt hlt

theorem Lessens.trans (h : Lessens spare t u) (h' : Lessens spare u v) : Lessens spare t v := by
  rcases h with rfl | hlt
  · exact h'
  · exact .inr (Nat.lt_of_le_of_lt h'.le hlt)

theorem usesUp_iff : UsesUp spare step ↔ ∀ t, Lessens spare t (step t) :=
  forall_congr' fun _ => or_iff_not_imp_left.symm

section
variable {p : Pattern} {f : Match → Text}

theorem usesUp_replaceAll_within {W : Option Char → Text → Prop} (hstart : W none [])
    (hkept : ∀ b x u, W b x → W (lastOf b u) (x ++ u))
    (hhit : ∀ {m b w r x}, Takes p m b w r → W b x →
      Lessens spare (x ++ (w ++ r)) (x ++ (f m ++ r)) ∧ W (lastOf b w) (x ++ f m)) :
    UsesUp spare (p.compile.replaceAll f) :=
  usesUp_iff.mpr fun t => related_pieces Lessens.refl Lessens.trans hkept (fun _ => hhit)
    (Regex.cuts_pieces p t) hstart

/-- Where it does not matter what stands in front of a match. -/
theorem usesUp_replaceAll
    (hhit : ∀ {m b w r}, Takes p m b w r → ∀ x, Lessens spare (x ++ (w ++ r)) (x ++ (f m ++ r))) :
    UsesUp spare (p.compile.replaceAll f) :=
  usesUp_replaceAll_within (W := fun _ _ => True) trivial (fun _ _ _ _ => trivial)
    fun hm _ => ⟨hhit hm _, trivial⟩

theorem usesUp_apply
    (hhit : ∀ {m b w r}, Takes p m b w r → ∀ x, Lessens spare (x ++ (w ++ r)) (x ++ (f m ++ r))) :
    UsesUp spare (Replacement.of p f).apply :=
  usesUp_replaceAll hhit

end

theorem UsesUp.nil : UsesUp spare (replaceOnce []) := fun _ hchange => absurd rfl hchange

theorem UsesUp.cons {r : Replacement} (h : UsesUp spare r.apply)
    (ht : UsesUp spare (replaceOnce table)) : UsesUp spare (replaceOnce (r :: table)) :=
  ht.comp h

-- -----------------------------------------------------------------------------------------
-- Ink
-- -----------------------------------------------------------------------------------------

/-- The number of characters other than spaces. -/
def ink (t : Text) : Nat := t.countP (· != ' ')

@[simp] theorem ink_nil : ink [] = 0 := rfl

@[simp] theorem ink_append (u v : Text) : ink (u ++ v) = ink u + ink v := List.countP_append

theorem ink_cons_solid (h : c ≠ ' ') (t : Text) : ink (c :: t) = ink t + 1 :=
  List.countP_cons_of_pos (by simpa using h)

theorem ink_le_of_infix (h : u <:+: t) : ink u ≤ ink t := h.sublist.countP_le

theorem Lessens.around_ink (h : Lessens ink w w') (x r : Text) :
    Lessens ink (x ++ (w ++ r)) (x ++ (w' ++ r)) := by
  rcases h with rfl | hlt
  · exact .refl _
  · right
    simp only [ink_append]
    omega

theorem usesUp_ink {p : Pattern} {f : Match → Text}
    (h : ∀ {m b w r}, Takes p m b w r → Lessens ink w (f m)) : UsesUp ink (Replacement.of p f).apply :=
  usesUp_apply fun hm x => (h hm).around_ink x _

end Fix

-- -----------------------------------------------------------------------------------------
-- How much ink a match has at least
-- -----------------------------------------------------------------------------------------

namespace Pattern

open Fix (ink)

/-- No text spelt has less ink. -/
def leastInk : Pattern → Nat
  | .empty | .anchor _ => 0
  | .char accepts => if accepts ' ' then 0 else 1
  | .seq p q => p.leastInk + q.leastInk
  | .alt p q => min p.leastInk q.leastInk
  | .capture _ p => p.leastInk
  | .times least _ _ p => least * p.leastInk

theorem leastInk_append (p q : Pattern) : (p ++ q).leastInk = p.leastInk + q.leastInk := rfl

theorem Reads.leastInk {p : Pattern} (h : p.Reads b w r gs) : p.leastInk ≤ ink w := by
  induction h with
  | empty | anchor => exact Nat.le_refl 0
  | char hx =>
    rw [Pattern.leastInk]
    split
    · exact Nat.zero_le _
    · rename_i hspace
      refine Nat.le_of_eq (Fix.ink_cons_solid (fun heq => hspace ?_) []).symm
      exact heq ▸ hx
  | seq _ _ ihp ihq =>
    rw [Fix.ink_append]
    exact Nat.add_le_add ihp ihq
  | left _ ih => exact Nat.le_trans (Nat.min_le_left _ _) ih
  | right _ ih => exact Nat.le_trans (Nat.min_le_right _ _) ih
  | capture _ ih => exact ih
  | stop => exact Nat.le_of_eq (Nat.zero_mul _)
  | @round least most p b u v r gs greedy gs' _ _ _ ih ih' =>
    rw [Pattern.leastInk] at ih' ⊢
    rw [Fix.ink_append]
    rcases least with _ | n
    · rw [Nat.zero_mul]
      exact Nat.zero_le _
    · rw [Nat.add_sub_cancel] at ih'
      rw [Nat.succ_mul]
      omega

theorem leastInk_caseless (p : Pattern) : p.leastInk ≤ p.caseless.leastInk := by
  induction p with
  | char accepts =>
    have hspace : CaseClosure [' '] [' '] := by decide
    rw [leastInk, caseless, leastInk]
    split
    · exact Nat.zero_le _
    · rename_i hno
      have hall := hspace.rejects (show [' '].all (fun c => !accepts c) = true by simpa using hno)
      rw [if_neg (by simpa using hall)]
  | seq p q ihp ihq => exact Nat.add_le_add ihp ihq
  | alt p q ihp ihq => exact min_le_min ihp ihq
  | capture i p ih => exact ih
  | times least most greedy p ih => exact Nat.mul_le_mul_left least ih
  | _ => exact Nat.le_refl _

theorem leastInk_folded (fold : Bool) (p : Pattern) : p.leastInk ≤ (p.folded fold).leastInk := by
  cases fold with
  | false => exact Nat.le_refl _
  | true => exact p.leastInk_caseless

namespace Shape

/-- No text that has the shape has less ink outside of its groups. -/
def leastInk : Shape → Nat
  | [] => 0
  | .out p :: s => p.leastInk + leastInk s
  | .group _ _ :: s => leastInk s

theorem leastInk_folded (fold : Bool) (s : Shape) : leastInk s ≤ leastInk (s.folded fold) := by
  induction s with
  | nil => exact Nat.le_refl _
  | cons i s ih =>
    cases i with
    | out p => exact Nat.add_le_add (p.leastInk_folded fold) ih
    | group => exact ih

theorem Fits.leastInk {s : Shape} (h : Fits s b w r gs) :
    Shape.leastInk s + (gs.map fun g => ink g.2).sum ≤ ink w := by
  induction s generalizing b w gs with
  | nil =>
    obtain ⟨rfl, rfl⟩ := h
    exact Nat.le_refl 0
  | cons i s ih =>
    cases i with
    | out p =>
      obtain ⟨x, v, rfl, hx, h⟩ := h
      have hout := hx.leastInk
      have hrest := ih h
      rw [Shape.leastInk, Fix.ink_append]
      omega
    | group i p =>
      obtain ⟨g, v, gs, rfl, rfl, -, h⟩ := h
      have hrest := ih h
      rw [Shape.leastInk, Fix.ink_append, List.map_cons, List.sum_cons]
      dsimp only
      omega

end Shape

end Pattern

namespace Fix

-- -----------------------------------------------------------------------------------------
-- Groups and fixed texts
-- -----------------------------------------------------------------------------------------

open Pattern (Shape)

/-- The groups among the slots, in their order. -/
def groupsOf : List Slot → List Nat
  | [] => []
  | .lit _ :: slots => groupsOf slots
  | .group i :: slots => i :: groupsOf slots

/-- The ink of the fixed texts among the slots. -/
def fixedInk : List Slot → Nat
  | [] => 0
  | .lit t :: slots => ink t + fixedInk slots
  | .group _ :: slots => fixedInk slots

theorem ink_fill (m : Match) (slots : List Slot) :
    ink (fill m slots) = fixedInk slots + ((groupsOf slots).map fun i => ink (m.group i)).sum := by
  induction slots with
  | nil => rfl
  | cons slot slots ih =>
    cases slot with
    | lit t =>
      rw [fill, ink_append, ih, fixedInk, groupsOf]
      omega
    | group i =>
      rw [fill, ink_append, ih, fixedInk, groupsOf, List.map_cons, List.sum_cons]
      omega

/-- A check, with or without regard to letter case, that every match of the pattern has the groups
of the slots, in their order, and around them more ink than the slots have. -/
def lightens (p : Pattern) (slots : List Slot) : Bool :=
  match p.shapes with
  | some ss => ss.all fun s => Shape.indices s == groupsOf slots &&
      decide (0 :: Shape.indices s).Nodup && decide (fixedInk slots < Shape.leastInk s)
  | none => false

theorem fits_of_lightens (fold : Bool) {p : Pattern} (hp : lightens p slots = true)
    (hm : Takes (p.folded fold) m b w r) :
    ∃ s, Shape.Fits s b w r ((groupsOf slots).map fun i => (i, m.group i)) ∧
      fixedInk slots < Shape.leastInk s := by
  unfold lightens at hp
  split at hp
  · rename_i ss hshapes
    have hfolded : (p.folded fold).shapes = some (ss.map (Shape.folded fold)) := by
      rw [Pattern.shapes_folded, hshapes]
      rfl
    obtain ⟨s', hs', gs, hfits, hhas⟩ := fits_of_takes hm hfolded
    obtain ⟨s, hs, rfl⟩ := List.mem_map.mp hs'
    have hcheck := List.all_eq_true.mp hp s hs
    simp only [Bool.and_eq_true, decide_eq_true_eq, beq_iff_eq] at hcheck
    obtain ⟨⟨hgroups, hnodup⟩, hless⟩ := hcheck
    rw [Shape.indices_folded] at hhas
    have hindices := hfits.indices_eq
    rw [Shape.indices_folded, hgroups] at hindices
    have hgs : (groupsOf slots).map (fun i => (i, m.group i)) = gs := by
      rw [hindices, List.map_map]
      refine (List.map_congr_left fun g hg => ?_).trans (List.map_id gs)
      exact Prod.ext rfl ((hhas hnodup).group_eq hg)
    exact ⟨_, hgs ▸ hfits, Nat.lt_of_lt_of_le hless (Shape.leastInk_folded fold s)⟩
  · cases hp

theorem ink_fill_lt (fold : Bool) (slots : List Slot) {p : Pattern} (hp : lightens p slots = true)
    (hm : Takes (p.folded fold) m b w r) : ink (fill m slots) < ink w := by
  obtain ⟨s, hfits, hless⟩ := fits_of_lightens fold hp hm
  have hleast := hfits.leastInk
  rw [List.map_map] at hleast
  rw [ink_fill]
  exact Nat.lt_of_lt_of_le (Nat.add_lt_add_right hless _) hleast

-- -----------------------------------------------------------------------------------------
-- Texts line by line
-- -----------------------------------------------------------------------------------------

variable {count : Text → Nat}

/-- What is counted for the lines of a text, all taken together. -/
def lineSum (count : Text → Nat) (t : Text) : Nat := ((Text.splitOn '\n' t).map count).sum

theorem lineSum_append_cons (x y : Text) :
    lineSum count (x ++ '\n' :: y) = lineSum count x + lineSum count y := by
  rw [lineSum, Text.splitOn_append_cons, List.map_append, List.sum_append, lineSum, lineSum]

theorem lineSum_of_splitOn (h : Text.splitOn '\n' t = part :: parts) :
    lineSum count t = count part + (parts.map count).sum := by
  rw [lineSum, h, List.map_cons, List.sum_cons]

theorem lineSum_line (h : '\n' ∉ w) : lineSum count w = count w :=
  lineSum_of_splitOn (Text.splitOn_of_not_mem h)

-- -----------------------------------------------------------------------------------------
-- Whole lines
-- -----------------------------------------------------------------------------------------

/-- A line begins after this character, or at the start of the text. -/
def LineBegins (b : Option Char) : Prop := ∀ c ∈ b, c = '\n'

/-- A line ends in front of this text. -/
def LineEnds (r : Text) : Prop := ∀ c ∈ r.head?, c = '\n'

/-- A line begins behind this text. -/
def Fresh (x : Text) : Prop := x = [] ∨ ∃ x', x = x' ++ ['\n']

theorem Fresh.lineSum_append (h : Fresh x) (count : Text → Nat) :
    ∃ n, ∀ y, lineSum count (x ++ y) = n + lineSum count y := by
  rcases h with rfl | ⟨x, rfl⟩
  · exact ⟨0, fun y => (Nat.zero_add _).symm⟩
  · refine ⟨lineSum count x, fun y => ?_⟩
    rw [List.append_assoc, List.singleton_append, lineSum_append_cons]

theorem LineEnds.lineSum_append (h : LineEnds r) (count : Text → Nat) :
    ∃ n, ∀ w, '\n' ∉ w → lineSum count (w ++ r) = count w + n := by
  cases r with
  | nil => exact ⟨0, fun w hw => by rw [List.append_nil, lineSum_line hw, Nat.add_zero]⟩
  | cons c r =>
    obtain rfl := h c rfl
    exact ⟨lineSum count r, fun w hw => by rw [lineSum_append_cons, lineSum_line hw]⟩

theorem Lessens.around_line (h : Lessens count w w') (hx : Fresh x) (hr : LineEnds r)
    (hw : '\n' ∉ w) (hw' : '\n' ∉ w') :
    Lessens (lineSum count) (x ++ (w ++ r)) (x ++ (w' ++ r)) := by
  rcases h with rfl | hlt
  · exact .refl _
  · obtain ⟨n, hn⟩ := hx.lineSum_append count
    obtain ⟨k, hk⟩ := hr.lineSum_append count
    right
    rw [hn, hn, hk w hw, hk w' hw']
    omega

theorem LineBegins.fresh_append (h : LineBegins (lastOf b u)) (hx : LineBegins b → Fresh x) :
    Fresh (x ++ u) := by
  rcases List.eq_nil_or_concat u with rfl | ⟨u, c, rfl⟩
  · rw [List.append_nil]
    exact hx h
  · obtain rfl : c = '\n' := h c (by simp [List.concat_eq_append])
    exact .inr ⟨x ++ u, by simp [List.concat_eq_append]⟩

/-- The match is a line of the text. -/
structure TakesLine (b : Option Char) (w r : Text) : Prop where
  begins : LineBegins b
  ends : LineEnds r
  ne_nil : w ≠ []
  inLine : '\n' ∉ w

theorem TakesLine.not_begins (h : TakesLine b w r) : ¬ LineBegins (lastOf b w) := by
  intro hbegins
  rcases List.eq_nil_or_concat w with hnil | ⟨w', c, hw⟩
  · exact h.ne_nil hnil
  · rw [List.concat_eq_append] at hw
    obtain rfl : c = '\n' := hbegins c (by simp [hw])
    exact h.inLine (by simp [hw])

theorem usesUp_lines {p : Pattern} {f : Match → Text}
    (h : ∀ {m b w r}, Takes p m b w r → TakesLine b w r ∧ '\n' ∉ f m ∧ Lessens count w (f m)) :
    UsesUp (lineSum count) (p.compile.replaceAll f) := by
  refine usesUp_replaceAll_within (W := fun b x => LineBegins b → Fresh x)
    (fun _ => .inl rfl) (fun b x u hx hbegins => hbegins.fresh_append hx) fun {m b w r x} hm hx => ?_
  obtain ⟨hline, hnew, hless⟩ := h hm
  exact ⟨hless.around_line (hx hline.begins) hline.ends hline.inLine hnew,
    fun hbegins => absurd hbegins hline.not_begins⟩

-- -----------------------------------------------------------------------------------------
-- Trimmed texts
-- -----------------------------------------------------------------------------------------

theorem lineSum_trimStart_le
    (hcount : ∀ c l, Chars.isBlank c = true → count l ≤ count (c :: l)) (t : Text) :
    lineSum count (Text.trimStart t) ≤ lineSum count t := by
  induction t with
  | nil => exact Nat.le_refl _
  | cons c t ih =>
    cases hc : Chars.isBlank c with
    | false =>
      rw [Text.trimStart, List.dropWhile_cons_of_neg (by simp [hc])]
    | true =>
      have hone : lineSum count t ≤ lineSum count (c :: t) := by
        by_cases hline : c = '\n'
        · rw [hline, ← List.nil_append ('\n' :: t), lineSum_append_cons]
          exact Nat.le_add_left _ _
        · obtain ⟨part, parts, ht⟩ := Text.exists_splitOn '\n' t
          rw [lineSum_of_splitOn ht, lineSum_of_splitOn (Text.splitOn_cons_ne hline ht)]
          exact Nat.add_le_add_right (hcount c part hc) _
      rw [Text.trimStart, List.dropWhile_cons_of_pos hc]
      exact Nat.le_trans ih hone

/-- The last line of a text, with what stands before it. -/
theorem exists_last_line (t : Text) : ∃ x l, t = x ++ l ∧ Fresh x ∧ '\n' ∉ l := by
  induction t using List.reverseRecOn with
  | nil => exact ⟨[], [], rfl, .inl rfl, List.not_mem_nil⟩
  | append_singleton t c ih =>
    obtain ⟨x, l, rfl, hx, hl⟩ := ih
    by_cases hline : c = '\n'
    · exact ⟨x ++ l ++ [c], [], by simp, .inr ⟨x ++ l, by rw [hline]⟩, List.not_mem_nil⟩
    · exact ⟨x, l ++ [c], by simp, hx, by simp [hl, Ne.symm hline]⟩

theorem lineSum_trimEnd_le
    (hcount : ∀ c l, Chars.isBlank c = true → count l ≤ count (l ++ [c])) (t : Text) :
    lineSum count (Text.trimEnd t) ≤ lineSum count t := by
  induction t using List.reverseRecOn with
  | nil => exact Nat.le_refl _
  | append_singleton t c ih =>
    cases hc : Chars.isBlank c with
    | false =>
      rw [Text.trimEnd_of_not_blank fun d hd => ?_]
      obtain rfl : c = d := by simpa using hd
      exact hc
    | true =>
      have hblank : Blank [c] := blank_singleton.mpr hc
      have hone : lineSum count t ≤ lineSum count (t ++ [c]) := by
        by_cases hline : c = '\n'
        · rw [hline, lineSum_append_cons]
          exact Nat.le_add_right _ _
        · obtain ⟨x, l, rfl, hx, hl⟩ := exists_last_line t
          obtain ⟨n, hn⟩ := hx.lineSum_append count
          have hl' : '\n' ∉ l ++ [c] := by simp [hl, Ne.symm hline]
          rw [List.append_assoc, hn, hn, lineSum_line hl, lineSum_line hl']
          exact Nat.add_le_add_left (hcount c l hc) n
      rw [Text.trimEnd_append_blank hblank]
      exact Nat.le_trans ih hone

theorem lineSum_trim_le (hstart : ∀ c l, Chars.isBlank c = true → count l ≤ count (c :: l))
    (hend : ∀ c l, Chars.isBlank c = true → count l ≤ count (l ++ [c])) (t : Text) :
    lineSum count (Text.trim t) ≤ lineSum count t :=
  Nat.le_trans (lineSum_trimEnd_le hend _) (lineSum_trimStart_le hstart t)

end Fix

end Wikitext
