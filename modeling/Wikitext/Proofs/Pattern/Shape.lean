import Wikitext.Proofs.Pattern.Ends

/-!
# Shapes of matches

The shape of a match says in which order groups and what lies between them make
it up. `shapes` finds the possible shapes of the matches of a pattern that is
simple enough, and `Reads.fits` is its soundness. Every item of a shape has its
own pattern, so that checks on patterns tell of it what they tell of a whole
match: that it has none of some characters (`avoids`), or one that is none of
them (`strays`).
-/

namespace Wikitext.Pattern

variable {xs : List Char}

-- -----------------------------------------------------------------------------------------
-- Checks on what is spelt
-- -----------------------------------------------------------------------------------------

/-- No text spelt has a character of `xs`. -/
def avoids (xs : List Char) : Pattern → Bool
  | .empty | .anchor _ => true
  | .char accepts => xs.all fun x => !accepts x
  | .seq p q | .alt p q => p.avoids xs && q.avoids xs
  | .capture _ p | .times _ _ _ p => p.avoids xs

/-- Every text spelt has a character that is none of `xs`. -/
def strays (xs : List Char) : Pattern → Bool
  | .empty | .anchor _ => false
  | .char accepts => xs.all fun x => !accepts x
  | .seq p q => p.strays xs || q.strays xs
  | .alt p q => p.strays xs && q.strays xs
  | .capture _ p => p.strays xs
  | .times least _ _ p => least != 0 && p.strays xs

def hasGroups : Pattern → Bool
  | .empty | .anchor _ | .char _ => false
  | .seq p q | .alt p q => p.hasGroups || q.hasGroups
  | .capture _ _ => true
  | .times _ _ _ p => p.hasGroups

theorem Reads.avoids {p : Pattern} (h : p.Reads b w r gs) (hp : p.avoids xs = true) :
    ∀ c ∈ w, c ∉ xs := by
  induction h with
  | empty | anchor | stop => simp
  | char hx =>
    intro c hc
    obtain rfl := List.mem_singleton.mp hc
    exact not_mem_of_accepts hp hx
  | seq _ _ ihp ihq =>
    simp only [Pattern.avoids, Bool.and_eq_true] at hp
    intro c hc
    exact (List.mem_append.mp hc).elim (ihp hp.1 c) (ihq hp.2 c)
  | left _ ih =>
    simp only [Pattern.avoids, Bool.and_eq_true] at hp
    exact ih hp.1
  | right _ ih =>
    simp only [Pattern.avoids, Bool.and_eq_true] at hp
    exact ih hp.2
  | capture _ ih => exact ih hp
  | round _ _ _ ih ih' =>
    intro c hc
    exact (List.mem_append.mp hc).elim (ih hp c) (ih' hp c)

theorem Reads.strays {p : Pattern} (h : p.Reads b w r gs) (hp : p.strays xs = true) :
    ∃ c ∈ w, c ∉ xs := by
  induction h with
  | empty | anchor | stop => simp [Pattern.strays] at hp
  | char hx => exact ⟨_, List.mem_singleton_self _, not_mem_of_accepts hp hx⟩
  | seq _ _ ihp ihq =>
    simp only [Pattern.strays, Bool.or_eq_true] at hp
    rcases hp with hp | hp
    · obtain ⟨c, hc, hn⟩ := ihp hp
      exact ⟨c, List.mem_append_left _ hc, hn⟩
    · obtain ⟨c, hc, hn⟩ := ihq hp
      exact ⟨c, List.mem_append_right _ hc, hn⟩
  | left _ ih =>
    simp only [Pattern.strays, Bool.and_eq_true] at hp
    exact ih hp.1
  | right _ ih =>
    simp only [Pattern.strays, Bool.and_eq_true] at hp
    exact ih hp.2
  | capture _ ih => exact ih hp
  | round _ _ _ ih _ =>
    simp only [Pattern.strays, Bool.and_eq_true] at hp
    obtain ⟨c, hc, hn⟩ := ih hp.2
    exact ⟨c, List.mem_append_left _ hc, hn⟩

theorem Reads.groups_eq_nil {p : Pattern} (h : p.Reads b w r gs) (hp : p.hasGroups = false) :
    gs = [] := by
  induction h with
  | empty | anchor | stop | char => rfl
  | seq _ _ ihp ihq =>
    simp only [Pattern.hasGroups, Bool.or_eq_false_iff] at hp
    rw [ihp hp.1, ihq hp.2, List.append_nil]
  | left _ ih =>
    simp only [Pattern.hasGroups, Bool.or_eq_false_iff] at hp
    exact ih hp.1
  | right _ ih =>
    simp only [Pattern.hasGroups, Bool.or_eq_false_iff] at hp
    exact ih hp.2
  | capture => cases hp
  | round _ _ _ ih ih' => rw [ih hp, ih' hp, List.append_nil]

/-- What a group records is part of what is consumed. -/
theorem Reads.groups_within {p : Pattern} (h : p.Reads b w r gs) : ∀ g ∈ gs, g.2 <:+: w := by
  induction h with
  | empty | anchor | stop | char => simp
  | seq _ _ ihp ihq =>
    intro g hg
    rcases List.mem_append.mp hg with hg | hg
    · exact (ihq g hg).trans (List.suffix_append _ _).isInfix
    · exact (ihp g hg).trans (List.prefix_append _ _).isInfix
  | left _ ih | right _ ih => exact ih
  | capture _ ih =>
    intro g hg
    rcases List.mem_cons.mp hg with rfl | hg
    · exact List.infix_rfl
    · exact ih g hg
  | round _ _ _ ih ih' =>
    intro g hg
    rcases List.mem_append.mp hg with hg | hg
    · exact (ih' g hg).trans (List.suffix_append _ _).isInfix
    · exact (ih g hg).trans (List.prefix_append _ _).isInfix

-- -----------------------------------------------------------------------------------------
-- The checks on patterns that are put together
-- -----------------------------------------------------------------------------------------

section
variable {ys : List Char} (hc : CaseClosure xs ys)
include hc

theorem avoids_caseless {p : Pattern} (h : p.avoids ys = true) : p.caseless.avoids xs = true := by
  induction p with
  | empty | anchor => rfl
  | char => exact hc.rejects h
  | seq p q ihp ihq | alt p q ihp ihq =>
    simp only [caseless, avoids, Bool.and_eq_true] at h ⊢
    exact ⟨ihp h.1, ihq h.2⟩
  | capture i p ih | times least most greedy p ih => exact ih h

theorem strays_caseless {p : Pattern} (h : p.strays ys = true) : p.caseless.strays xs = true := by
  induction p with
  | empty | anchor => cases h
  | char => exact hc.rejects h
  | seq p q ihp ihq =>
    simp only [caseless, strays, Bool.or_eq_true] at h ⊢
    exact h.imp ihp ihq
  | alt p q ihp ihq =>
    simp only [caseless, strays, Bool.and_eq_true] at h ⊢
    exact ⟨ihp h.1, ihq h.2⟩
  | capture i p ih => exact ih h
  | times least most greedy p ih =>
    simp only [caseless, strays, Bool.and_eq_true] at h ⊢
    exact ⟨h.1, ih h.2⟩

end

theorem hasGroups_caseless (p : Pattern) : p.caseless.hasGroups = p.hasGroups := by
  induction p with
  | seq p q ihp ihq | alt p q ihp ihq => simp only [caseless, hasGroups, ihp, ihq]
  | times least most greedy p ih => exact ih
  | _ => rfl

/-- The pattern, without regard to letter case if so wanted. -/
@[reducible]
def folded : Bool → Pattern → Pattern
  | false, p => p
  | true, p => p.caseless

theorem folded_seq (fold : Bool) (p q : Pattern) :
    (seq p q).folded fold = .seq (p.folded fold) (q.folded fold) := by
  cases fold <;> rfl

theorem avoids_folded {ys : List Char} (hc : CaseClosure xs ys) (fold : Bool) {p : Pattern}
    (h : p.avoids ys = true) (hr : (p.folded fold).Reads b w r gs) : ∀ c ∈ w, c ∉ xs := by
  cases fold with
  | false => exact fun c hw hx => hr.avoids h c hw (hc c hx).1
  | true => exact hr.avoids (avoids_caseless hc h)

theorem strays_folded {ys : List Char} (hc : CaseClosure xs ys) (fold : Bool) {p : Pattern}
    (h : p.strays ys = true) (hr : (p.folded fold).Reads b w r gs) : ∃ c ∈ w, c ∉ xs := by
  cases fold with
  | false =>
    obtain ⟨c, hw, hy⟩ := hr.strays h
    exact ⟨c, hw, fun hx => hy (hc c hx).1⟩
  | true => exact hr.strays (strays_caseless hc h)

theorem avoids_append (p q : Pattern) : (p ++ q).avoids xs = (p.avoids xs && q.avoids xs) := rfl

theorem strays_append (p q : Pattern) : (p ++ q).strays xs = (p.strays xs || q.strays xs) := rfl

theorem hasGroups_append (p q : Pattern) : (p ++ q).hasGroups = (p.hasGroups || q.hasGroups) := rfl

theorem inOrder_cons_avoids (p : Pattern) (ps : List Pattern) :
    (inOrder (p :: ps)).avoids xs = (p.avoids xs && (inOrder ps).avoids xs) := by
  cases ps with
  | nil => exact (Bool.and_true _).symm
  | cons => rfl

theorem avoids_inOrder (ps : List Pattern) :
    (inOrder ps).avoids xs = ps.all fun p => p.avoids xs := by
  induction ps with
  | nil => rfl
  | cons p ps ih => rw [inOrder_cons_avoids, ih, List.all_cons]

theorem inOrder_cons_hasGroups (p : Pattern) (ps : List Pattern) :
    (inOrder (p :: ps)).hasGroups = (p.hasGroups || (inOrder ps).hasGroups) := by
  cases ps with
  | nil => exact (Bool.or_false _).symm
  | cons => rfl

theorem hasGroups_inOrder (ps : List Pattern) :
    (inOrder ps).hasGroups = ps.any fun p => p.hasGroups := by
  induction ps with
  | nil => rfl
  | cons p ps ih => rw [inOrder_cons_hasGroups, ih, List.any_cons]

theorem avoids_ofText (h : ∀ c ∈ t, c ∉ xs) : (ofText t).avoids xs = true := by
  simp only [ofText, avoids_inOrder, List.all_map, List.all_eq_true]
  intro c hc
  simp only [Function.comp_apply, single, avoids, List.all_eq_true, Bool.not_eq_true', beq_eq_false_iff_ne]
  rintro x hx rfl
  exact h x hc hx

theorem hasGroups_ofText (t : Text) : (ofText t).hasGroups = false := by
  simp only [ofText, hasGroups_inOrder, List.any_map, List.any_eq_false]
  exact fun _ _ => Bool.false_ne_true

-- -----------------------------------------------------------------------------------------
-- Shapes
-- -----------------------------------------------------------------------------------------

/-- A group, or what lies between groups. -/
inductive Item
  | out (p : Pattern)
  | group (index : Nat) (p : Pattern)

abbrev Shape := List Item

namespace Shape

/-- What lies between groups is one stretch. -/
def join : Shape → Shape → Shape
  | [], s => s
  | [.out p], .out q :: s => .out (.seq p q) :: s
  | i :: s, s' => i :: join s s'

def indices : Shape → List Nat
  | [] => []
  | .out _ :: s => indices s
  | .group i _ :: s => i :: indices s

/-- Between `b` and `r`, the text has the shape, and the groups have the texts `gs`, in their
order. -/
def Fits : Shape → Option Char → Text → Text → Groups → Prop
  | [], _, w, _, gs => w = [] ∧ gs = []
  | .out p :: s, b, w, r, gs => ∃ x v, w = x ++ v ∧ p.Reads b x (v ++ r) [] ∧
      Fits s (lastOf b x) v r gs
  | .group i p :: s, b, w, r, gs => ∃ g v gs', w = g ++ v ∧ gs = (i, g) :: gs' ∧
      p.Reads b g (v ++ r) [] ∧ Fits s (lastOf b g) v r gs'

theorem Fits.join (h : Fits s b u (v ++ r) gs) (h' : Fits s' (lastOf b u) v r gs') :
    Fits (s.join s') b (u ++ v) r (gs ++ gs') := by
  fun_induction Shape.join s s' generalizing b u v gs gs' with
  | case1 s =>
    obtain ⟨rfl, rfl⟩ := h
    exact h'
  | case2 p q s =>
    obtain ⟨x, _, rfl, hp, rfl, rfl⟩ := h
    obtain ⟨y, v, rfl, hq, h'⟩ := h'
    rw [List.append_nil] at h' hq ⊢
    rw [List.nil_append, List.append_assoc] at hp
    exact ⟨x ++ y, v, (List.append_assoc _ _ _).symm, hp.seq hq, by rwa [lastOf_append]⟩
  | case3 i s s' _ ih =>
    cases i with
    | out p =>
      obtain ⟨x, u, rfl, hp, h⟩ := h
      rw [lastOf_append] at h'
      rw [← List.append_assoc] at hp
      exact ⟨x, u ++ v, List.append_assoc _ _ _, hp, ih h h'⟩
    | group i p =>
      obtain ⟨g, u, gs, rfl, rfl, hp, h⟩ := h
      rw [lastOf_append] at h'
      rw [← List.append_assoc] at hp
      exact ⟨g, u ++ v, gs ++ gs', List.append_assoc _ _ _, rfl, hp, ih h h'⟩

theorem Fits.indices_eq (h : Fits s b w r gs) : indices s = gs.map (·.1) := by
  induction s generalizing b w gs with
  | nil => rw [h.2]; rfl
  | cons i s ih =>
    cases i with
    | out p =>
      obtain ⟨_, _, -, -, h⟩ := h
      exact ih h
    | group i p =>
      obtain ⟨g, v, gs, -, rfl, -, h⟩ := h
      rw [indices, ih h, List.map_cons]

/-- What a group records is read by a pattern of the shape. -/
theorem Fits.group_reads (h : Fits s b w r gs) (hg : (i, g) ∈ gs) :
    ∃ q b r, .group i q ∈ s ∧ q.Reads b g r [] := by
  induction s generalizing b w gs with
  | nil => simp [h.2] at hg
  | cons item s ih =>
    cases item with
    | out p =>
      obtain ⟨_, _, -, -, h⟩ := h
      obtain ⟨q, b, r, hm, hq⟩ := ih h hg
      exact ⟨q, b, r, List.mem_cons_of_mem _ hm, hq⟩
    | group j p =>
      obtain ⟨_, _, gs, -, rfl, hp, h⟩ := h
      rcases List.mem_cons.mp hg with hg | hg
      · cases hg
        exact ⟨p, _, _, List.mem_cons_self, hp⟩
      · obtain ⟨q, b, r, hm, hq⟩ := ih h hg
        exact ⟨q, b, r, List.mem_cons_of_mem _ hm, hq⟩

/-- The shape without regard to letter case if so wanted. -/
def folded (fold : Bool) (s : Shape) : Shape := s.map fun
  | .out p => .out (p.folded fold)
  | .group i p => .group i (p.folded fold)

theorem folded_false (s : Shape) : s.folded false = s := by
  induction s with
  | nil => rfl
  | cons i s ih => cases i <;> exact congrArg (_ :: ·) ih

theorem indices_folded (fold : Bool) (s : Shape) : indices (s.folded fold) = indices s := by
  induction s with
  | nil => rfl
  | cons i s ih =>
    cases i with
    | out => exact ih
    | group i p => exact congrArg (i :: ·) ih

theorem folded_join (fold : Bool) (s s' : Shape) :
    (s.join s').folded fold = (s.folded fold).join (s'.folded fold) := by
  fun_induction Shape.join s s' with
  | case1 s => rfl
  | case2 p q s => simp [folded, join, folded_seq]
  | case3 i s s' hn ih =>
    cases s with
    | cons j s => cases i <;> simpa [folded, join] using ih
    | nil =>
      cases i with
      | group => rfl
      | out p =>
        cases s' with
        | nil => rfl
        | cons j s' =>
          cases j with
          | group => rfl
          | out q => exact (hn p q s' rfl rfl rfl).elim

end Shape

open Shape (Fits)

/-- The shape of a pattern without groups. -/
def outside (p : Pattern) : Option (List Shape) := if p.hasGroups then none else some [[.out p]]

/-- The possible shapes, if the pattern is simple enough to have them. -/
def shapes : Pattern → Option (List Shape)
  | .seq p q =>
    if p.hasGroups || q.hasGroups then do
      let ss ← p.shapes
      let ss' ← q.shapes
      return ss.flatMap fun s => ss'.map s.join
    else outside (.seq p q)
  | .alt p q =>
    if p.hasGroups || q.hasGroups then return (← p.shapes) ++ (← q.shapes)
    else outside (.alt p q)
  | .capture i p => if p.hasGroups then none else some [[.group i p]]
  | .times 0 (some 1) greedy p =>
    if p.hasGroups then return [] :: (← p.shapes) else outside (.times 0 (some 1) greedy p)
  | p => outside p

theorem shapes_of_hasGroups {p : Pattern} (h : p.hasGroups = false) :
    p.shapes = some [[.out p]] := by
  have hout : p.outside = some [[.out p]] := by simp [outside, h]
  cases p with
  | seq p q =>
    rw [hasGroups] at h
    rw [shapes, h]
    exact hout
  | alt p q =>
    rw [hasGroups] at h
    rw [shapes, h]
    exact hout
  | capture => cases h
  | times least most greedy p =>
    rw [hasGroups] at h
    rw [shapes.eq_def]
    split
    any_goals contradiction
    · rename_i heq
      cases heq
      rw [if_neg (by simp [h])]
      exact hout
    · exact hout
  | _ => exact hout

theorem shapes_append {p q : Pattern} (hp : p.shapes = some ss) (hq : q.shapes = some ss') :
    (p ++ q).shapes = some (ss.flatMap fun s => ss'.map s.join) := by
  change (seq p q).shapes = _
  rw [shapes]
  split
  · rw [hp, hq]
    rfl
  · rename_i hg
    simp only [Bool.or_eq_true, not_or, Bool.not_eq_true] at hg
    rw [shapes_of_hasGroups hg.1] at hp
    rw [shapes_of_hasGroups hg.2] at hq
    cases hp
    cases hq
    simp [outside, hasGroups, hg, Shape.join]

theorem outside_caseless (p : Pattern) :
    p.caseless.outside = p.outside.map (·.map (Shape.folded true)) := by
  unfold outside
  rw [hasGroups_caseless]
  split <;> rfl

theorem shapes_caseless (p : Pattern) :
    p.caseless.shapes = p.shapes.map (·.map (Shape.folded true)) := by
  induction p with
  | seq p q ihp ihq =>
    have hout := outside_caseless (.seq p q)
    rw [caseless] at hout ⊢
    rw [shapes, shapes, hasGroups_caseless, hasGroups_caseless, hout]
    split
    · rw [ihp, ihq]
      cases p.shapes <;> cases q.shapes <;>
        simp [List.flatMap_map, List.map_flatMap, Shape.folded_join, Function.comp_def]
    · rfl
  | alt p q ihp ihq =>
    have hout := outside_caseless (.alt p q)
    rw [caseless] at hout ⊢
    rw [shapes, shapes, hasGroups_caseless, hasGroups_caseless, hout]
    split
    · rw [ihp, ihq]
      cases p.shapes <;> cases q.shapes <;> simp
    · rfl
  | capture i p _ =>
    rw [caseless, shapes, shapes, hasGroups_caseless]
    split <;> rfl
  | times least most greedy p ih =>
    have hout := outside_caseless (.times least most greedy p)
    rw [caseless] at hout ⊢
    rcases least with _ | n
    · rcases most with _ | _ | _ | n
      · exact hout
      · exact hout
      · rw [shapes, shapes, hasGroups_caseless, hout]
        split
        · rw [ih]
          cases p.shapes <;> rfl
        · rfl
      · exact hout
    · exact hout
  | _ => exact outside_caseless _

theorem shapes_folded (fold : Bool) (p : Pattern) :
    (p.folded fold).shapes = p.shapes.map (·.map (Shape.folded fold)) := by
  cases fold with
  | true => exact shapes_caseless p
  | false =>
    have hid : Shape.folded false = id := funext Shape.folded_false
    simp [folded, hid]

theorem Reads.outside {p : Pattern} (h : p.Reads b w r gs) (hp : p.outside = some ss) :
    ∃ s ∈ ss, Fits s b w r gs.reverse := by
  unfold Pattern.outside at hp
  split at hp
  · cases hp
  · rename_i hg
    cases hp
    obtain rfl := h.groups_eq_nil (by simpa using hg)
    exact ⟨_, List.mem_singleton_self _, w, [], by simp, h, rfl, rfl⟩

/-- An optional pattern is skipped or read once. -/
theorem Reads.opt_cases (h : Reads (.times 0 (some 1) greedy p) b w r gs) :
    (w = [] ∧ gs = []) ∨ p.Reads b w r gs := by
  cases h with
  | stop => exact .inl ⟨rfl, rfl⟩
  | round _ h h' =>
    cases h' with
    | stop => exact .inr (by simpa using h)
    | round hn _ _ => simp at hn

theorem Reads.fits {p : Pattern} (h : p.Reads b w r gs) (hp : p.shapes = some ss) :
    ∃ s ∈ ss, Fits s b w r gs.reverse := by
  induction p generalizing b w r gs ss with
  | seq p q ihp ihq =>
    rw [shapes] at hp
    split at hp
    · simp only [Option.bind_eq_bind, Option.bind_eq_some_iff, Option.pure_def,
        Option.some.injEq] at hp
      obtain ⟨ss₁, hp₁, ss₂, hp₂, rfl⟩ := hp
      cases h with
      | seq h₁ h₂ =>
        obtain ⟨s₁, hs₁, hf₁⟩ := ihp h₁ hp₁
        obtain ⟨s₂, hs₂, hf₂⟩ := ihq h₂ hp₂
        rw [List.reverse_append]
        exact ⟨s₁.join s₂, List.mem_flatMap.mpr ⟨s₁, hs₁, List.mem_map_of_mem hs₂⟩, hf₁.join hf₂⟩
    · exact h.outside hp
  | alt p q ihp ihq =>
    rw [shapes] at hp
    split at hp
    · simp only [Option.bind_eq_bind, Option.bind_eq_some_iff, Option.pure_def,
        Option.some.injEq] at hp
      obtain ⟨ss₁, hp₁, ss₂, hp₂, rfl⟩ := hp
      cases h with
      | left h =>
        obtain ⟨s, hs, hf⟩ := ihp h hp₁
        exact ⟨s, List.mem_append_left _ hs, hf⟩
      | right h =>
        obtain ⟨s, hs, hf⟩ := ihq h hp₂
        exact ⟨s, List.mem_append_right _ hs, hf⟩
    · exact h.outside hp
  | capture i p _ =>
    rw [shapes] at hp
    split at hp
    · cases hp
    · rename_i hg
      cases hp
      cases h with
      | capture h =>
        obtain rfl := h.groups_eq_nil (by simpa using hg)
        exact ⟨_, List.mem_singleton_self _, w, [], [], by simp, rfl, h, rfl, rfl⟩
  | times least most greedy p ih =>
    rw [shapes.eq_def] at hp
    split at hp
    any_goals contradiction
    · rename_i heq
      cases heq
      split at hp
      · simp only [Option.bind_eq_bind, Option.bind_eq_some_iff, Option.pure_def,
          Option.some.injEq] at hp
        obtain ⟨ss₁, hp₁, rfl⟩ := hp
        rcases h.opt_cases with ⟨rfl, rfl⟩ | h
        · exact ⟨[], List.mem_cons_self, rfl, rfl⟩
        · obtain ⟨s, hs, hf⟩ := ih h hp₁
          exact ⟨s, List.mem_cons_of_mem _ hs, hf⟩
      · exact h.outside hp
    · exact h.outside hp
  | _ => exact h.outside hp

end Wikitext.Pattern
