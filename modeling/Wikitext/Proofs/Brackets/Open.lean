import Wikitext.Proofs.Brackets.Pairs

/-!
# Which bracket is reported

The scan for unbalanced brackets reads tokens at the front of a text, with the open brackets on a
stack, and halts at the end of the text or in front of a closing bracket that does not belong to the
innermost open one (`Halts`). It halts somewhere in every text (`exists_halts`).

Where brackets are open, it reports the innermost of them (`Halts.reported_eq`), which is the last one
(`Halts.last_reported`): the first one is reported only where it is the only one
(`Halts.first_reported_iff`).
-/

namespace Wikitext.Bracket

-- -----------------------------------------------------------------------------------------
-- Reading the front of a text
-- -----------------------------------------------------------------------------------------

/-- A scan from left to right reads the tokens of `t` and comes to `r`. -/
inductive Front : List Token → Text → Text → Prop
  | nil : Front [] r r
  | cons {token : Token} : token.Read t → Front ts t r → Front (token :: ts) (token.text ++ t) r

/-- The brackets that are open behind the tokens, the innermost first, with their places, if every
closing bracket closes the innermost open one. The tokens begin at place `i`. -/
def stack (i : Nat) : Opened → List Token → Option Opened
  | os, [] => some os
  | os, .plain c :: ts => stack (i + c.utf8Size) os ts
  | os, .opens b :: ts => stack (i + b.length) ((b, i) :: os) ts
  | [], .closes _ :: _ => none
  | (b, _) :: os, .closes b' :: ts => if b = b' then stack (i + b.length) os ts else none

/-- At `r` there is nothing to read, or a closing bracket that does not close the innermost of the
open ones. -/
def Stuck (os : Opened) (r : Text) : Prop :=
  r = [] ∨ ((∃ b, closing b <+: r) ∧ ∀ o ∈ os.head?, ¬ o.1.closing <+: r)

/-- The scan of `t` reads the tokens and halts in front of `r`, with the brackets `os` open. -/
structure Halts (t : Text) (ts : List Token) (os : Opened) (r : Text) : Prop where
  front : Front ts t r
  stack : stack 0 [] ts = some os
  stuck : Stuck os r

theorem spelt_cons (token : Token) (ts : List Token) :
    spelt (token :: ts) = token.text ++ spelt ts := rfl

theorem byteSize_spelt_cons (token : Token) (ts : List Token) :
    Text.byteSize (spelt (token :: ts)) = Text.byteSize token.text + Text.byteSize (spelt ts) := by
  rw [spelt_cons, byteSize_append]

-- -----------------------------------------------------------------------------------------
-- The scan follows the stack
-- -----------------------------------------------------------------------------------------

theorem scan_plain (h : (Token.plain c).Read r) (i : Nat) (os : Opened) :
    scan (c :: r) i os = scan r (i + c.utf8Size) os := by
  obtain ⟨hopen, hclose, hcurly⟩ := h
  rw [scan]
  all_goals grind

theorem scan_opens (h : (Token.opens b).Read r) (i : Nat) (os : Opened) :
    scan (b.opening ++ r) i os = scan r (i + b.length) ((b, i) :: os) := by
  cases b with
  | doubleSquare | doubleCurly => rfl
  | square =>
    have hnext := h rfl
    cases r with
    | nil => rfl
    | cons c r =>
      have hc : c ≠ '[' := by simpa using hnext
      simp [opening, scan, hc, length]

theorem scan_closes (r : Text) (i start : Nat) (os : Opened) :
    scan (closing b ++ r) i ((b, start) :: os) = scan r (i + b.length) os := by
  cases b with
  | doubleSquare | doubleCurly => rfl
  | square => cases r <;> simp [closing, scan, length]

theorem length_eq_byteSize_closing (b : Bracket) : b.length = Text.byteSize b.closing := by
  cases b <;> rfl

/-- By induction on the tokens: each of them changes the stack as it changes that of the scan. -/
theorem Front.scan_eq (h : Front ts t r) (hs : stack i os ts = some os') :
    scan t i os = scan r (i + Text.byteSize (spelt ts)) os' := by
  induction h generalizing i os with
  | nil =>
    obtain rfl := Option.some.inj hs
    rfl
  | @cons t ts r token hread _ ih =>
    rw [byteSize_spelt_cons, ← Nat.add_assoc]
    cases token with
    | plain c =>
      have hstep := scan_plain hread i os
      rw [Token.text, byteSize_singleton]
      exact hstep.trans (ih hs)
    | opens b =>
      have hstep := scan_opens hread i os
      rw [Token.text, ← length_eq_byteSize]
      exact hstep.trans (ih hs)
    | closes b =>
      cases os with
      | nil => cases hs
      | cons o os =>
        obtain ⟨b', start⟩ := o
        rw [stack] at hs
        split at hs
        · rename_i heq
          subst heq
          have hstep := scan_closes (b := b') t i start os
          rw [Token.text, ← length_eq_byteSize_closing]
          exact hstep.trans (ih hs)
        · cases hs

/-- What is reported where the scan halts at place `i` in front of `r`: the innermost open bracket,
and if none is open the closing bracket there. -/
def verdict (os : Opened) (i : Nat) (r : Text) : Option UnbalancedBracket :=
  match os, r with
  | (b, start) :: _, _ => some ⟨start, b.length⟩
  | [], [] => none
  | [], ']' :: _ => some ⟨i, 1⟩
  | [], _ => some ⟨i, 2⟩

theorem Stuck.scan_eq (h : Stuck os r) (i : Nat) : scan r i os = verdict os i r := by
  have hsquare : ∀ s : Text, (∀ o ∈ os.head?, ¬ o.1.closing <+: ']' :: s) →
      scan (']' :: s) i os = verdict os i (']' :: s) := by
    intro s hmisfit
    rcases os with _ | ⟨⟨_ | _ | _, start⟩, os⟩
    · cases s <;> simp [scan, report, verdict]
    · have hs : ∀ s', s ≠ ']' :: s' := by
        rintro s' rfl
        exact hmisfit _ rfl ⟨s', rfl⟩
      cases s <;> simp_all [scan, report, verdict]
    · cases s <;> simp [scan, report, verdict]
    · exact absurd ⟨s, rfl⟩ (hmisfit _ rfl)
  rcases h with rfl | ⟨⟨b, s, rfl⟩, hmisfit⟩
  · cases os <;> rfl
  · cases b with
    | doubleSquare => exact hsquare _ hmisfit
    | square => exact hsquare _ hmisfit
    | doubleCurly =>
      rcases os with _ | ⟨⟨_ | _ | _, start⟩, os⟩
      · rfl
      · rfl
      · exact absurd ⟨s, rfl⟩ (hmisfit _ rfl)
      · rfl

-- -----------------------------------------------------------------------------------------
-- The scan halts
-- -----------------------------------------------------------------------------------------

/-- From place `i` on, with the brackets `os` open, the scan of `t` halts somewhere. -/
def HaltsFrom (i : Nat) (os : Opened) (t : Text) : Prop :=
  ∃ ts os' r, Front ts t r ∧ stack i os ts = some os' ∧ Stuck os' r

namespace HaltsFrom

theorem stuck (h : Stuck os t) : HaltsFrom i os t := ⟨[], os, t, .nil, rfl, h⟩

theorem plain (hread : (Token.plain c).Read t) (h : HaltsFrom (i + c.utf8Size) os t) :
    HaltsFrom i os (c :: t) := by
  obtain ⟨ts, os', r, hfront, hstack, hstuck⟩ := h
  exact ⟨.plain c :: ts, os', r, .cons hread hfront, hstack, hstuck⟩

theorem opens (hread : (Token.opens b).Read t) (h : HaltsFrom (i + b.length) ((b, i) :: os) t) :
    HaltsFrom i os (b.opening ++ t) := by
  obtain ⟨ts, os', r, hfront, hstack, hstuck⟩ := h
  exact ⟨.opens b :: ts, os', r, .cons hread hfront, hstack, hstuck⟩

theorem closes (h : HaltsFrom (i + b.length) os t) :
    HaltsFrom i ((b, start) :: os) (b.closing ++ t) := by
  obtain ⟨ts, os', r, hfront, hstack, hstuck⟩ := h
  refine ⟨.closes b :: ts, os', r, .cons trivial hfront, ?_, hstuck⟩
  rwa [stack, if_pos rfl]

end HaltsFrom

/-- By induction along the scan, which reads one token after the other. -/
theorem haltsFrom (t : Text) (i : Nat) (os : Opened) : HaltsFrom i os t := by
  fun_induction scan t i os with
  | case1 => exact .stuck (.inl rfl)
  | case2 => exact .stuck (.inl rfl)
  | case3 rest i os ih => exact .opens (b := .doubleSquare) (absurd · (by decide)) ih
  | case4 rest i os ih => exact .opens (b := .doubleCurly) (absurd · (by decide)) ih
  | case5 rest i start os ih => exact .closes (b := .doubleSquare) ih
  | case6 rest i start os ih => exact .closes (b := .doubleCurly) ih
  | case7 rest i os hcurly =>
    refine .stuck (.inr ⟨⟨.doubleCurly, rest, rfl⟩, ?_⟩)
    rcases os with _ | ⟨⟨_ | _ | _, start⟩, os⟩
    · simp
    · simp [closing]
    · exact (hcurly start os rfl).elim
    · simp [closing]
  | case8 rest i os hdouble ih =>
    refine .opens (b := .square) (fun _ hnext => ?_) ih
    obtain ⟨rest, rfl⟩ := List.head?_eq_some_iff.mp hnext
    exact hdouble rest rfl
  | case9 rest i start os _ ih => exact .closes (b := .square) ih
  | case10 rest i os hsquare hdouble =>
    refine .stuck (.inr ⟨⟨.square, rest, rfl⟩, ?_⟩)
    rcases os with _ | ⟨⟨_ | _ | _, start⟩, os⟩
    · simp
    · rintro _ ⟨⟩ ⟨r, hr⟩
      exact hdouble r start os rfl (List.cons.inj hr).2.symm
    · simp [closing]
    · exact (hsquare start os rfl).elim
  | case11 c rest i os _ hopens _ hcloses hopening hclosing ih =>
    refine .plain ⟨hopening, hclosing, fun hcurly hnext => ?_⟩ ih
    obtain ⟨rest, rfl⟩ := List.head?_eq_some_iff.mp hnext
    rcases hcurly with rfl | rfl
    · exact hopens rest rfl rfl
    · exact hcloses rest rfl rfl

-- -----------------------------------------------------------------------------------------
-- Places of the open brackets
-- -----------------------------------------------------------------------------------------

/-- The inner brackets stand behind the outer ones, and all of them in front of place `i`. -/
def Ordered (i : Nat) (os : Opened) : Prop :=
  (∀ o ∈ os, o.2 < i) ∧ os.Pairwise fun inner outer => outer.2 < inner.2

theorem Ordered.later (h : Ordered i os) (hle : i ≤ j) : Ordered j os :=
  ⟨fun o ho => Nat.lt_of_lt_of_le (h.1 o ho) hle, h.2⟩

theorem length_pos (b : Bracket) : 0 < b.length := by
  cases b <;> decide

/-- By induction on the tokens: a bracket is opened behind all those that are open. -/
theorem ordered_stack (h : Ordered i os) (hs : stack i os ts = some os') :
    Ordered (i + Text.byteSize (spelt ts)) os' := by
  induction ts generalizing i os with
  | nil =>
    obtain rfl := Option.some.inj hs
    exact h
  | cons token ts ih =>
    rw [byteSize_spelt_cons, ← Nat.add_assoc]
    cases token with
    | plain c =>
      rw [Token.text, byteSize_singleton]
      exact ih (h.later (Nat.le_add_right _ _)) hs
    | opens b =>
      rw [Token.text, ← length_eq_byteSize]
      have hlt : i < i + b.length := Nat.lt_add_of_pos_right b.length_pos
      refine ih ⟨List.forall_mem_cons.mpr ⟨hlt, (h.later (Nat.le_of_lt hlt)).1⟩, ?_⟩ hs
      exact List.pairwise_cons.mpr ⟨h.1, h.2⟩
    | closes b =>
      cases os with
      | nil => cases hs
      | cons o os =>
        rw [stack] at hs
        split at hs
        · rename_i heq
          rw [Token.text, ← length_eq_byteSize_closing, ← heq]
          have htail : Ordered i os := ⟨(List.forall_mem_cons.mp h.1).2, h.2.of_cons⟩
          exact ih (htail.later (Nat.le_add_right _ _)) hs
        · cases hs

namespace Halts

theorem ordered (h : Halts t ts os r) : Ordered (Text.byteSize (spelt ts)) os := by
  have hstart : Ordered 0 [] := ⟨by simp, .nil⟩
  simpa using ordered_stack hstart h.stack

-- -----------------------------------------------------------------------------------------
-- What is reported
-- -----------------------------------------------------------------------------------------

theorem reported_eq (h : Halts t ts os r) :
    unbalancedBracket? t = verdict os (Text.byteSize (spelt ts)) r := by
  rw [unbalancedBracket?, h.front.scan_eq h.stack, h.stuck.scan_eq, Nat.zero_add]

/-- The bracket reported is the last one of those that are open. -/
theorem last_reported (h : Halts t ts os r) (hos : os ≠ []) :
    ∃ b ∈ unbalancedBracket? t, ∀ o ∈ os, o.2 ≤ b.position := by
  obtain ⟨⟨b, start⟩, os, rfl⟩ := List.exists_cons_of_ne_nil hos
  refine ⟨⟨start, b.length⟩, by rw [h.reported_eq]; rfl, List.forall_mem_cons.mpr ⟨le_rfl, ?_⟩⟩
  exact fun o ho => Nat.le_of_lt (List.rel_of_pairwise_cons h.ordered.2 ho)

/-- The first bracket without a partner is reported only where it is the only one that is open. -/
theorem first_reported_iff (h : Halts t ts os r) (hos : os ≠ []) :
    (∃ b ∈ unbalancedBracket? t, ∀ o ∈ os, b.position ≤ o.2) ↔ os.length = 1 := by
  obtain ⟨⟨b, start⟩, os, rfl⟩ := List.exists_cons_of_ne_nil hos
  have hreport : unbalancedBracket? t = some ⟨start, b.length⟩ := by rw [h.reported_eq]; rfl
  cases os with
  | nil => simp [hreport]
  | cons outer os =>
    have houter : outer.2 < start := List.rel_of_pairwise_cons h.ordered.2 List.mem_cons_self
    refine iff_of_false ?_ (by simp)
    rintro ⟨reported, hreported, hall⟩
    obtain rfl := Option.some.inj (hreport.symm.trans hreported)
    exact absurd (hall outer (by simp)) (Nat.not_le.mpr houter)

end Halts

theorem exists_halts (t : Text) : ∃ ts os r, Halts t ts os r := by
  obtain ⟨ts, os, r, hfront, hstack, hstuck⟩ := haltsFrom t 0 []
  exact ⟨ts, os, r, ⟨hfront, hstack, hstuck⟩⟩

/-- Two links without an end: the second one is reported. -/
theorem unbalancedBracket?_twoOpen :
    Halts "[[a [[b".toList
        [.opens .doubleSquare, .plain 'a', .plain ' ', .opens .doubleSquare, .plain 'b']
        [(.doubleSquare, 4), (.doubleSquare, 0)] [] ∧
      unbalancedBracket? "[[a [[b".toList = some ⟨4, 2⟩ := by
  have hhalts : Halts "[[a [[b".toList
      [.opens .doubleSquare, .plain 'a', .plain ' ', .opens .doubleSquare, .plain 'b']
      [(.doubleSquare, 4), (.doubleSquare, 0)] [] :=
    { front := .cons (by decide) (.cons (by decide) (.cons (by decide) (.cons (by decide)
        (.cons (by decide) .nil))))
      stack := rfl
      stuck := .inl rfl }
  exact ⟨hhalts, hhalts.reported_eq⟩

end Wikitext.Bracket
