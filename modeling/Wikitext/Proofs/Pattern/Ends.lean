import Wikitext.Proofs.Pattern.Language

/-!
# Where matches begin and end

Given characters `xs`, four checks on a pattern bound the characters at the
ends of what it spells. Each check is sound, none is complete: it looks at the
pattern once and tells neither anchors nor bounds of repetitions apart.
-/

namespace Wikitext.Pattern

variable {xs : List Char}

def isAnchor : Pattern → Bool
  | .anchor _ => true
  | _ => false

/-- Every text spelt begins with a character, and none of `xs`. -/
def beginsOff (xs : List Char) : Pattern → Bool
  | .empty | .anchor _ => false
  | .char accepts => xs.all fun x => !accepts x
  | .seq p q => p.beginsOff xs || (p.isAnchor && q.beginsOff xs)
  | .alt p q => p.beginsOff xs && q.beginsOff xs
  | .capture _ p => p.beginsOff xs
  | .times least _ _ p => least != 0 && p.beginsOff xs

/-- Every text spelt is empty or ends with none of `xs`. -/
def leavesOff (xs : List Char) : Pattern → Bool
  | .empty | .anchor _ => true
  | .char accepts => xs.all fun x => !accepts x
  | .seq p q | .alt p q => p.leavesOff xs && q.leavesOff xs
  | .capture _ p | .times _ _ _ p => p.leavesOff xs

/-- Every text spelt ends with a character, and none of `xs`. -/
def endsOff (xs : List Char) : Pattern → Bool
  | .empty | .anchor _ => false
  | .char accepts => xs.all fun x => !accepts x
  | .seq p q => q.endsOff xs || (p.endsOff xs && q.leavesOff xs)
  | .alt p q => p.endsOff xs && q.endsOff xs
  | .capture _ p => p.endsOff xs
  | .times least _ _ p => least != 0 && p.endsOff xs && p.leavesOff xs

/-- Where the pattern settles, one of the two characters at the end of the match is none of
`xs`: the last one inside or the first one outside. -/
def settlesOff (xs : List Char) : Pattern → Bool
  | .seq p q => q.settlesOff xs || (Pattern.seq p q).endsOff xs
  | .alt p q => p.settlesOff xs && q.settlesOff xs
  | .capture _ p => p.settlesOff xs
  | .times least none true (.char accepts) =>
    xs.all accepts || (Pattern.times least none true (.char accepts)).endsOff xs
  | p => p.endsOff xs

-- Lean derives their equations here, once, and not when the first proofs ask for them side by side.
attribute [local simp] isAnchor beginsOff leavesOff endsOff settlesOff

theorem beginsOff_append (p q : Pattern) :
    (p ++ q).beginsOff xs = (p.beginsOff xs || (p.isAnchor && q.beginsOff xs)) := rfl

theorem settlesOff_append (p q : Pattern) :
    (p ++ q).settlesOff xs = (q.settlesOff xs || (p ++ q).endsOff xs) := rfl

theorem not_mem_of_accepts {accepts : Char → Bool} (h : xs.all (fun x => !accepts x) = true) (hx : accepts x = true) :
    x ∉ xs := by
  intro hm
  have := List.all_eq_true.mp h x hm
  simp [hx] at this

theorem off_append {u v : Text} (hu : ∀ x ∈ u.getLast?, x ∉ xs)
    (hv : ∀ x ∈ v.getLast?, x ∉ xs) : ∀ x ∈ (u ++ v).getLast?, x ∉ xs := by
  intro x hx
  rw [List.getLast?_append, Option.mem_def, Option.or_eq_some_iff] at hx
  rcases hx with hx | ⟨-, hx⟩
  · exact hv x hx
  · exact hu x hx

theorem Spells.beginsOff {p : Pattern} (hs : p.Spells b w r) (h : p.beginsOff xs = true) :
    ∃ x w', w = x :: w' ∧ x ∉ xs := by
  induction hs with
  | empty | anchor | stop => simp [Pattern.beginsOff] at h
  | char hx => exact ⟨_, _, rfl, not_mem_of_accepts h hx⟩
  | @seq p b u v r q hp _ ihp ihq =>
    simp only [Pattern.beginsOff, Bool.or_eq_true, Bool.and_eq_true] at h
    rcases h with h | ⟨ha, h⟩
    · obtain ⟨x, u', rfl, hx⟩ := ihp h
      exact ⟨x, u' ++ v, rfl, hx⟩
    · cases p <;> simp [isAnchor] at ha
      cases hp
      exact ihq h
  | left _ ih =>
    simp only [Pattern.beginsOff, Bool.and_eq_true] at h
    exact ih h.1
  | right _ ih =>
    simp only [Pattern.beginsOff, Bool.and_eq_true] at h
    exact ih h.2
  | capture _ ih => exact ih h
  | round _ _ _ ih _ =>
    simp only [Pattern.beginsOff, Bool.and_eq_true] at h
    obtain ⟨x, u', rfl, hx⟩ := ih h.2
    exact ⟨x, u' ++ _, rfl, hx⟩

theorem Spells.leavesOff {p : Pattern} (hs : p.Spells b w r) (h : p.leavesOff xs = true) :
    ∀ x ∈ w.getLast?, x ∉ xs := by
  induction hs with
  | empty | anchor | stop => simp
  | char hx =>
    intro y hy
    obtain rfl : _ = y := by simpa using hy
    exact not_mem_of_accepts h hx
  | seq _ _ ihp ihq =>
    simp only [Pattern.leavesOff, Bool.and_eq_true] at h
    exact off_append (ihp h.1) (ihq h.2)
  | left _ ih =>
    simp only [Pattern.leavesOff, Bool.and_eq_true] at h
    exact ih h.1
  | right _ ih =>
    simp only [Pattern.leavesOff, Bool.and_eq_true] at h
    exact ih h.2
  | capture _ ih => exact ih h
  | round _ _ _ ih ih' => exact off_append (ih h) (ih' h)

theorem ends_append {u v : Text} (hu : ∃ x ∈ u.getLast?, x ∉ xs)
    (hv : ∀ x ∈ v.getLast?, x ∉ xs) : ∃ x ∈ (u ++ v).getLast?, x ∉ xs := by
  cases hl : v.getLast? with
  | none =>
    obtain rfl := List.getLast?_eq_none_iff.mp hl
    simpa using hu
  | some x => exact ⟨x, by simp [List.getLast?_append, hl], hv x hl⟩

theorem Spells.endsOff {p : Pattern} (hs : p.Spells b w r) (h : p.endsOff xs = true) :
    ∃ x ∈ w.getLast?, x ∉ xs := by
  induction hs with
  | empty | anchor | stop => simp [Pattern.endsOff] at h
  | char hx => exact ⟨_, by simp, not_mem_of_accepts h hx⟩
  | seq _ hq ihp ihq =>
    simp only [Pattern.endsOff, Bool.or_eq_true, Bool.and_eq_true] at h
    rcases h with h | h
    · obtain ⟨x, hx, hn⟩ := ihq h
      exact ⟨x, by simp_all [List.getLast?_append], hn⟩
    · exact ends_append (ihp h.1) (hq.leavesOff h.2)
  | left _ ih =>
    simp only [Pattern.endsOff, Bool.and_eq_true] at h
    exact ih h.1
  | right _ ih =>
    simp only [Pattern.endsOff, Bool.and_eq_true] at h
    exact ih h.2
  | capture _ ih => exact ih h
  | round _ _ hv ih _ =>
    simp only [Pattern.endsOff, Bool.and_eq_true] at h
    exact ends_append (ih h.1.2) (hv.leavesOff h.2)

theorem settlesOff_times {least : Nat} {most : Option Nat} {greedy : Bool} {p : Pattern}
    (h : settlesOff xs (.times least most greedy p) = true) :
    (∃ accepts, most = none ∧ greedy = true ∧ p = .char accepts ∧ xs.all accepts = true) ∨
      endsOff xs (.times least most greedy p) = true := by
  cases most with
  | some => exact .inr h
  | none =>
    cases greedy with
    | false => exact .inr h
    | true =>
      cases p with
      | char accepts =>
        rcases Bool.or_eq_true _ _ |>.mp h with h | h
        · exact .inl ⟨accepts, rfl, rfl, rfl, h⟩
        · exact .inr h
      | _ => exact .inr h

theorem settlesOff_of_endsOff {p : Pattern} (h : p.endsOff xs = true) :
    p.settlesOff xs = true := by
  induction p with
  | seq p q _ _ => exact Bool.or_eq_true _ _ |>.mpr (.inr h)
  | alt p q ihp ihq =>
    simp only [endsOff, settlesOff, Bool.and_eq_true] at h ⊢
    exact ⟨ihp h.1, ihq h.2⟩
  | capture i p ih => exact ih h
  | times least most greedy p _ =>
    rw [Pattern.settlesOff.eq_def]
    split
    any_goals contradiction
    · rename_i heq
      cases heq
      exact Bool.or_eq_true _ _ |>.mpr (.inr h)
    · exact h
  | _ => exact h

theorem Settles.settlesOff {p : Pattern} (hs : p.Settles b w r) (h : p.settlesOff xs = true) :
    (∃ x ∈ w.getLast?, x ∉ xs) ∨ ∀ x ∈ r.head?, x ∉ xs := by
  induction p generalizing b w with
  | seq p q _ ihq =>
    simp only [Pattern.settlesOff, Bool.or_eq_true] at h
    rcases h with h | h
    · obtain ⟨u, v, rfl, -, hv⟩ := hs
      rcases ihq hv h with ⟨x, hx, hn⟩ | hr
      · exact .inl ⟨x, by simp_all [List.getLast?_append], hn⟩
      · exact .inr hr
    · exact .inl (hs.spells.endsOff h)
  | alt p q ihp ihq =>
    simp only [Pattern.settlesOff, Bool.and_eq_true] at h
    rcases hs with hs | hs
    · exact ihp hs h.1
    · exact ihq hs h.2
  | capture i p ih => exact ih hs h
  | times least most greedy p _ =>
    rcases settlesOff_times h with ⟨accepts, rfl, rfl, rfl, ha⟩ | h
    · refine .inr fun x hx hm => ?_
      have hno := hs.2 x hx
      rw [List.all_eq_true.mp ha x hm] at hno
      cases hno
    · exact .inl (hs.spells.endsOff h)
  | _ => exact .inl (hs.spells.endsOff h)

-- -----------------------------------------------------------------------------------------
-- Patterns without regard to letter case
-- -----------------------------------------------------------------------------------------

/-- `ys` has the characters `xs` and all that differ from them in case only. -/
def CaseClosure (xs ys : List Char) : Prop := ∀ x ∈ xs, x ∈ ys ∧ ∀ y ∈ Chars.variants x, y ∈ ys

instance (xs ys : List Char) : Decidable (CaseClosure xs ys) :=
  decidable_of_iff
    (xs.all (fun x => ys.contains x && (Chars.variants x).all ys.contains) = true) (by
      simp only [CaseClosure, List.all_eq_true, Bool.and_eq_true, List.contains_iff_mem])

section
variable {ys : List Char} (hc : CaseClosure xs ys)
include hc

theorem CaseClosure.rejects {accepts : Char → Bool} (h : ys.all (fun y => !accepts y) = true) :
    xs.all (fun x => !anyCase accepts x) = true := by
  rw [List.all_eq_true] at h ⊢
  intro x hx
  have hany : (Chars.variants x).any accepts = false :=
    List.any_eq_false.mpr fun y hy => by simpa using h y ((hc x hx).2 y hy)
  simpa [anyCase, hany] using h x (hc x hx).1

theorem CaseClosure.accepts {accepts : Char → Bool} (h : ys.all accepts = true) :
    xs.all (anyCase accepts) = true := by
  rw [List.all_eq_true] at h ⊢
  intro x hx
  simp [anyCase, h x (hc x hx).1]

theorem beginsOff_caseless {p : Pattern} (h : p.beginsOff ys = true) :
    p.caseless.beginsOff xs = true := by
  induction p with
  | empty | anchor => simp [beginsOff] at h
  | char => exact hc.rejects h
  | seq p q ihp ihq =>
    simp only [caseless, beginsOff, Bool.or_eq_true, Bool.and_eq_true] at h ⊢
    rcases h with h | ⟨ha, h⟩
    · exact .inl (ihp h)
    · cases p <;> simp [isAnchor] at ha
      exact .inr ⟨rfl, ihq h⟩
  | alt p q ihp ihq =>
    simp only [caseless, beginsOff, Bool.and_eq_true] at h ⊢
    exact ⟨ihp h.1, ihq h.2⟩
  | capture i p ih => exact ih h
  | times least most greedy p ih =>
    simp only [caseless, beginsOff, Bool.and_eq_true] at h ⊢
    exact ⟨h.1, ih h.2⟩

theorem leavesOff_caseless {p : Pattern} (h : p.leavesOff ys = true) :
    p.caseless.leavesOff xs = true := by
  induction p with
  | empty | anchor => rfl
  | char => exact hc.rejects h
  | seq p q ihp ihq | alt p q ihp ihq =>
    simp only [caseless, leavesOff, Bool.and_eq_true] at h ⊢
    exact ⟨ihp h.1, ihq h.2⟩
  | capture i p ih | times least most greedy p ih => exact ih h

theorem endsOff_caseless {p : Pattern} (h : p.endsOff ys = true) :
    p.caseless.endsOff xs = true := by
  induction p with
  | empty | anchor => simp [endsOff] at h
  | char => exact hc.rejects h
  | seq p q ihp ihq =>
    simp only [caseless, endsOff, Bool.or_eq_true, Bool.and_eq_true] at h ⊢
    rcases h with h | ⟨hp, hq⟩
    · exact .inl (ihq h)
    · exact .inr ⟨ihp hp, leavesOff_caseless hc hq⟩
  | alt p q ihp ihq =>
    simp only [caseless, endsOff, Bool.and_eq_true] at h ⊢
    exact ⟨ihp h.1, ihq h.2⟩
  | capture i p ih => exact ih h
  | times least most greedy p ih =>
    simp only [caseless, endsOff, Bool.and_eq_true] at h ⊢
    exact ⟨⟨h.1.1, ih h.1.2⟩, leavesOff_caseless hc h.2⟩

theorem settlesOff_caseless {p : Pattern} (h : p.settlesOff ys = true) :
    p.caseless.settlesOff xs = true := by
  induction p with
  | empty | anchor => simp [settlesOff, endsOff] at h
  | char => exact hc.rejects h
  | seq p q _ ihq =>
    simp only [caseless, settlesOff, Bool.or_eq_true] at h ⊢
    rcases h with h | h
    · exact .inl (ihq h)
    · exact .inr (endsOff_caseless hc h)
  | alt p q ihp ihq =>
    simp only [caseless, settlesOff, Bool.and_eq_true] at h ⊢
    exact ⟨ihp h.1, ihq h.2⟩
  | capture i p ih => exact ih h
  | times least most greedy p _ =>
    rcases settlesOff_times h with ⟨accepts, rfl, rfl, rfl, ha⟩ | h
    · exact Bool.or_eq_true _ _ |>.mpr (.inl (hc.accepts ha))
    · exact settlesOff_of_endsOff (endsOff_caseless hc h)

end

end Wikitext.Pattern
