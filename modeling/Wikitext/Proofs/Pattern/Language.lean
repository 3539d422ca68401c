import Wikitext.Pattern.Program

/-!
# What a pattern spells

`Pattern.Reads p b w r gs`: between the character `b` and the text `r`, the
pattern `p` can consume exactly `w` and record the texts `gs` for its groups.
`Pattern.Spells` is the same without the groups. Both follow the pattern and
know nothing of preference, marks or memory.

`Pattern.Settles` narrows this to what is consumed when nothing has to match
after the pattern, where greed decides how far a run at its end goes.
-/

namespace Wikitext

-- -----------------------------------------------------------------------------------------
-- Places reached by consuming
-- -----------------------------------------------------------------------------------------

/-- The last character of `w`, or `b` if `w` is empty. -/
def lastOf (b : Option Char) : Text → Option Char
  | [] => b
  | x :: w => lastOf (some x) w

@[simp] theorem lastOf_nil : lastOf b [] = b := rfl

@[simp] theorem lastOf_cons : lastOf b (x :: w) = lastOf (some x) w := rfl

@[simp] theorem lastOf_append : lastOf b (u ++ v) = lastOf (lastOf b u) v := by
  induction u generalizing b with
  | nil => rfl
  | cons x u ih => simp [ih]

/-- The length of the rest is recorded correctly. -/
def Cursor.Placed (c : Cursor) : Prop := c.left = c.rest.length

/-- Consuming `w` leads from the first place to the second. -/
structure Cursor.Past (c : Cursor) (w : Text) (c' : Cursor) : Prop where
  rest : c.rest = w ++ c'.rest
  before : c'.before = lastOf c.before w
  placed : c'.Placed

theorem Cursor.placed_ofText (t : Text) : (Cursor.ofText t).Placed := rfl

theorem Cursor.placed_past {c : Cursor} (hc : c.Placed) (h : c.rest = x :: xs) :
    (c.past x xs).Placed := by
  simp only [Cursor.Placed, h, List.length_cons] at hc
  simp [Cursor.Placed, Cursor.past, hc]

namespace Cursor.Past

theorem refl {c : Cursor} (hc : c.Placed) : c.Past [] c := ⟨rfl, rfl, hc⟩

theorem one {c : Cursor} (hc : c.Placed) (h : c.rest = x :: xs) : c.Past [x] (c.past x xs) :=
  ⟨h, rfl, placed_past hc h⟩

theorem trans {a b c : Cursor} (h : a.Past u b) (h' : b.Past v c) : a.Past (u ++ v) c where
  rest := by rw [h.rest, h'.rest, List.append_assoc]
  before := by rw [h'.before, h.before, lastOf_append]
  placed := h'.placed

theorem of_idle {c c' : Cursor} {n : Nat} (h : { c with idle := n }.Past w c') : c.Past w c' :=
  ⟨h.rest, h.before, h.placed⟩

theorem left_eq {c c' : Cursor} (hc : c.Placed) (h : c.Past w c') :
    c.left = w.length + c'.left := by
  rw [hc, h.placed, h.rest, List.length_append]

/-- The text between two places is what was consumed. -/
theorem take_eq {c c' : Cursor} (hc : c.Placed) (h : c.Past w c') :
    c.rest.take (c.left - c'.left) = w := by
  have hw : c.left - c'.left = w.length := by
    have := h.left_eq hc
    omega
  rw [hw, h.rest, List.take_left]

end Cursor.Past

-- -----------------------------------------------------------------------------------------
-- The relation
-- -----------------------------------------------------------------------------------------

/-- The texts consumed between a character before and a text after them. -/
abbrev Language := Option Char → Text → Text → Prop

/-- A repetition takes one more round while it has fewer than it needs or may have more. -/
inductive Pattern.Spells : Pattern → Language
  | empty : Spells .empty b [] r
  | char : accepts x = true → Spells (.char accepts) b [x] r
  | anchor {c : Cursor} : a.holds c = true → c.before = b → c.rest = r →
      Spells (.anchor a) b [] r
  | seq : Spells p b u (v ++ r) → Spells q (lastOf b u) v r → Spells (.seq p q) b (u ++ v) r
  | left : Spells p b w r → Spells (.alt p q) b w r
  | right : Spells q b w r → Spells (.alt p q) b w r
  | capture : Spells p b w r → Spells (.capture i p) b w r
  | stop : Spells (.times 0 most greedy p) b [] r
  | round : 0 < least ∨ most ≠ some 0 → Spells p b u (v ++ r) →
      Spells (.times (least - 1) (most.map (· - 1)) greedy p) (lastOf b u) v r →
      Spells (.times least most greedy p) b (u ++ v) r

/-- The texts recorded for groups, the last one first. -/
abbrev Groups := List (Nat × Text)

def Captures.texts (cs : Captures) : Groups := cs.map fun c => (c.index, c.text)

/-- What is consumed, with what is recorded on the way. -/
inductive Pattern.Reads : Pattern → Option Char → Text → Text → Groups → Prop
  | empty : Reads .empty b [] r []
  | char : accepts x = true → Reads (.char accepts) b [x] r []
  | anchor {c : Cursor} : a.holds c = true → c.before = b → c.rest = r →
      Reads (.anchor a) b [] r []
  | seq : Reads p b u (v ++ r) gs → Reads q (lastOf b u) v r gs' →
      Reads (.seq p q) b (u ++ v) r (gs' ++ gs)
  | left : Reads p b w r gs → Reads (.alt p q) b w r gs
  | right : Reads q b w r gs → Reads (.alt p q) b w r gs
  | capture : Reads p b w r gs → Reads (.capture i p) b w r ((i, w) :: gs)
  | stop : Reads (.times 0 most greedy p) b [] r []
  | round : 0 < least ∨ most ≠ some 0 → Reads p b u (v ++ r) gs →
      Reads (.times (least - 1) (most.map (· - 1)) greedy p) (lastOf b u) v r gs' →
      Reads (.times least most greedy p) b (u ++ v) r (gs' ++ gs)

namespace Pattern.Reads

theorem spells (h : Reads p b w r gs) : Spells p b w r := by
  induction h with
  | empty => exact .empty
  | char hx => exact .char hx
  | anchor ha hb hr => exact .anchor ha hb hr
  | seq _ _ hp hq => exact .seq hp hq
  | left _ h => exact .left h
  | right _ h => exact .right h
  | capture _ h => exact .capture h
  | stop => exact .stop
  | round hr _ _ hp hq => exact .round hr hp hq

theorem once (h : Reads p b w r gs) : Reads (.times 1 (some 1) greedy p) b w r gs := by
  have hr : Reads (.times 1 (some 1) greedy p) b (w ++ []) r ([] ++ gs) :=
    .round (.inl Nat.one_pos) (by simpa using h) .stop
  simpa using hr

/-- A number of rounds, and then further ones. -/
theorem further (h : Reads (.times n (some n) greedy' p) b u (v ++ r) gs)
    (h' : Reads (.times m (most.map (· - n)) greedy p) (lastOf b u) v r gs') :
    Reads (.times (n + m) most greedy p) b (u ++ v) r (gs' ++ gs) := by
  induction n generalizing b u most gs with
  | zero =>
    cases h with
    | stop => simpa using h'
    | round hr => simp at hr
  | succ n ih =>
    cases h with
    | round _ h₁ h₂ =>
      rw [lastOf_append] at h'
      rw [List.append_assoc, ← List.append_assoc gs']
      refine .round (.inl (by omega)) (by simpa using h₁) ?_
      have hn : n + 1 + m - 1 = n + m := by omega
      rw [hn]
      refine ih (by simpa using h₂) ?_
      simpa [Option.map_map, Function.comp_def, Nat.sub_sub, Nat.add_comm] using h'

theorem run (h : ∀ x ∈ w, accepts x = true) :
    Reads (.times 0 none greedy (.char accepts)) b w r [] := by
  induction w generalizing b with
  | nil => exact .stop
  | cons x w ih =>
    have hx : Reads (.char accepts) b [x] (w ++ r) [] := .char (h x (by simp))
    have hall : Reads (.times 0 none greedy (.char accepts)) b ([x] ++ w) r ([] ++ []) :=
      .round (.inr (by simp)) hx (ih fun y hy => h y (by simp [hy]))
    exact hall

theorem of_one (h : Reads (.times 1 none greedy p) b w r gs) :
    Reads (.times 0 none greedy p) b w r gs := by
  cases h with
  | round _ h₁ h₂ => exact .round (.inr (by simp)) h₁ h₂

end Pattern.Reads

/-- What a pattern consumes when nothing has to match after it: a greedy run of one class at
its end goes as far as it can. -/
def Pattern.Settles : Pattern → Option Char → Text → Text → Prop
  | .seq p q, b, w, r => ∃ u v, w = u ++ v ∧ Spells p b u (v ++ r) ∧ q.Settles (lastOf b u) v r
  | .alt p q, b, w, r => p.Settles b w r ∨ q.Settles b w r
  | .capture _ p, b, w, r => p.Settles b w r
  | .times least none true (.char accepts), b, w, r =>
    Spells (.times least none true (.char accepts)) b w r ∧ ∀ x ∈ r.head?, accepts x = false
  | p, b, w, r => p.Spells b w r

theorem Pattern.settles_times (least : Nat) (most : Option Nat) (greedy : Bool) (p : Pattern) :
    (∃ accepts, most = none ∧ greedy = true ∧ p = .char accepts) ∨
      Settles (.times least most greedy p) = Spells (.times least most greedy p) := by
  cases most with
  | some => exact .inr rfl
  | none =>
    cases greedy with
    | false => exact .inr rfl
    | true =>
      cases p with
      | char accepts => exact .inl ⟨accepts, rfl, rfl, rfl⟩
      | _ => exact .inr rfl

theorem Pattern.Settles.spells {p : Pattern} (h : p.Settles b w r) : p.Spells b w r := by
  induction p generalizing b w with
  | seq p q _ ihq =>
    obtain ⟨u, v, rfl, hu, hv⟩ := h
    exact .seq hu (ihq hv)
  | alt p q ihp ihq =>
    rcases h with h | h
    · exact .left (ihp h)
    · exact .right (ihq h)
  | capture i p ih => exact .capture (ih h)
  | times least most greedy p _ =>
    rcases settles_times least most greedy p with ⟨accepts, rfl, rfl, rfl⟩ | hs
    · exact h.1
    · rwa [hs] at h
  | _ => exact h

end Wikitext
