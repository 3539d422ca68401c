import Wikitext.Pattern.Backtrack
import Wikitext.Pattern.Written

/-!
# Reading literal text

A text whose reserved characters are escaped is read as the sequence of its characters, in the
extended notation and under any flags but the verbose one (`Yields.readSequence`). The steps of
reading are stated one for each reader, as what it gives and where it leads (`Pattern.Yields`).
-/

namespace Wikitext.Pattern

-- -----------------------------------------------------------------------------------------
-- Steps of reading
-- -----------------------------------------------------------------------------------------

/-- Reading from `s` gives `a` and leads to `s'`. -/
def Yields (x : Read α) (s : Reading) (a : α) (s' : Reading) : Prop := x.run s = .ok (a, s')

variable {s s' s'' : Reading}

namespace Yields

theorem pure (a : α) (s : Reading) : Yields (pure a) s a s := rfl

theorem bind {x : Read α} {f : α → Read β} (hx : Yields x s a s') (hf : Yields (f a) s' b s'') :
    Yields (x >>= f) s b s'' := by
  rw [Yields, StateT.run_bind, hx]
  exact hf

theorem get (s : Reading) : Yields get s s s := rfl

theorem modify (f : Reading → Reading) (s : Reading) : Yields (modify f) s () (f s) := rfl

theorem lift {x : Except ReadError α} (hx : x = .ok a) : Yields (liftM x) s a s := by
  subst hx
  rfl

theorem flags (s : Reading) : Yields Read.flags s s.flags s := rfl

theorem peek? (hs : s.rest.head? = c) : Yields Read.peek? s c s := by
  subst hs
  rfl

theorem skip_one (hs : s.rest = c :: t) : Yields (Read.skip 1) s () { s with rest := t } := by
  have h : Yields (Read.skip 1) s () { s with rest := s.rest.drop 1 } := rfl
  rwa [hs] at h

theorem sees (piece : String) (s : Reading) :
    Yields (Read.sees piece) s (Text.startsWith s.rest piece.toList) s := rfl

theorem accept_false (h : Text.startsWith s.rest piece.toList = false) :
    Yields (Read.accept piece) s false s := by
  refine (sees piece s).bind ?_
  rw [h]
  exact pure false s

end Yields

-- -----------------------------------------------------------------------------------------
-- Where literal text begins
-- -----------------------------------------------------------------------------------------

/-- What comes next is no sign of the notation, other than a backslash, or there is nothing left. -/
def BeginsPlainly (t : Text) : Prop := ∀ c ∈ t.head?, c = '\\' ∨ c ∉ reservedExtended

theorem escape_cons (reserved : List Char) (c : Char) (t : Text) :
    escape reserved (c :: t) =
      if c ∈ reserved then '\\' :: c :: escape reserved t else c :: escape reserved t := by
  by_cases hc : c ∈ reserved <;> simp [escape, hc]

theorem beginsPlainly_escape (t : Text) : BeginsPlainly (escape reservedExtended t) := by
  cases t with
  | nil => simp [BeginsPlainly, escape]
  | cons c t =>
    by_cases hc : c ∈ reservedExtended <;> simp [BeginsPlainly, escape_cons, hc]

namespace BeginsPlainly

theorem head_ne (h : BeginsPlainly t) (hc : c ∈ reservedExtended) (hne : c ≠ '\\') :
    t.head? ≠ some c := fun hhead => (h c hhead).elim hne (absurd hc)

theorem startsWith (h : BeginsPlainly t) (hc : c ∈ reservedExtended) (hne : c ≠ '\\') :
    Text.startsWith t (c :: p) = false := by
  cases t with
  | nil => rfl
  | cons x t =>
    have hx : c ≠ x := by
      rintro rfl
      exact h.head_ne hc hne rfl
    simp [Text.startsWith, Text.dropPrefix?, hx]

theorem dropSpace (h : BeginsPlainly t) (n : Nat) : dropSpace true false n t = .ok t := by
  cases n with
  | zero => rfl
  | succ n =>
    cases t with
    | nil => rfl
    | cons c t =>
      have hc : c ≠ '(' := by
        rintro rfl
        exact h.head_ne (by decide) (by decide) rfl
      simp [Pattern.dropSpace, hc]

end BeginsPlainly

-- -----------------------------------------------------------------------------------------
-- One character
-- -----------------------------------------------------------------------------------------

namespace Yields

theorem skipSpace (hs : BeginsPlainly s.rest) (hv : s.flags.verbose = false) :
    Yields (skipSpace true) s () s := by
  refine (get s).bind ((flags s).bind ?_)
  rw [hv]
  exact (lift (hs.dropSpace _)).bind (modify _ s)

theorem readRepetition? (hs : BeginsPlainly s.rest) : Yields (readRepetition? true) s none s := by
  have hsign : ∀ c ∈ ['?', '*', '+', '\x7b'], Text.startsWith s.rest [c] = false := by
    have hreserved : ∀ c ∈ ['?', '*', '+', '\x7b'], c ∈ reservedExtended ∧ c ≠ '\\' := by
      simp only [List.forall_mem_cons, List.not_mem_nil, false_imp_iff, implies_true, and_true]
      decide
    exact fun c hc => hs.startsWith (hreserved c hc).1 (hreserved c hc).2
  have hbrace : Yields (Read.sees "\x7b") s false s := hsign '\x7b' (by decide) ▸ sees "\x7b" s
  refine (accept_false (hsign '?' (by decide))).bind ?_
  refine (accept_false (hsign '*' (by decide))).bind ?_
  refine (accept_false (hsign '+' (by decide))).bind ?_
  exact hbrace.bind (pure none s)

theorem readRepetitions (hs : BeginsPlainly s.rest) (hv : s.flags.verbose = false) (n : Nat)
    (w : Written) : Yields (readRepetitions true n w) s w s := by
  cases n with
  | zero => exact pure w s
  | succ n => exact (skipSpace hs hv).bind ((readRepetition? hs).bind (pure w s))

/-- Every reserved character stands for itself after a backslash. -/
theorem readEscape (hc : c ∈ reservedExtended) (hs : s.rest = c :: t) :
    Yields (readEscape true false) s (.char c) { s with rest := t } := by
  have hlist : reservedExtended =
      ['\\', '.', '+', '*', '?', '(', ')', '|', '[', ']', '\x7b', '\x7d', '^', '$', '#'] := by
    decide
  rw [hlist] at hc
  obtain ⟨rest, fl, groups, names, numbered, depth⟩ := s
  obtain rfl : rest = c :: t := hs
  simp only [List.mem_cons, List.not_mem_nil, or_false] at hc
  rcases hc with rfl | rfl | rfl | rfl | rfl | rfl | rfl | rfl | rfl | rfl | rfl | rfl | rfl | rfl |
    rfl
  all_goals rfl

end Yields

/-- What a literal character accepts. -/
def Flags.spelling (fl : Flags) (c : Char) : Char → Bool := closeCase fl.caseless (· == c)

namespace Yields

theorem readLiteral (c : Char) (s : Reading) :
    Yields (readLiteral c) s (.char (s.flags.spelling c)) s := (flags s).bind (pure _ s)

theorem readAtom (hs : s.rest = escape reservedExtended (c :: u)) (n : Nat) :
    Yields (readAtom true (n + 1)) s (.char (s.flags.spelling c))
      { s with rest := escape reservedExtended u } := by
  rw [escape_cons] at hs
  unfold Pattern.readAtom
  by_cases hc : c ∈ reservedExtended
  · rw [if_pos hc] at hs
    have hhead : s.rest.head? = some '\\' := by rw [hs, List.head?_cons]
    refine (peek? hhead).bind ((skip_one hs).bind ?_)
    exact (readEscape hc rfl).bind (readLiteral c _)
  · rw [if_neg hc] at hs
    have hhead : s.rest.head? = some c := by rw [hs, List.head?_cons]
    refine (peek? hhead).bind ?_
    dsimp only
    -- The signs of the notation are all reserved.
    split
    all_goals try exact absurd (by decide) hc
    exact (skip_one hs).bind (readLiteral c _)

-- -----------------------------------------------------------------------------------------
-- Sequences of characters
-- -----------------------------------------------------------------------------------------

theorem followedBy_char (accepts : Char → Bool) (fs : List (Char → Bool)) :
    Written.followedBy (.char accepts) (Written.inSequence (fs.map .char)) =
      Written.inSequence ((accepts :: fs).map .char) := by
  cases fs with
  | nil => rfl
  | cons f fs => cases fs <;> rfl

/-- By induction on the text; each character takes one unit of the bound. -/
theorem readSequence (hs : s.rest = escape reservedExtended u) (hv : s.flags.verbose = false)
    (hn : u.length < n) :
    Yields (readSequence true n) s (.inSequence ((u.map s.flags.spelling).map .char))
      { s with rest := [] } := by
  obtain ⟨n, rfl⟩ := Nat.exists_eq_succ_of_ne_zero (Nat.ne_zero_of_lt hn)
  have hplain : BeginsPlainly s.rest := hs ▸ beginsPlainly_escape u
  induction u generalizing n s with
  | nil =>
    obtain ⟨rest, fl, groups, names, numbered, depth⟩ := s
    obtain rfl : rest = [] := hs
    exact (skipSpace hplain hv).bind ((peek? rfl).bind (pure _ _))
  | cons c u ih =>
    obtain ⟨n, rfl⟩ := Nat.exists_eq_succ_of_ne_zero
      (Nat.ne_zero_of_lt (Nat.lt_of_succ_lt_succ hn))
    let rest : Reading := { s with rest := escape reservedExtended u }
    have hrest : BeginsPlainly rest.rest := beginsPlainly_escape u
    have hnext := ih (s := rest) rfl hv n (by simpa using hn) hrest
    obtain ⟨x, hx⟩ : ∃ x, s.rest.head? = some x := by
      rw [hs, escape_cons]
      split <;> exact ⟨_, rfl⟩
    refine (skipSpace hplain hv).bind ((peek? hx).bind ?_)
    split
    · contradiction
    · exact absurd (hx.trans ‹_›) (hplain.head_ne (by decide) (by decide))
    · exact absurd (hx.trans ‹_›) (hplain.head_ne (by decide) (by decide))
    · refine (readAtom hs n).bind ((readRepetitions (s := rest) hrest hv (n + 1) _).bind ?_)
      refine hnext.bind ?_
      rw [followedBy_char]
      exact pure _ _

theorem readAlternatives (h : Yields (Pattern.readSequence true n) s w s') (hs : s'.rest = [])
    (hnames : s'.names = []) : Yields (Pattern.readAlternatives true (n + 1)) s w s' := by
  have hbar : Yields (Read.sees "|") s' false s' := by
    have hsees := sees "|" s'
    rwa [hs] at hsees
  refine h.bind (hbar.bind ((get s').bind ?_))
  rw [hnames]
  simpa using pure w s'

end Yields

/-- A sequence that takes the whole text up and has no groups. -/
theorem read_eq_ok (h : Yields (readSequence true (4 * t.length + 7)) { rest := t } w
    { rest := [], flags := fl }) : read true t = .ok { tree := w, groups := 0, names := [] } := by
  have hall := Yields.readAlternatives h rfl rfl
  rw [read, hall]
  rfl

theorem pattern?_inSequence (fs : List (Char → Bool)) :
    (Written.inSequence (fs.map .char)).pattern? = some (inOrder (fs.map .char)) := by
  induction fs with
  | nil => rfl
  | cons f fs ih =>
    cases fs with
    | nil => rfl
    | cons g fs =>
      simp only [List.map_cons] at ih
      simp only [List.map_cons, Written.inSequence, Written.pattern?, ih]
      rfl

end Wikitext.Pattern
