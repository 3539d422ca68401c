import Mathlib.Order.Bounds.Defs
import Wikitext.Proofs.Diff.Chains

/-!
# Chains that share their links

The search does not copy a chain to make a longer one. A chain is kept as its
last link, which names the link before it; links are stored in a list that only
grows, and a chain that takes the place of another one leaves the links of that
one where they are. `spells_after`: the stored links spell the chains of
`chains`, whatever was replaced in the meantime.

`searched_after` says what is known after each left element: where the chains
end ascends with their length, there are as many as a longest common subsequence
has elements, and each ends as early as a common subsequence of its length can.
-/

namespace Wikitext.Diff

variable {α : Type}

-- -----------------------------------------------------------------------------------------
-- Links
-- -----------------------------------------------------------------------------------------

/-- The last pair of a chain, and the number of the link that ends the rest of it. -/
structure Link where
  left : Nat
  right : Nat
  before : Option Nat
  deriving DecidableEq, Repr

/-- From the link with the given number on, the links lead to these pairs. -/
inductive Leads (links : List Link) : Option Nat → List (Nat × Nat) → Prop
  | stop : Leads links none []
  | link {l : Link} : links[i]? = some l → Leads links l.before pairs →
      Leads links (some i) ((l.left, l.right) :: pairs)

namespace Leads

variable {links : List Link}

/-- Links that are stored later do not change where the others lead. -/
theorem append (h : Leads links i pairs) (more : List Link) : Leads (links ++ more) i pairs := by
  induction h with
  | stop => exact .stop
  | link hl _ ih =>
    refine .link ?_ ih
    rw [List.getElem?_append_left (List.getElem?_eq_some_iff.mp hl).1, hl]

theorem unique (h : Leads links i pairs) (h' : Leads links i pairs') : pairs = pairs' := by
  induction h generalizing pairs' with
  | stop =>
    cases h'
    rfl
  | link hl _ ih =>
    cases h' with
    | link hl' h' =>
      cases hl.symm.trans hl'
      rw [ih h']

end Leads

-- -----------------------------------------------------------------------------------------
-- The search
-- -----------------------------------------------------------------------------------------

/-- Where the chain of each length ends in the right sequence, the number of its last link, and
all links. -/
structure Search where
  ends : List Nat := []
  heads : List Nat := []
  links : List Link := []
  deriving DecidableEq, Repr

/-- The entry `x` at place `k`, where there may be one already, or behind the last one. -/
def put (xs : List β) (k : Nat) (x : β) : List β :=
  if k = xs.length then xs ++ [x] else xs.set k x

namespace Search

/-- The pair becomes the last one of a chain of length `k + 1`. -/
def store (s : Search) (k i j : Nat) : Search where
  ends := put s.ends k j
  heads := put s.heads k s.links.length
  links := s.links ++ [⟨i, j, if k = 0 then none else s.heads[k - 1]?⟩]

/-- The place of the first chain that does not end before `j`. -/
def place (s : Search) (j : Nat) : Nat := (s.ends.takeWhile (· < j)).length

/-- Takes the pair of positions `(i, j)` into account. -/
def add (i : Nat) (s : Search) (j : Nat) : Search :=
  match s.ends[s.place j]? with
  | none => s.store (s.place j) i j
  | some stop => if j < stop then s.store (s.place j) i j else s

variable [DecidableEq α]

def visit (right : List α) (s : Search) (a : α × Nat) : Search :=
  (positions a.1 right).foldl (add a.2) s

/-- The state of the search after `n` left elements. -/
def after (left right : List α) (n : Nat) : Search := (left.zipIdx.take n).foldl (visit right) {}

end Search

-- -----------------------------------------------------------------------------------------
-- The chains that the links spell
-- -----------------------------------------------------------------------------------------

/-- The state of the search keeps these chains. -/
structure Search.Spells (s : Search) (cs : List Chain) : Prop where
  ends : s.ends = cs.map (·.right)
  length_heads : s.heads.length = cs.length
  leads : ∀ (k : Nat) (c : Chain), cs[k]? = some c →
    ∃ head, s.heads[k]? = some head ∧ Leads s.links (some head) c.pairs

theorem put_cons (y : β) (xs : List β) (k : Nat) (x : β) :
    put (y :: xs) (k + 1) x = y :: put xs k x := by
  simp only [put, List.length_cons, Nat.add_right_cancel_iff]
  split <;> rfl

theorem getElem?_put {xs : List β} (hk : k ≤ xs.length) (x : β) (m : Nat) :
    (put xs k x)[m]? = if m = k then some x else xs[m]? := by
  unfold put
  split_ifs with hlast hm hm
  · simp [hm, hlast]
  · rcases Nat.lt_or_ge m xs.length with hlt | hge
    · rw [List.getElem?_append_left hlt]
    · rw [List.getElem?_eq_none (by simp; omega), List.getElem?_eq_none hge]
  · rw [hm, List.getElem?_set_self (by omega)]
  · rw [List.getElem?_set_ne (Ne.symm hm)]

theorem length_put {xs : List β} {ys : List γ} (h : xs.length = ys.length) (k : Nat) (x : β)
    (y : γ) : (put xs k x).length = (put ys k y).length := by
  simp only [put, h]
  split <;> simp [h]

theorem map_put (f : β → γ) (xs : List β) (k : Nat) (x : β) :
    (put xs k x).map f = put (xs.map f) k (f x) := by
  simp only [put, List.length_map]
  split <;> simp

/-- The pairs in front of place `k`, where `before` stand in front of all chains. -/
def inFront (before : List (Nat × Nat)) (cs : List Chain) (k : Nat) : List (Nat × Nat) :=
  ((before :: cs.map Chain.pairs)[k]?).getD []

/-- A pair is put behind the longest chain that ends before it. -/
theorem extend_eq_put (i j : Nat) (before : List (Nat × Nat)) (cs : List Chain) :
    let k := (cs.takeWhile (·.right < j)).length
    let longer := put cs k ⟨i, j, inFront before cs k⟩
    extend i j before cs =
      match cs[k]? with
      | none => longer
      | some c => if j < c.right then longer else cs := by
  induction cs generalizing before with
  | nil => rfl
  | cons c cs ih =>
    by_cases hc : c.right < j
    · have hlonger := ih c.pairs
      simp only [extend, if_pos hc, List.takeWhile_cons, decide_eq_true hc, if_true,
        List.length_cons, List.getElem?_cons_succ, put_cons, inFront, List.map_cons] at hlonger ⊢
      rw [hlonger]
      split
      · rfl
      · split <;> rfl
    · simp [extend, hc, put, inFront]

namespace Search.Spells

variable {s : Search} {cs : List Chain}

/-- The link before a new one ends the chain in front of its place. -/
theorem leads_inFront (h : s.Spells cs) (hk : k ≤ cs.length) :
    Leads s.links (if k = 0 then none else s.heads[k - 1]?) (inFront [] cs k) := by
  cases k with
  | zero => exact .stop
  | succ k =>
    obtain ⟨head, hhead, hleads⟩ := h.leads k cs[k] (List.getElem?_eq_getElem hk)
    have hpairs : inFront [] cs (k + 1) = cs[k].pairs := by
      simp [inFront, List.getElem?_eq_getElem hk]
    rw [if_neg (Nat.succ_ne_zero k), Nat.add_sub_cancel, hhead, hpairs]
    exact hleads

/-- The chains whose place is not taken keep their links, as links are never taken away. -/
theorem store (h : s.Spells cs) (hk : k ≤ cs.length) (i j : Nat) :
    (s.store k i j).Spells (put cs k ⟨i, j, inFront [] cs k⟩) where
  ends := by rw [Search.store, h.ends, map_put]
  length_heads := length_put h.length_heads k _ _
  leads m c hc := by
    have hkheads : k ≤ s.heads.length := h.length_heads ▸ hk
    rw [getElem?_put hk] at hc
    simp only [Search.store, getElem?_put hkheads]
    by_cases hm : m = k
    · rw [if_pos hm] at hc ⊢
      obtain rfl := Option.some.inj hc
      exact ⟨s.links.length, rfl, .link List.getElem?_concat_length ((h.leads_inFront hk).append _)⟩
    · rw [if_neg hm] at hc ⊢
      obtain ⟨head, hhead, hleads⟩ := h.leads m c hc
      exact ⟨head, hhead, hleads.append _⟩

theorem add (h : s.Spells cs) (i j : Nat) : (s.add i j).Spells (extend i j [] cs) := by
  have hplace : s.place j = (cs.takeWhile (·.right < j)).length := by
    rw [Search.place, h.ends, List.takeWhile_map, List.length_map]
    rfl
  have hk : s.place j ≤ cs.length := hplace ▸ (List.takeWhile_sublist _).length_le
  have hstore := h.store hk i j
  rw [extend_eq_put, ← hplace, Search.add, h.ends, List.getElem?_map]
  cases cs[s.place j]? with
  | none => exact hstore
  | some c =>
    simp only [Option.map_some]
    split
    · exact hstore
    · exact h

theorem foldl_add (h : s.Spells cs) (i : Nat) (js : List Nat) :
    (js.foldl (Search.add i) s).Spells (js.foldl (fun cs j => extend i j [] cs) cs) := by
  induction js generalizing s cs with
  | nil => exact h
  | cons j js ih => exact ih (h.add i j)

theorem foldl_visit [DecidableEq α] (h : s.Spells cs) (right : List α) (left : List (α × Nat)) :
    (left.foldl (Search.visit right) s).Spells (left.foldl (Diff.visit right) cs) := by
  induction left generalizing s cs with
  | nil => exact h
  | cons a left ih => exact ih (h.foldl_add a.2 (positions a.1 right))

theorem empty : Search.Spells {} [] := ⟨rfl, rfl, by simp⟩

end Search.Spells

-- -----------------------------------------------------------------------------------------
-- Where common subsequences can end
-- -----------------------------------------------------------------------------------------

/-- A common subsequence of length `k` takes its last element of the right sequence from `j`. -/
def EndsAt (left right : List α) (k j : Nat) : Prop :=
  ∃ pairs, IsChain left right pairs ∧ pairs.length = k ∧ pairs.head?.map (·.2) = some j

theorem IsChain.shares {left right : List α} (h : IsChain left right pairs)
    (hp : ∀ p ∈ pairs.head?, p.1 < i ∧ p.2 < j) :
    Shares (left.take i) (right.take j) pairs.length := by
  induction pairs generalizing i j with
  | nil => exact .zero _ _
  | cons p pairs ih =>
    obtain ⟨hdesc, hpairs⟩ := List.pairwise_cons.mp h.descends
    obtain ⟨⟨a, hl, hr⟩, hagree⟩ := List.forall_mem_cons.mp h.agree
    obtain ⟨hi, hj⟩ := hp p rfl
    have hrest : Shares (left.take p.1) (right.take p.2) pairs.length :=
      ih ⟨hpairs, hagree⟩ fun q hq => hdesc q (List.mem_of_mem_head? hq)
    have hlast := Shares.snoc_self_iff (a := a).mpr hrest
    have hleft : left.take p.1 ++ [a] = left.take (p.1 + 1) := by simp [List.take_add_one, hl]
    have hright : right.take p.2 ++ [a] = right.take (p.2 + 1) := by simp [List.take_add_one, hr]
    rw [hleft, hright] at hlast
    exact hlast.mono (List.take_sublist_take_left hi) (List.take_sublist_take_left hj)

theorem EndsAt.shares {left right : List α} (h : EndsAt left right k j) :
    Shares left (right.take (j + 1)) k := by
  obtain ⟨pairs, hchain, rfl, hlast⟩ := h
  rw [← List.take_length (l := left)]
  refine hchain.shares fun p hp => ?_
  rw [Option.mem_def.mp hp] at hlast
  obtain rfl : p.2 = j := by simpa using hlast
  exact ⟨hchain.left_lt (List.mem_of_mem_head? hp), Nat.lt_succ_self p.2⟩

theorem right_lt_of_lt_below {cs : List Chain} (hs : cs.Pairwise (·.right < ·.right))
    (hc : cs[k]? = some c) (hk : k < below x cs) : c.right < x := by
  induction cs generalizing k with
  | nil => cases hc
  | cons c' cs ih =>
    obtain ⟨hfirst, hs⟩ := List.pairwise_cons.mp hs
    rw [below_cons] at hk
    cases k with
    | zero =>
      obtain rfl : c' = c := by simpa using hc
      by_contra hx
      have hnone : below x cs = 0 := below_eq_zero fun c hc => by
        have := hfirst c hc
        omega
      rw [if_neg hx, hnone] at hk
      exact Nat.lt_irrefl 0 hk
    | succ k => exact ih hs (by simpa using hc) (by split at hk <;> omega)

/-- The chain of each length ends as early as a common subsequence of its length can. -/
theorem Kept.isLeast {left right : List α} (h : Kept left right cs) (hc : cs[k]? = some c) :
    IsLeast {j | EndsAt left right (k + 1) j} c.right := by
  refine ⟨⟨c.pairs, h.ladder.isChain (List.mem_of_getElem? hc), ?_, rfl⟩, fun j hj => ?_⟩
  · simpa using h.ladder.length_pairs hc
  · have hbelow : k < below (j + 1) cs := (h.counts (j + 1) (k + 1)).mpr hj.shares
    exact Nat.le_of_lt_succ (right_lt_of_lt_below h.ladder.sorted.2 hc hbelow)

-- -----------------------------------------------------------------------------------------
-- The search after each left element
-- -----------------------------------------------------------------------------------------

variable [DecidableEq α]

/-- After `n` left elements the links spell the chains that are found with these alone. -/
theorem spells_after (left right : List α) (n : Nat) :
    (Search.after left right n).Spells (chains (left.take n) right) := by
  have htake : left.zipIdx.take n = (left.take n).zipIdx :=
    List.ext_getElem? fun m => by
      simp only [List.getElem?_take, List.getElem?_zipIdx]
      split <;> rfl
  rw [Search.after, htake]
  exact Search.Spells.empty.foldl_visit right _

-- The chain of one pair is replaced, and the longer one still leads to the pair that it had.
example : Search.after ['b', 'c', 'a'] ['a', 'b', 'c'] 3 =
    { ends := [0, 2], heads := [2, 1], links := [⟨0, 1, none⟩, ⟨1, 2, some 0⟩, ⟨2, 0, none⟩] } := by
  decide

/-- What the search has found out about the left elements that it has seen. -/
structure Search.Knows (s : Search) (left right : List α) : Prop where
  ascends : s.ends.Pairwise (· < ·)
  length_ends : s.ends.length = lcsLength left right
  length_heads : s.heads.length = s.ends.length
  earliest : ∀ (k stop : Nat), s.ends[k]? = some stop →
    IsLeast {j | EndsAt left right (k + 1) j} stop
  leads : ∀ (k stop : Nat), s.ends[k]? = some stop → ∃ head pairs, s.heads[k]? = some head ∧
    (∀ ps, Leads s.links (some head) ps ↔ ps = pairs) ∧ IsChain left right pairs ∧
    pairs.length = k + 1 ∧ pairs.head?.map (·.2) = some stop

theorem Kept.knows {s : Search} {left right : List α} (h : Kept left right cs)
    (hlength : cs.length = lcsLength left right) (hs : s.Spells cs) : s.Knows left right := by
  have hends : s.ends.length = cs.length := by rw [hs.ends, List.length_map]
  have hchain : ∀ (k stop : Nat), s.ends[k]? = some stop →
      ∃ c : Chain, cs[k]? = some c ∧ c.right = stop := by
    intro k stop hstop
    rw [hs.ends, List.getElem?_map] at hstop
    exact Option.map_eq_some_iff.mp hstop
  constructor
  case ascends =>
    rw [hs.ends]
    exact List.pairwise_map.mpr h.ladder.sorted.2
  case length_ends => exact hends.trans hlength
  case length_heads => exact hs.length_heads.trans hends.symm
  case earliest =>
    intro k stop hstop
    obtain ⟨c, hc, rfl⟩ := hchain k stop hstop
    exact h.isLeast hc
  case leads =>
    intro k stop hstop
    obtain ⟨c, hc, rfl⟩ := hchain k stop hstop
    obtain ⟨head, hhead, hleads⟩ := hs.leads k c hc
    refine ⟨head, c.pairs, hhead, fun ps => ⟨fun hps => hps.unique hleads, fun hps => hps ▸ hleads⟩,
      h.ladder.isChain (List.mem_of_getElem? hc), ?_, rfl⟩
    simpa using h.ladder.length_pairs hc

/-- After any number of left elements the links spell the chains that are kept, and these are as
good as any. -/
theorem searched_after (left right : List α) (n : Nat) :
    (Search.after left right n).Spells (chains (left.take n) right) ∧
      (Search.after left right n).Knows (left.take n) right := by
  have hspells := spells_after left right n
  exact ⟨hspells, (kept_chains _ right).knows (length_chains _ right) hspells⟩

end Wikitext.Diff
