import Wikitext.Proofs.Reference.Tag

/-!
# The tags of a text, in order

A scan goes over a text once and keeps what stands inside its tags. A bracket that is still open
when the next one opens spoils the tag after it, since a reader may take both for one. Rewriting
what stands between an opening bracket and the next closing one changes one tag at most, and white
space in front of a bracket counts for none (`insides_rewritten`, `insides_gap`).
-/

namespace Wikitext.Reference

theorem forall₂_trans {R : α → α → Prop} {xs ys zs : List α} (hR : ∀ {a b c}, R a b → R b c → R a c)
    (h : List.Forall₂ R xs ys) (h' : List.Forall₂ R ys zs) : List.Forall₂ R xs zs := by
  induction h generalizing zs with
  | nil => exact h'
  | cons hone _ ih =>
    cases h' with
    | cons hone' hrest => exact .cons (hR hone hone') (ih hrest)

-- -----------------------------------------------------------------------------------------
-- The scan
-- -----------------------------------------------------------------------------------------

/-- What a scan has seen since the last closing bracket: no opening one, one and the text behind it,
or several. -/
inductive Seen
  | outside
  | tag (inside : Text)
  | several
  deriving DecidableEq

namespace Seen

def after (s : Seen) (c : Char) : Seen :=
  match s with
  | outside => if c = '<' then tag [] else outside
  | tag x => if c = '<' then several else tag (x ++ [c])
  | several => several

def inside : Seen → List Text
  | tag x => [x]
  | _ => []

end Seen

def insidesFrom (s : Seen) : Text → List Text
  | [] => []
  | c :: t => if c = '>' then s.inside ++ insidesFrom .outside t else insidesFrom (s.after c) t

/-- What stands inside the tags of a text, apart from those behind a bracket that was left open. -/
def insides (t : Text) : List Text := insidesFrom .outside t

theorem insidesFrom_close (s : Seen) (t : Text) :
    insidesFrom s ('>' :: t) = s.inside ++ insidesFrom .outside t := rfl

theorem insidesFrom_cons (s : Seen) (hc : c ≠ '>') (t : Text) :
    insidesFrom s (c :: t) = insidesFrom (s.after c) t := if_neg hc

theorem insidesFrom_several (hy : '>' ∉ y) (t : Text) :
    insidesFrom .several (y ++ t) = insidesFrom .several t := by
  induction y with
  | nil => rfl
  | cons c y ih =>
    rw [List.mem_cons, not_or] at hy
    rw [List.cons_append, insidesFrom_cons _ (Ne.symm hy.1)]
    exact ih hy.2

theorem insidesFrom_outside (hy : Inside y) (t : Text) :
    insidesFrom .outside (y ++ t) = insidesFrom .outside t := by
  induction y with
  | nil => rfl
  | cons c y ih =>
    simp only [Inside, List.mem_cons, not_or] at hy
    rw [List.cons_append, insidesFrom_cons _ (Ne.symm hy.2.1), Seen.after, if_neg (Ne.symm hy.1.1)]
    exact ih ⟨hy.1.2, hy.2.2⟩

theorem insidesFrom_tag (hy : Inside y) (x t : Text) :
    insidesFrom (.tag x) (y ++ t) = insidesFrom (.tag (x ++ y)) t := by
  induction y generalizing x with
  | nil => rw [List.append_nil, List.nil_append]
  | cons c y ih =>
    simp only [Inside, List.mem_cons, not_or] at hy
    rw [List.cons_append, insidesFrom_cons _ (Ne.symm hy.2.1), Seen.after, if_neg (Ne.symm hy.1.1),
      ih ⟨hy.1.2, hy.2.2⟩, List.append_assoc, List.singleton_append]

/-- A second opening bracket spoils the tag. -/
theorem insidesFrom_spoilt (hopen : '<' ∈ y) (hclose : '>' ∉ y) (x t : Text) :
    insidesFrom (.tag x) (y ++ t) = insidesFrom .several t := by
  obtain ⟨u, v, rfl, hu⟩ := List.eq_append_cons_of_mem hopen
  simp only [List.mem_append, List.mem_cons, not_or] at hclose
  obtain ⟨huclose, -, hvclose⟩ := hclose
  rw [List.append_assoc, insidesFrom_tag ⟨hu, huclose⟩, List.cons_append,
    insidesFrom_cons _ (by decide), Seen.after, if_pos rfl, insidesFrom_several hvclose]

-- -----------------------------------------------------------------------------------------
-- What the scan finds
-- -----------------------------------------------------------------------------------------

/-- Every opening bracket is followed by a closing one. -/
def Shut (a : Text) : Prop := ∀ u v, a = u ++ '<' :: v → '>' ∈ v

theorem Shut.suffix (h : Shut (u ++ a)) : Shut a := fun x y hxy =>
  h (u ++ x) y (by rw [hxy, List.append_assoc])

theorem shut_append_close (u : Text) : Shut (u ++ ['>']) := by
  intro x y h
  have hlast := congrArg List.getLast? h
  cases y using List.reverseRec with
  | nil => simp at hlast
  | append_singleton y c =>
    obtain rfl : '>' = c := by simpa [List.getLast?_cons] using hlast
    simp

theorem Shut.append_singleton (h : Shut u) (hc : c ≠ '<') : Shut (u ++ [c]) := by
  intro x y hxy
  have hlast := congrArg List.getLast? hxy
  cases y using List.reverseRec with
  | nil => exact absurd (by simpa using hlast) hc
  | append_singleton y d =>
    obtain rfl : c = d := by simpa [List.getLast?_cons] using hlast
    have hfront : u = x ++ '<' :: y := List.append_cancel_right (by simpa using hxy)
    exact List.mem_append_left _ (h x y hfront)

/-- The scan has come to this state at the end of `u`. -/
def Reached (u : Text) : Seen → Prop
  | .outside => Shut u
  | .tag y => Inside y ∧ ∃ a, u = a ++ '<' :: y ∧ Shut a
  | .several => True

theorem Reached.next (h : Reached u s) (hc : c ≠ '>') : Reached (u ++ [c]) (s.after c) := by
  cases s with
  | several => trivial
  | outside =>
    by_cases hopen : c = '<'
    · subst hopen
      exact ⟨⟨by simp, by simp⟩, u, rfl, h⟩
    · rw [Seen.after, if_neg hopen]
      exact Shut.append_singleton h hopen
  | tag y =>
    by_cases hopen : c = '<'
    · rw [Seen.after, if_pos hopen]
      trivial
    · rw [Seen.after, if_neg hopen]
      obtain ⟨hy, a, rfl, ha⟩ := h
      have hone : Inside [c] := by simp [Inside, Ne.symm hopen, Ne.symm hc]
      exact ⟨hy.append hone, a, by simp, ha⟩

theorem exists_tag_of_mem (h : Reached u s) (hx : x ∈ insidesFrom s t) :
    Inside x ∧ ∃ a b, u ++ t = a ++ '<' :: (x ++ '>' :: b) ∧ Shut a := by
  induction t generalizing u s with
  | nil => cases hx
  | cons c t ih =>
    rw [insidesFrom] at hx
    split at hx
    · rename_i hc
      subst hc
      rcases List.mem_append.mp hx with hx | hx
      · cases s with
        | outside | several => cases hx
        | tag y =>
          obtain rfl := List.mem_singleton.mp hx
          obtain ⟨hy, a, rfl, ha⟩ := h
          exact ⟨hy, a, t, by simp, ha⟩
      · have hrest := ih (u := u ++ ['>']) (s := .outside) (shut_append_close u) hx
        simpa using hrest
    · rename_i hc
      have hrest := ih (h.next hc) hx
      simpa using hrest

/-- By induction on the length of `a`, which is shorter behind its first closing bracket. -/
theorem insides_append_subset (ha : Shut a) (t : Text) : insides t ⊆ insides (a ++ t) := by
  induction hn : a.length using Nat.strongRecOn generalizing a with
  | _ n ih =>
    subst hn
    cases a with
    | nil => exact List.Subset.refl _
    | cons c a =>
      have hrest : Shut a := Shut.suffix (u := [c]) ha
      have hstep := ih a.length (Nat.lt_succ_self _) hrest rfl
      by_cases hclose : c = '>'
      · subst hclose
        exact hstep
      by_cases hopen : c = '<'
      · subst hopen
        obtain ⟨z, a, rfl, hz⟩ := List.eq_append_cons_of_mem (ha [] a rfl)
        have hlater := ih a.length (by simp only [List.length_cons, List.length_append]; omega)
          (Shut.suffix (u := z ++ ['>']) (by simpa using hrest)) rfl
        have hscan : ∃ xs, insides ('<' :: (z ++ '>' :: a) ++ t) = xs ++ insides (a ++ t) := by
          have hfirst : insides ('<' :: (z ++ '>' :: a) ++ t) =
              insidesFrom (.tag []) (z ++ ('>' :: (a ++ t))) := by
            simp [insides, insidesFrom_cons, Seen.after]
          by_cases hspoilt : '<' ∈ z
          · rw [hfirst, insidesFrom_spoilt hspoilt hz, insidesFrom_close]
            exact ⟨_, rfl⟩
          · rw [hfirst, insidesFrom_tag ⟨hspoilt, hz⟩, insidesFrom_close]
            exact ⟨_, rfl⟩
        obtain ⟨xs, hxs⟩ := hscan
        rw [hxs]
        exact List.subset_append_of_subset_right xs hlater
      · have hskip : insides (c :: a ++ t) = insides (a ++ t) := by
          rw [insides, List.cons_append, insidesFrom_cons _ hclose, Seen.after, if_neg hopen]
          rfl
        rw [hskip]
        exact hstep

/-- The scan finds the tags of the text in front of which no bracket is left open. -/
theorem mem_insides :
    x ∈ insides t ↔ Inside x ∧ ∃ a b, t = a ++ '<' :: (x ++ '>' :: b) ∧ Shut a := by
  constructor
  · intro hx
    exact exists_tag_of_mem (u := []) (s := .outside) (by simp [Reached, Shut]) hx
  · rintro ⟨hx, a, b, rfl, ha⟩
    refine insides_append_subset ha _ ?_
    have hscan : insides ('<' :: (x ++ '>' :: b)) = x :: insides b := by
      rw [insides, insidesFrom_cons _ (by decide)]
      exact insidesFrom_tag hx [] _
    rw [hscan]
    exact List.mem_cons_self

-- -----------------------------------------------------------------------------------------
-- One rewriting
-- -----------------------------------------------------------------------------------------

section
variable {R : Text → Text → Prop} (hrefl : ∀ x, R x x)
include hrefl

theorem insidesFrom_congr (h : ∀ s, List.Forall₂ R (insidesFrom s t) (insidesFrom s t'))
    (s : Seen) (x : Text) : List.Forall₂ R (insidesFrom s (x ++ t)) (insidesFrom s (x ++ t')) := by
  induction x generalizing s with
  | nil => exact h s
  | cons c x ih =>
    simp only [List.cons_append, insidesFrom]
    split
    · exact List.rel_append (List.forall₂_same.mpr fun x _ => hrefl x) (ih _)
    · exact ih _

/-- Whatever is inside a tag up to `y`, the rest is the same. -/
theorem insidesFrom_inside
    (h : ∀ z r', r = z ++ '>' :: r' → Inside z → R (y ++ z) (y' ++ z)) :
    List.Forall₂ R (insidesFrom (.tag y) r) (insidesFrom (.tag y') r) := by
  induction r generalizing y y' with
  | nil => exact .nil
  | cons c r ih =>
    by_cases hclose : c = '>'
    · subst hclose
      have hone := h [] r rfl ⟨by simp, by simp⟩
      rw [List.append_nil, List.append_nil] at hone
      rw [insidesFrom_close, insidesFrom_close]
      exact .cons hone (List.forall₂_same.mpr fun x _ => hrefl x)
    · rw [insidesFrom_cons _ hclose, insidesFrom_cons _ hclose]
      by_cases hopen : c = '<'
      · simp only [Seen.after, if_pos hopen]
        exact List.forall₂_same.mpr fun x _ => hrefl x
      · simp only [Seen.after, if_neg hopen]
        refine ih fun z r' hr hz => ?_
        have hall : Inside (c :: z) := by
          simp [Inside, hz.1, hz.2, Ne.symm hopen, Ne.symm hclose]
        simpa using h (c :: z) r' (by rw [hr]; rfl) hall

/-- What stands behind an opening bracket is rewritten, with the brackets in it kept. -/
theorem insides_rewritten (hy : '>' ∉ y) (hy' : '>' ∉ y') (hopen : '<' ∈ y ↔ '<' ∈ y')
    (h : ∀ z r', r = z ++ '>' :: r' → Inside (y ++ z) → R (y ++ z) (y' ++ z)) (x : Text) :
    List.Forall₂ R (insides (x ++ ('<' :: (y ++ r)))) (insides (x ++ ('<' :: (y' ++ r)))) := by
  refine insidesFrom_congr hrefl (fun s => ?_) .outside x
  have hsame : ∀ xs : List Text, List.Forall₂ R xs xs := fun xs => List.forall₂_same.mpr fun x _ => hrefl x
  rw [insidesFrom_cons _ (by decide), insidesFrom_cons _ (by decide)]
  have hseveral : List.Forall₂ R (insidesFrom .several (y ++ r)) (insidesFrom .several (y' ++ r)) := by
    rw [insidesFrom_several hy, insidesFrom_several hy']
    exact hsame _
  cases s with
  | outside =>
    change List.Forall₂ R (insidesFrom (.tag []) (y ++ r)) (insidesFrom (.tag []) (y' ++ r))
    by_cases hspoilt : '<' ∈ y
    · rw [insidesFrom_spoilt hspoilt hy, insidesFrom_spoilt (hopen.mp hspoilt) hy']
      exact hsame _
    · have hinside : Inside y := ⟨hspoilt, hy⟩
      have hinside' : Inside y' := ⟨fun hm => hspoilt (hopen.mpr hm), hy'⟩
      rw [insidesFrom_tag hinside, insidesFrom_tag hinside', List.nil_append, List.nil_append]
      exact insidesFrom_inside hrefl fun z r' hr hz => h z r' hr (hinside.append hz)
  | tag => exact hseveral
  | several => exact hseveral

theorem insides_rewritten_tag (hy : '>' ∉ y) (hy' : '>' ∉ y') (hopen : '<' ∈ y ↔ '<' ∈ y')
    (h : Inside y → R y y') (x r : Text) :
    List.Forall₂ R (insides (x ++ ('<' :: (y ++ '>' :: r)))) (insides (x ++ ('<' :: (y' ++ '>' :: r)))) := by
  refine insides_rewritten hrefl hy hy' hopen (fun z r' hz hin => ?_) x
  cases z with
  | nil => simpa using h (by simpa using hin)
  | cons c z =>
    obtain rfl := (List.cons.inj hz).1
    exact absurd (by simp) hin.2

end

/-- What stands in front of an opening bracket is in no tag. -/
theorem insides_gap (hg : Inside g) (x t : Text) : insides (x ++ (g ++ ('<' :: t))) = insides (x ++ ('<' :: t)) := by
  have hgap : ∀ s, insidesFrom s (g ++ ('<' :: t)) = insidesFrom s ('<' :: t) := by
    intro s
    cases s with
    | outside => exact insidesFrom_outside hg _
    | tag =>
      rw [insidesFrom_tag hg, insidesFrom_cons _ (by decide), insidesFrom_cons _ (by decide)]
      rfl
    | several => exact insidesFrom_several hg.2 _
  have hall := insidesFrom_congr (R := Eq) (fun _ => rfl)
    (fun s => List.forall₂_eq_eq_eq ▸ hgap s) .outside x
  rwa [List.forall₂_eq_eq_eq] at hall

end Wikitext.Reference
