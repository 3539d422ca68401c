import Wikitext.Pattern.Expansion
import Wikitext.Proofs.Text.Basic

/-!
# Filling in a template

The equations of `Template.expand`, one for each kind of thing that a template can begin with. The
bound on the number of characters that the recursion goes by is in none of them. A text in which
the dollar signs are doubled is filled in as itself (`expand_literally`).
-/

namespace Wikitext.Template

-- -----------------------------------------------------------------------------------------
-- Names
-- -----------------------------------------------------------------------------------------

theorem bracedName?_eq_some :
    bracedName? t = some (name, r) ↔
      t = '\x7b' :: (name ++ '\x7d' :: r) ∧ name ≠ [] ∧ ∀ c ∈ name, isNameChar c = true := by
  constructor
  · intro h
    unfold bracedName? at h
    split at h
    · rename_i u
      dsimp only at h
      split at h
      · rename_i hdrop
        split at h
        · cases h
        · rename_i hne
          simp only [Option.some.injEq, Prod.mk.injEq] at h
          obtain ⟨rfl, rfl⟩ := h
          rw [Text.drop_takeWhile] at hdrop
          refine ⟨?_, by simpa using hne, fun c hc => List.mem_takeWhile_imp hc⟩
          rw [← hdrop, List.takeWhile_append_dropWhile]
      · cases h
    · cases h
  · rintro ⟨rfl, hne, hname⟩
    have htake : (name ++ '\x7d' :: r).takeWhile isNameChar = name :=
      Text.takeWhile_append_stop hname (by simp; decide)
    simp [bracedName?, htake, hne]

theorem plainName?_eq_some (h : plainName? t = some (name, r)) :
    t = name ++ r ∧ name ≠ [] := by
  unfold plainName? at h
  dsimp only at h
  split at h
  · cases h
  · rename_i hne
    simp only [Option.some.injEq, Prod.mk.injEq, Text.drop_takeWhile] at h
    obtain ⟨rfl, rfl⟩ := h
    exact ⟨(List.takeWhile_append_dropWhile).symm, by simpa using hne⟩

theorem plainName?_eq_none : plainName? t = none ↔ ∀ c ∈ t.head?, isNameChar c = false := by
  cases t with
  | nil => simp [plainName?]
  | cons c t => cases hc : isNameChar c <;> simp [plainName?, hc]

/-- What a dollar sign with a name leaves of the text behind it is shorter. -/
theorem length_lt_of_name
    (h : ((bracedName? t).orElse fun _ => plainName? t) = some (name, r)) :
    r.length < t.length := by
  cases hb : bracedName? t with
  | none =>
    rw [hb, Option.orElse_none] at h
    obtain ⟨rfl, hne⟩ := plainName?_eq_some h
    simpa [List.length_pos_iff] using hne
  | some found =>
    rw [hb, Option.orElse_some] at h
    obtain ⟨rfl, -, -⟩ := bracedName?_eq_some.mp (hb.trans h)
    simp only [List.length_cons, List.length_append]
    omega

-- -----------------------------------------------------------------------------------------
-- Beginnings of a template
-- -----------------------------------------------------------------------------------------

variable {groups : GroupText}

/-- A bound that is high enough does not count. By induction along the recursion with the one
bound; the other one is never used up before. -/
theorem expandAux_bound (hn : t.length ≤ n) (hm : t.length ≤ m) :
    expandAux groups n t = expandAux groups m t := by
  fun_induction expandAux groups n t generalizing m with
  | case1 t =>
    obtain rfl := List.eq_nil_of_length_eq_zero (Nat.le_zero.mp hn)
    cases m <;> rfl
  | case2 => cases m <;> rfl
  | case3 n rest ih =>
    obtain ⟨m, rfl⟩ := Nat.exists_eq_succ_of_ne_zero (Nat.ne_zero_of_lt hm)
    simp only [List.length_cons] at hn hm
    rw [expandAux, @ih m (by omega) (by omega)]
  | case4 n t hdollar name rest hname ih =>
    obtain ⟨m, rfl⟩ := Nat.exists_eq_succ_of_ne_zero (Nat.ne_zero_of_lt hm)
    have hlt := length_lt_of_name hname
    simp only [List.length_cons] at hn hm
    rw [expandAux.eq_4 _ _ _ hdollar, hname, @ih m (by omega) (by omega)]
  | case5 n t hdollar hname ih =>
    obtain ⟨m, rfl⟩ := Nat.exists_eq_succ_of_ne_zero (Nat.ne_zero_of_lt hm)
    simp only [List.length_cons] at hn hm
    rw [expandAux.eq_4 _ _ _ hdollar, hname, @ih m (by omega) (by omega)]
  | case6 n c t hc ih =>
    obtain ⟨m, rfl⟩ := Nat.exists_eq_succ_of_ne_zero (Nat.ne_zero_of_lt hm)
    simp only [List.length_cons] at hn hm
    rw [expandAux.eq_5 _ _ _ _ hc, @ih m (by omega) (by omega)]

theorem expandAux_eq (h : t.length ≤ n) : expandAux groups n t = expand groups t :=
  expandAux_bound h (Nat.le_refl _)

@[simp] theorem expand_nil : expand groups [] = [] := rfl

theorem expand_char (hc : c ≠ '$') : expand groups (c :: t) = c :: expand groups t :=
  expandAux.eq_5 _ _ _ _ hc

theorem expand_dollar : expand groups ('$' :: '$' :: t) = '$' :: expand groups t := by
  rw [expand, List.length_cons, expandAux, expandAux_eq (by simp)]

theorem expand_braced (hne : name ≠ []) (hname : ∀ c ∈ name, isNameChar c = true) :
    expand groups ('$' :: '\x7b' :: (name ++ '\x7d' :: t)) =
      (groups name).getD [] ++ expand groups t := by
  have hb : bracedName? ('\x7b' :: (name ++ '\x7d' :: t)) = some (name, t) :=
    bracedName?_eq_some.mpr ⟨rfl, hne, hname⟩
  have hlen : t.length ≤ ('\x7b' :: (name ++ '\x7d' :: t)).length := by
    simp only [List.length_cons, List.length_append]
    omega
  rw [expand, List.length_cons, expandAux.eq_4 _ _ _ (by simp), hb, Option.orElse_some]
  simp only [expandAux_eq hlen]

/-- A dollar sign that neither another one nor a name follows. -/
theorem expand_alone (hdollar : ∀ c ∈ t.head?, c ≠ '$') (hbraced : bracedName? t = none)
    (hplain : plainName? t = none) : expand groups ('$' :: t) = '$' :: expand groups t := by
  have hnot : ∀ r, t = '$' :: r → False := by
    rintro r rfl
    exact hdollar '$' rfl rfl
  rw [expand, List.length_cons, expandAux.eq_4 _ _ _ hnot, hbraced, Option.orElse_none, hplain]
  rfl

/-- A text stands for itself if its dollar signs are doubled. -/
theorem expand_literally (groups : GroupText) (t : Text) : expand groups (literally t) = t := by
  induction t with
  | nil => rfl
  | cons c t ih =>
    by_cases hc : c = '$'
    · subst hc
      exact expand_dollar.trans (congrArg _ ih)
    · have hcons : literally (c :: t) = c :: literally t := by simp [literally, hc]
      rw [hcons, expand_char hc, ih]

end Wikitext.Template
