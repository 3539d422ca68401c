import Wikitext.Proofs.Pattern.Expansion
import Wikitext.Proofs.Pattern.Pieces
import Wikitext.Proofs.Text.Number
import Wikitext.Rule.Basic

/-!
# What a replacement stands for

`Template.Reads` says how a replacement is read from left to right: references to groups by number
or by name, doubled dollar signs, and all else as it stands. `unambiguous_reads`: there is one such
reading, and the template made of a replacement, filled in from a match, gives what the reading
says. A name counts before a number, also where the reference is a number: a pattern can name its
first group `2`, and `$2` is that group then (`expand_numberAsName`).
-/

namespace Wikitext.Template

open Chars (isAsciiDigit)

-- -----------------------------------------------------------------------------------------
-- The reading
-- -----------------------------------------------------------------------------------------

inductive Part
  | char (c : Char)
  | numbered (digits : Text)
  | named (name : Text)

/-- The text `t` after a dollar sign completes a part, and `r` follows. -/
inductive Refers : Text → Part → Text → Prop
  | numbered : ds ≠ [] → (∀ d ∈ ds, isAsciiDigit d = true) →
      (∀ c ∈ r.head?, isAsciiDigit c = false) → Refers (ds ++ r) (.numbered ds) r
  | named : name ≠ [] → (∀ c ∈ name, isNameChar c = true) →
      Refers ('\x7b' :: (name ++ '\x7d' :: r)) (.named name) r
  | dollar : Refers ('$' :: r) (.char '$') r

/-- The parts of a replacement, from left to right. -/
inductive Reads : Text → List Part → Prop
  | nil : Reads [] []
  | reference : Refers t p r → Reads r ps → Reads ('$' :: t) (p :: ps)
  | alone : (∀ p r, ¬ Refers t p r) → Reads t ps → Reads ('$' :: t) (.char '$' :: ps)
  | char : c ≠ '$' → Reads t ps → Reads (c :: t) (.char c :: ps)

/-- What a part stands for after a match: for a reference, the group of that name, or else the one
of that number, or else nothing. A group that took no part counts as none. -/
def Part.text (names : List (Text × Nat)) (m : Match) : Part → Text
  | .char c => [c]
  | .numbered digits =>
    (((names.lookup digits).bind m.group?).or (m.group? (Text.numberOfDigits 10 digits))).getD []
  | .named name =>
    (((names.lookup name).bind m.group?).or ((Text.number? 10 name).bind m.group?)).getD []

-- -----------------------------------------------------------------------------------------
-- References
-- -----------------------------------------------------------------------------------------

theorem isNameChar_of_isAsciiDigit (h : isAsciiDigit c = true) : isNameChar c = true := by
  have hc : c.toNat < 0x80 := by
    have h9 : c.toNat ≤ '9'.toNat := by
      simp only [isAsciiDigit, Bool.and_eq_true, decide_eq_true_eq] at h
      exact h.2
    exact Nat.lt_of_le_of_lt h9 (by decide)
  simp [isNameChar, Chars.isAlphanumeric, Chars.isAsciiAlphanumeric, hc, h]

namespace Refers

theorem length_le (h : Refers t p r) : r.length ≤ t.length := by
  cases h with
  | numbered => simp
  | named => simp; omega
  | dollar => simp

theorem digits_append_ne (hne : ds ≠ []) (hds : ∀ d ∈ ds, isAsciiDigit d = true)
    (hx : isAsciiDigit x = false) : ds ++ r ≠ x :: t := by
  obtain ⟨d, ds, rfl⟩ := List.exists_cons_of_ne_nil hne
  intro h
  obtain rfl := (List.cons.inj h).1
  exact absurd (hds d List.mem_cons_self) (by simp [hx])

/-- The first character tells the kinds of references apart, and the characters that a name or a
number may have tell where it ends. -/
theorem unique (h : Refers t p r) (h' : Refers t q s) : p = q ∧ r = s := by
  cases h with
  | @numbered ds r hne hds hr =>
    generalize ht : ds ++ r = t at h'
    cases h' with
    | @numbered es s _ hes hs =>
      obtain ⟨hdigits, hrest⟩ := Text.append_inj_of_stop hds hr hes hs ht
      exact ⟨congrArg _ hdigits, hrest⟩
    | named => exact absurd ht (digits_append_ne hne hds (by decide))
    | dollar => exact absurd ht (digits_append_ne hne hds (by decide))
  | @named name r hne hname =>
    generalize ht : '\x7b' :: (name ++ '\x7d' :: r) = t at h'
    cases h' with
    | numbered hes hdigits => exact absurd ht.symm (digits_append_ne hes hdigits (by decide))
    | @named name' s hne' hname' =>
      have hfound := bracedName?_eq_some.mpr ⟨ht.symm, hne, hname⟩
      rw [bracedName?_eq_some.mpr ⟨rfl, hne', hname'⟩] at hfound
      obtain ⟨rfl, rfl⟩ := Prod.mk.inj (Option.some.inj hfound)
      exact ⟨rfl, rfl⟩
    | dollar => cases ht
  | dollar =>
    generalize ht : '$' :: r = t at h'
    cases h' with
    | numbered hes hdigits => exact absurd ht.symm (digits_append_ne hes hdigits (by decide))
    | named => cases ht
    | dollar => exact ⟨rfl, (List.cons.inj ht).2⟩

end Refers

namespace Reads

theorem unique (h : Reads t ps) (h' : Reads t qs) : ps = qs := by
  induction h generalizing qs with
  | nil =>
    cases h'
    rfl
  | reference href _ ih =>
    cases h' with
    | reference href' h' =>
      obtain ⟨rfl, rfl⟩ := href.unique href'
      rw [ih h']
    | alone hnone => exact absurd href (hnone _ _)
    | char hc => exact absurd rfl hc
  | alone hnone _ ih =>
    cases h' with
    | reference href => exact absurd href (hnone _ _)
    | alone _ h' => rw [ih h']
    | char hc => exact absurd rfl hc
  | char hc _ ih =>
    cases h' with
    | reference => exact absurd rfl hc
    | alone => exact absurd rfl hc
    | char _ h' => rw [ih h']

/-- By induction on the length of what is still to be read. -/
theorem exists_parts (t : Text) : ∃ ps, Reads t ps := by
  induction hn : t.length using Nat.strongRecOn generalizing t with
  | _ n ih =>
    subst hn
    cases t with
    | nil => exact ⟨[], .nil⟩
    | cons c t =>
      have hnext : ∀ r : Text, r.length ≤ t.length → ∃ ps, Reads r ps := fun r hr =>
        ih r.length (Nat.lt_succ_of_le hr) r rfl
      obtain ⟨ps, hps⟩ := hnext t (Nat.le_refl _)
      by_cases hc : c = '$'
      · subst hc
        by_cases href : ∃ p r, Refers t p r
        · obtain ⟨p, r, href⟩ := href
          obtain ⟨qs, hqs⟩ := hnext r href.length_le
          exact ⟨p :: qs, .reference href hqs⟩
        · exact ⟨.char '$' :: ps, .alone (fun p r h => href ⟨p, r, h⟩) hps⟩
      · exact ⟨.char c :: ps, .char hc hps⟩

end Reads

-- -----------------------------------------------------------------------------------------
-- The template of a replacement
-- -----------------------------------------------------------------------------------------

theorem length_past_dollar_le (t : Text) :
    (if t.head? == some '$' then t.drop 1 else t).length ≤ t.length := by
  split
  · exact (List.drop_sublist _ _).length_le
  · exact Nat.le_refl _

/-- A bound that is high enough does not count. -/
theorem unambiguousAux_bound (hn : t.length ≤ n) (hm : t.length ≤ m) :
    unambiguousAux n t = unambiguousAux m t := by
  induction n generalizing t m with
  | zero =>
    obtain rfl := List.eq_nil_of_length_eq_zero (Nat.le_zero.mp hn)
    cases m <;> rfl
  | succ n ih =>
    cases t with
    | nil => cases m <;> rfl
    | cons c t =>
      obtain ⟨m, rfl⟩ := Nat.exists_eq_succ_of_ne_zero (Nat.ne_zero_of_lt hm)
      have hnext : ∀ {r : Text}, r.length ≤ t.length → unambiguousAux n r = unambiguousAux m r :=
        fun hr => ih (Nat.le_trans hr (Nat.le_of_succ_le_succ hn))
          (Nat.le_trans hr (Nat.le_of_succ_le_succ hm))
      by_cases hc : c = '$'
      · subst hc
        have hdigits := (List.drop_sublist (t.takeWhile isAsciiDigit).length t).length_le
        rw [unambiguousAux.eq_3, unambiguousAux.eq_3, hnext hdigits, hnext (Nat.le_refl _),
          hnext (length_past_dollar_le t)]
      · rw [unambiguousAux.eq_4 _ _ _ hc, unambiguousAux.eq_4 _ _ _ hc, hnext (Nat.le_refl _)]

theorem unambiguousAux_eq (h : t.length ≤ n) : unambiguousAux n t = unambiguous t :=
  unambiguousAux_bound h (Nat.le_refl _)

theorem unambiguous_char (hc : c ≠ '$') : unambiguous (c :: t) = c :: unambiguous t :=
  unambiguousAux.eq_4 _ _ _ hc

theorem unambiguous_append (hu : '$' ∉ u) (t : Text) :
    unambiguous (u ++ t) = u ++ unambiguous t := by
  induction u with
  | nil => rfl
  | cons c u ih =>
    obtain ⟨hc, hu⟩ := not_or.mp (hu ∘ List.mem_cons.mpr)
    rw [List.cons_append, unambiguous_char (Ne.symm hc), ih hu, List.cons_append]

/-- What a dollar sign becomes, by what stands behind it. -/
theorem unambiguous_dollar (t : Text) :
    unambiguous ('$' :: t) =
      if t.takeWhile isAsciiDigit ≠ [] then
        '$' :: '\x7b' ::
          (t.takeWhile isAsciiDigit ++ '\x7d' :: unambiguous (t.dropWhile isAsciiDigit))
      else if t.head? = some '\x7b' ∧ '\x7d' ∈ t then '$' :: unambiguous t
      else '$' :: '$' :: unambiguous (if t.head? = some '$' then t.drop 1 else t) := by
  have hdigits := (List.drop_sublist (t.takeWhile isAsciiDigit).length t).length_le
  rw [unambiguous, List.length_cons, unambiguousAux.eq_3, unambiguousAux_eq hdigits,
    unambiguousAux_eq (Nat.le_refl _), unambiguousAux_eq (length_past_dollar_le t),
    Text.drop_takeWhile]
  simp

/-- The template begins like the replacement up to the first dollar sign. -/
theorem append_of_unambiguous (h : unambiguous t = u ++ v) (hu : '$' ∉ u) : ∃ r, t = u ++ r := by
  induction u generalizing t with
  | nil => exact ⟨t, rfl⟩
  | cons c u ih =>
    rw [List.mem_cons, not_or] at hu
    cases t with
    | nil => cases h
    | cons x t =>
      have hx : x ≠ '$' := by
        rintro rfl
        rw [unambiguous_dollar] at h
        split_ifs at h <;> exact hu.1 (List.cons.inj h).1
      rw [unambiguous_char hx] at h
      obtain ⟨rfl, hrest⟩ := List.cons.inj h
      obtain ⟨r, rfl⟩ := ih hrest hu.2
      exact ⟨r, rfl⟩

theorem dollar_not_mem_name {name : Text} (hname : ∀ c ∈ name, isNameChar c = true) :
    '$' ∉ name := fun h => absurd (hname '$' h) (by decide)

/-- No name in braces comes about where there was none. -/
theorem bracedName?_unambiguous (h : bracedName? t = none) :
    bracedName? (unambiguous t) = none := by
  rw [Option.eq_none_iff_forall_ne_some]
  rintro ⟨name, rest⟩ hfound
  obtain ⟨heq, hne, hname⟩ := bracedName?_eq_some.mp hfound
  have hsplit : unambiguous t = '\x7b' :: (name ++ ['\x7d']) ++ rest := by simp [heq]
  obtain ⟨r, rfl⟩ := append_of_unambiguous hsplit (by simp [dollar_not_mem_name hname])
  have hbraced : bracedName? ('\x7b' :: (name ++ ['\x7d']) ++ r) = some (name, r) :=
    bracedName?_eq_some.mpr ⟨by simp, hne, hname⟩
  rw [h] at hbraced
  cases hbraced

-- -----------------------------------------------------------------------------------------
-- The template filled in
-- -----------------------------------------------------------------------------------------

variable {names : List (Text × Nat)} {m : Match}

theorem expand_reference (h : Refers t p r) :
    expand (groupText names m) (unambiguous ('$' :: t)) =
      p.text names m ++ expand (groupText names m) (unambiguous r) := by
  rw [unambiguous_dollar]
  cases h with
  | @numbered ds r hne hds hr =>
    have hnumber := Text.number?_of_digits hne hds
    have hname : ∀ d ∈ ds, isNameChar d = true := fun d hd => isNameChar_of_isAsciiDigit (hds d hd)
    rw [Text.takeWhile_append_stop hds hr, Text.dropWhile_append_stop hds hr, if_pos hne,
      expand_braced hne hname, Part.text, groupText, hnumber, Option.bind_some]
  | @named name r hne hname =>
    have hbrace : '\x7b' :: (name ++ '\x7d' :: r) = '\x7b' :: (name ++ ['\x7d']) ++ r := by simp
    have hbegin : '$' ∉ '\x7b' :: (name ++ ['\x7d']) := by simp [dollar_not_mem_name hname]
    rw [if_neg (by simp; decide), if_pos (by simp), hbrace, unambiguous_append hbegin]
    exact (congrArg _ (by simp)).trans (expand_braced hne hname)
  | @dollar r =>
    have hhead : ('$' :: r).head? = some '$' := rfl
    rw [if_neg (by simp; decide), if_neg (by simp), if_pos hhead]
    exact expand_dollar

theorem expand_noReference (h : ∀ p r, ¬ Refers t p r) :
    expand (groupText names m) (unambiguous ('$' :: t)) =
      '$' :: expand (groupText names m) (unambiguous t) := by
  have hdigits : t.takeWhile isAsciiDigit = [] := by
    by_contra hne
    have href : Refers (t.takeWhile isAsciiDigit ++ t.dropWhile isAsciiDigit) _ _ :=
      .numbered hne (fun _ => List.mem_takeWhile_imp) (Text.head_dropWhile isAsciiDigit t)
    rw [List.takeWhile_append_dropWhile] at href
    exact h _ _ href
  have hdollar : t.head? ≠ some '$' := by
    intro hhead
    obtain ⟨r, rfl⟩ := List.head?_eq_some_iff.mp hhead
    exact h _ _ .dollar
  have hbraced : bracedName? t = none := by
    rw [Option.eq_none_iff_forall_ne_some]
    rintro ⟨name, rest⟩ hfound
    obtain ⟨rfl, hne, hname⟩ := bracedName?_eq_some.mp hfound
    exact h _ _ (.named hne hname)
  rw [unambiguous_dollar, if_neg (by simpa using hdigits), if_neg hdollar]
  split_ifs with hopen
  · obtain ⟨r, rfl⟩ := List.head?_eq_some_iff.mp hopen.1
    rw [unambiguous_char (by decide)]
    refine expand_alone (by simp) ?_ (plainName?_eq_none.mpr (by simp; decide))
    rw [← unambiguous_char (by decide)]
    exact bracedName?_unambiguous hbraced
  · exact expand_dollar

/-- By induction on the reading. -/
theorem expand_unambiguous (h : Reads t ps) :
    expand (groupText names m) (unambiguous t) = ps.flatMap (Part.text names m) := by
  induction h with
  | nil => rfl
  | reference href _ ih => rw [expand_reference href, ih, List.flatMap_cons]
  | alone hnone _ ih =>
    rw [expand_noReference hnone, ih]
    rfl
  | char hc _ ih =>
    rw [unambiguous_char hc, expand_char hc, ih]
    rfl

/-- A replacement can be read in one way, and what is put in the place of a match is what its parts
stand for. -/
theorem unambiguous_reads (names : List (Text × Nat)) (m : Match) (t : Text) :
    ∃ ps, Reads t ps ∧ (∀ qs, Reads t qs → qs = ps) ∧
      expand (groupText names m) (unambiguous t) = ps.flatMap (Part.text names m) := by
  obtain ⟨ps, hps⟩ := Reads.exists_parts t
  exact ⟨ps, hps, fun _ hqs => hqs.unique hps, expand_unambiguous hps⟩

-- -----------------------------------------------------------------------------------------
-- A name that is a number
-- -----------------------------------------------------------------------------------------

/-- A pattern whose first group has the name `2`. -/
def numberAsName : Text := "(?<2>a)(b)".toList

/-- The reference to a number is no reference to the group with that number if another group has it
for a name. -/
theorem expand_numberAsName :
    ∃ e pieces m, Expression.read numberAsName = .ok e ∧ e.pieces? "ab".toList = some pieces ∧
      hits pieces = [m] ∧ Reads "$2".toList [.numbered "2".toList] ∧
      m.group? (Text.numberOfDigits 10 "2".toList) = some "b".toList ∧
      expand (groupText e.names m) (unambiguous "$2".toList) = "a".toList := by
  have hrun : ((Expression.read numberAsName).toOption.bind fun e =>
      (e.pieces? "ab".toList).map fun pieces => (hits pieces).map fun m =>
        (m.group? 2, expand (groupText e.names m) (unambiguous "$2".toList))) =
      some [(some "b".toList, "a".toList)] := by
    decide +kernel
  have hread : Reads "$2".toList [.numbered "2".toList] :=
    .reference (@Refers.numbered "2".toList [] (by decide) (List.all_eq_true.mp (by decide))
      (by simp)) .nil
  cases he : Expression.read numberAsName with
  | error _ => simp only [he, Except.toOption, Option.bind_none, reduceCtorEq] at hrun
  | ok e =>
    cases hp : e.pieces? "ab".toList with
    | none =>
      simp only [he, hp, Except.toOption, Option.bind_some, Option.map_none, reduceCtorEq] at hrun
    | some pieces =>
      simp only [he, hp, Except.toOption, Option.bind_some, Option.map_some, Option.some.injEq,
        List.map_eq_singleton_iff, Prod.mk.injEq] at hrun
      obtain ⟨m, hm, hgroup, hexpand⟩ := hrun
      exact ⟨e, pieces, m, rfl, hp, hm, hread, hgroup, hexpand⟩

end Wikitext.Template
