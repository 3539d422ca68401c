import Wikitext.Mask.Placeholder

/-!
# Reading placeholders

The placeholders of a text are the places where four opening brackets, digits
and four closing brackets stand in a row, with the letter of the broad mask
before the digits. No two such places overlap, so the scan from left to right
finds all of them (`hasPlaceholder_iff`), and two texts can be read apart if no
placeholder lies across their border (`parts_append`). None lies across the
border if one of the two characters there cannot belong to a placeholder, or
if the second text begins with a placeholder itself.
-/

namespace Wikitext.Mask

/-- One or more digits. -/
def IsIndex (ds : Text) : Prop := ds ≠ [] ∧ ∀ d ∈ ds, Chars.isAsciiDigit d = true

/-- The placeholder with the digits `ds`. -/
def written (kind : Kind) (ds : Text) : Text := opening ++ kind.tag ++ ds ++ closing

/-- The characters of placeholders. -/
def marks : List Char := ['⌊', '⌋', 'M', '0', '1', '2', '3', '4', '5', '6', '7', '8', '9']

theorem isIndex_ofNat (n : Nat) : IsIndex (Text.ofNat n) :=
  ⟨Text.ofNat_ne_nil n, fun _ => Text.isAsciiDigit_of_mem_ofNat⟩

theorem mem_marks_of_isAsciiDigit {d : Char} (h : Chars.isAsciiDigit d = true) : d ∈ marks := by
  simp only [Chars.isAsciiDigit, Bool.and_eq_true, decide_eq_true_eq] at h
  have hlo : 48 ≤ d.toNat := h.1
  have hhi : d.toNat ≤ 57 := h.2
  have hn : d.toNat ∈ List.range' 48 10 := by
    rw [List.mem_range'_1]
    omega
  have hall : ∀ n ∈ List.range' 48 10, Char.ofNat n ∈ marks := by decide
  simpa using hall _ hn

theorem mem_marks_of_mem_written (hi : IsIndex ds) (h : x ∈ written kind ds) : x ∈ marks := by
  simp only [written, opening, closing, List.mem_append, List.mem_replicate] at h
  rcases h with ((h | h) | h) | h
  · simp [h.2, marks]
  · cases kind <;> simp_all [Kind.tag, marks]
  · exact mem_marks_of_isAsciiDigit (hi.2 x h)
  · simp [h.2, marks]

/-- What stands behind the opening brackets is not empty and has no opening bracket. -/
theorem written_eq (kind : Kind) (hi : IsIndex ds) :
    ∃ x tail, written kind ds = '⌊' :: '⌊' :: '⌊' :: '⌊' :: x :: tail ∧
      x ≠ '⌊' ∧ '⌊' ∉ tail := by
  have hd : '⌊' ∉ ds := fun h => absurd (hi.2 _ h) (by decide)
  have hc : '⌊' ∉ closing := by decide
  cases kind with
  | plain =>
    obtain ⟨d, ds, rfl⟩ := List.exists_cons_of_ne_nil hi.1
    simp only [List.mem_cons, not_or] at hd
    exact ⟨d, ds ++ closing, rfl, Ne.symm hd.1, by simp [hd.2, hc]⟩
  | broad => exact ⟨'M', ds ++ closing, rfl, by decide, by simp [hd, hc]⟩

-- -----------------------------------------------------------------------------------------
-- Reading one placeholder
-- -----------------------------------------------------------------------------------------

theorem takeWhile_closing (hi : IsIndex ds) (rest : Text) :
    (ds ++ (closing ++ rest)).takeWhile Chars.isAsciiDigit = ds ∧
      (ds ++ (closing ++ rest)).dropWhile Chars.isAsciiDigit = closing ++ rest := by
  have hc : Chars.isAsciiDigit '⌋' = false := by decide
  have ht : (closing ++ rest).takeWhile Chars.isAsciiDigit = [] := by
    simp [closing, List.replicate_succ, hc]
  have hd : (closing ++ rest).dropWhile Chars.isAsciiDigit = closing ++ rest := by
    simp [closing, List.replicate_succ, hc]
  rw [List.takeWhile_append_of_pos hi.2, List.dropWhile_append_of_pos hi.2, ht, hd]
  simp

theorem readPlaceholder?_written (kind : Kind) (hi : IsIndex ds) (rest : Text) :
    readPlaceholder? kind (written kind ds ++ rest) =
      some (Text.numberOfDigits 10 ds, rest) := by
  have hp : Text.dropPrefix? (opening ++ kind.tag) (written kind ds ++ rest) =
      some (ds ++ (closing ++ rest)) :=
    Text.dropPrefix?_eq_some.mpr (by simp [written])
  obtain ⟨ht, hd⟩ := takeWhile_closing hi rest
  have hr : Text.dropPrefix? closing (closing ++ rest) = some rest :=
    Text.dropPrefix?_eq_some.mpr rfl
  simp only [readPlaceholder?, Option.bind_eq_bind, hp, Option.bind_some, ht, hd, hr]
  rw [if_neg]
  simpa using hi.1

theorem readPlaceholder?_eq_some (h : readPlaceholder? kind t = some (i, rest)) :
    ∃ ds, IsIndex ds ∧ t = written kind ds ++ rest ∧ i = Text.numberOfDigits 10 ds := by
  simp only [readPlaceholder?, Option.bind_eq_bind, Option.bind_eq_some_iff] at h
  obtain ⟨u, hu, v, hv, h⟩ := h
  rw [Text.dropPrefix?_eq_some] at hu hv
  split at h
  · cases h
  · rename_i hne
    cases h
    refine ⟨u.takeWhile Chars.isAsciiDigit, ⟨by simpa using hne, ?_⟩, ?_, rfl⟩
    · exact List.all_eq_true.mp List.all_takeWhile
    · have hs := List.takeWhile_append_dropWhile (p := Chars.isAsciiDigit) (l := u)
      rw [hv] at hs
      rw [hu]
      simp [written, hs]

theorem parts_of_read (h : readPlaceholder? kind t = some (i, rest)) :
    parts kind t = .placeholder i :: parts kind rest := by
  cases t with
  | nil => simp [readPlaceholder?, Text.dropPrefix?, opening] at h
  | cons c cs =>
    rw [parts]
    split
    · simp_all
    · simp_all

theorem parts_of_not_read (h : readPlaceholder? kind (c :: cs) = none) :
    parts kind (c :: cs) = .char c :: parts kind cs := by
  rw [parts]
  split
  · simp_all
  · rfl

@[simp] theorem parts_nil : parts kind [] = [] := by rw [parts]

theorem parts_written (kind : Kind) (hi : IsIndex ds) (rest : Text) :
    parts kind (written kind ds ++ rest) =
      .placeholder (Text.numberOfDigits 10 ds) :: parts kind rest :=
  parts_of_read (readPlaceholder?_written kind hi rest)

-- -----------------------------------------------------------------------------------------
-- Reading two texts apart
-- -----------------------------------------------------------------------------------------

/-- A placeholder lies across the border of two texts. -/
def Straddles (kind : Kind) (u v : Text) : Prop :=
  ∃ a b ds, a ≠ [] ∧ b ≠ [] ∧ IsIndex ds ∧ a ++ b = written kind ds ∧ a <:+ u ∧ b <+: v

/-- One of the two characters at the border, if they exist, cannot belong to a placeholder. -/
def Border (u v : Text) : Prop := (∃ x ∈ u.getLast?, x ∉ marks) ∨ ∀ x ∈ v.head?, x ∉ marks

theorem Border.not_straddles (h : Border u v) : ¬ Straddles kind u v := by
  rintro ⟨a, b, ds, ha, hb, hi, hab, ⟨u', rfl⟩, ⟨v', rfl⟩⟩
  rcases h with ⟨x, hx, hn⟩ | h
  · have hl : a.getLast? = some (a.getLast ha) := List.getLast?_eq_some_getLast ha
    obtain rfl : a.getLast ha = x := by simpa [List.getLast?_append, hl] using hx
    have hm : a.getLast ha ∈ a ++ b := List.mem_append_left _ (List.getLast_mem ha)
    rw [hab] at hm
    exact hn (mem_marks_of_mem_written hi hm)
  · obtain ⟨x, b, rfl⟩ := List.exists_cons_of_ne_nil hb
    have hm : x ∈ a ++ x :: b := by simp
    rw [hab] at hm
    exact h x rfl (mem_marks_of_mem_written hi hm)

/-- The brackets that open a placeholder belong to no placeholder that begins before it. -/
theorem not_straddles_written (hi : IsIndex ds) : ¬ Straddles kind u (written kind ds ++ v) := by
  rintro ⟨a, b, es, ha, hb, he, hab, -, hbv⟩
  obtain ⟨x, tail, hes, hx, htail⟩ := written_eq kind he
  obtain ⟨y, tail', hds, -, -⟩ := written_eq kind hi
  rw [hes] at hab
  rw [hds] at hbv
  match a, ha with
  | [_], _ => simp_all
  | [_, _], _ => simp_all
  | [_, _, _], _ => simp_all
  | [_, _, _, _], _ => simp_all
  | _ :: _ :: _ :: _ :: _ :: a, _ =>
    obtain ⟨z, b, rfl⟩ := List.exists_cons_of_ne_nil hb
    have hz : z = '⌊' := by
      simp only [List.cons_append, List.cons_prefix_cons] at hbv
      exact hbv.1
    simp only [List.cons_append, List.cons.injEq] at hab
    exact htail (by rw [← hab.2.2.2.2.2, hz]; simp)

theorem readPlaceholder?_of_append (h : readPlaceholder? kind (u ++ v) = none) :
    readPlaceholder? kind u = none := by
  cases hu : readPlaceholder? kind u with
  | none => rfl
  | some r =>
    obtain ⟨ds, hi, ht, -⟩ := readPlaceholder?_eq_some hu
    rw [ht, List.append_assoc, readPlaceholder?_written kind hi] at h
    cases h

/-- A placeholder that begins in the first text ends there. -/
theorem written_of_append (h : ¬ Straddles kind u v) (hu : u ≠ [])
    (hr : readPlaceholder? kind (u ++ v) = some r) :
    ∃ ds e, IsIndex ds ∧ u = written kind ds ++ e := by
  obtain ⟨ds, hi, ht, -⟩ := readPlaceholder?_eq_some hr
  rcases List.append_eq_append_iff.mp ht with ⟨e, he, hv⟩ | ⟨e, he, -⟩
  · cases e with
    | nil => exact ⟨ds, [], hi, by simpa using he.symm⟩
    | cons x e =>
      have hfront : x :: e <+: v := hv ▸ List.prefix_append _ _
      exact absurd ⟨u, x :: e, ds, hu, by simp, hi, he.symm, List.suffix_rfl, hfront⟩ h
  · exact ⟨ds, e, hi, he⟩

/-- By induction on the first text, along the scan. -/
theorem parts_append (h : ¬ Straddles kind u v) :
    parts kind (u ++ v) = parts kind u ++ parts kind v := by
  induction hn : u.length using Nat.strongRecOn generalizing u with
  | _ n ih =>
    subst hn
    have ih' : ∀ u', u' <:+ u → u'.length < u.length →
        parts kind (u' ++ v) = parts kind u' ++ parts kind v := by
      intro u' hs hlt
      refine ih _ hlt ?_ rfl
      rintro ⟨a, b, ds, ha, hb, hi, hab, hau, hbv⟩
      exact h ⟨a, b, ds, ha, hb, hi, hab, hau.trans hs, hbv⟩
    cases u with
    | nil => simp
    | cons c u =>
      cases hr : readPlaceholder? kind (c :: u ++ v) with
      | none =>
        rw [parts_of_not_read (readPlaceholder?_of_append hr), List.cons_append, List.cons_append]
        rw [List.cons_append] at hr
        rw [parts_of_not_read hr, ih' u (List.suffix_cons c u) (by simp)]
      | some r =>
        obtain ⟨ds, e, hi, he⟩ := written_of_append h (List.cons_ne_nil c u) hr
        have hlt : e.length < (c :: u).length := by
          obtain ⟨x, tail, hds, -⟩ := written_eq kind hi
          simp [he, hds]
          omega
        rw [he, List.append_assoc, parts_written kind hi, parts_written kind hi,
          ih' e (he ▸ List.suffix_append _ _) hlt, List.cons_append]

theorem parts_append_written (kind : Kind) (hi : IsIndex ds) (u v : Text) :
    parts kind (u ++ (written kind ds ++ v)) =
      parts kind u ++ .placeholder (Text.numberOfDigits 10 ds) :: parts kind v := by
  rw [parts_append (not_straddles_written hi), parts_written kind hi]

theorem parts_append_placeholder (kind : Kind) (n : Nat) (u v : Text) :
    parts kind (u ++ (placeholder kind n ++ v)) =
      parts kind u ++ .placeholder n :: parts kind v := by
  have h := parts_append_written kind (isIndex_ofNat n) u v
  rwa [Text.numberOfDigits_ofNat] at h

-- -----------------------------------------------------------------------------------------
-- Texts without placeholders
-- -----------------------------------------------------------------------------------------

/-- Somewhere in the text stands a placeholder. -/
def Contains (kind : Kind) (t : Text) : Prop :=
  ∃ u ds v, IsIndex ds ∧ t = u ++ written kind ds ++ v

theorem Contains.of_infix (h : Contains kind t) (ht : t <:+: u) : Contains kind u := by
  obtain ⟨a, ds, b, hi, rfl⟩ := h
  obtain ⟨x, y, rfl⟩ := ht
  exact ⟨x ++ a, ds, b ++ y, hi, by simp⟩

theorem hasPlaceholder_iff : hasPlaceholder kind t = true ↔ Contains kind t := by
  constructor
  · intro h
    induction t using parts.induct kind with
    | case1 => simp [hasPlaceholder] at h
    | case2 c cs i rest hr _ =>
      obtain ⟨ds, hi, ht, -⟩ := readPlaceholder?_eq_some hr
      exact ⟨[], ds, rest, hi, by simpa using ht⟩
    | case3 c cs hr ih =>
      rw [hasPlaceholder, parts_of_not_read hr] at h
      obtain ⟨u, ds, v, hi, rfl⟩ := ih (by simpa [hasPlaceholder] using h)
      exact ⟨c :: u, ds, v, hi, by simp⟩
  · rintro ⟨u, ds, v, hi, rfl⟩
    rw [hasPlaceholder, List.append_assoc, parts_append_written kind hi]
    simp

theorem parts_eq_map (h : ¬ Contains kind t) : parts kind t = t.map .char := by
  rw [← hasPlaceholder_iff] at h
  induction t using parts.induct kind with
  | case1 => simp
  | case2 c cs i rest hr _ => simp [hasPlaceholder, parts_of_read hr] at h
  | case3 c cs hr ih =>
    rw [hasPlaceholder, parts_of_not_read hr] at h
    rw [parts_of_not_read hr, List.map_cons, ih (by simpa [hasPlaceholder] using h)]

end Wikitext.Mask
