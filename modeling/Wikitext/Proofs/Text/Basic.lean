import Wikitext.Text.Basic
import Mathlib.Data.List.DropRight
import Mathlib.Data.List.TakeWhile

/-!
# Laws of plain texts

A part of one kind of characters ends in front of the first of another kind. A
trimmed text has nothing left to trim. Cutting a text at a piece gives the parts
between its occurrences (`divides_cut`). A text cut at a character has parts
without it, and a text put together with that character in between is cut into
its parts again.
-/

namespace Wikitext.Text

-- -----------------------------------------------------------------------------------------
-- Parts of one kind
-- -----------------------------------------------------------------------------------------

theorem takeWhile_append_stop {p : α → Bool} {l r : List α} (hl : ∀ x ∈ l, p x = true)
    (hr : ∀ x ∈ r.head?, p x = false) : (l ++ r).takeWhile p = l := by
  rw [List.takeWhile_append_of_pos hl]
  cases r with
  | nil => exact List.append_nil l
  | cons x r => simp [hr x rfl]

theorem dropWhile_append_stop {p : α → Bool} {l r : List α} (hl : ∀ x ∈ l, p x = true)
    (hr : ∀ x ∈ r.head?, p x = false) : (l ++ r).dropWhile p = r := by
  rw [List.dropWhile_append_of_pos hl]
  cases r with
  | nil => rfl
  | cons x r => simp [hr x rfl]

/-- Characters of one kind end where another one comes. -/
theorem append_inj_of_stop {p : α → Bool} {l l' r r' : List α} (hl : ∀ x ∈ l, p x = true)
    (hr : ∀ x ∈ r.head?, p x = false) (hl' : ∀ x ∈ l', p x = true)
    (hr' : ∀ x ∈ r'.head?, p x = false) (h : l ++ r = l' ++ r') : l = l' ∧ r = r' := by
  have htake := congrArg (List.takeWhile p) h
  rw [takeWhile_append_stop hl hr, takeWhile_append_stop hl' hr'] at htake
  subst htake
  exact ⟨rfl, List.append_cancel_left h⟩

theorem drop_takeWhile (p : α → Bool) (l : List α) :
    l.drop (l.takeWhile p).length = l.dropWhile p :=
  calc l.drop (l.takeWhile p).length
      = (l.takeWhile p ++ l.dropWhile p).drop (l.takeWhile p).length := by
        rw [List.takeWhile_append_dropWhile]
    _ = l.dropWhile p := List.drop_left

theorem head_dropWhile (p : α → Bool) (l : List α) : ∀ x ∈ (l.dropWhile p).head?, p x = false := by
  intro x hx
  have hhead := List.head?_dropWhile_not p l
  rwa [hx] at hhead

-- -----------------------------------------------------------------------------------------
-- Lines
-- -----------------------------------------------------------------------------------------

theorem lineStart_le (t : Text) (i : Nat) : lineStart t i ≤ i := Nat.sub_le _ _

/-- A text up to a position is cut where the line begins. -/
theorem take_eq_append_line (h : i ≤ t.length) : ∃ front line, t.take i = front ++ line ∧
    lineStart t i = front.length ∧ '\n' ∉ line ∧ ∀ c ∈ front.getLast?, c = '\n' := by
  have hsplit := List.takeWhile_append_dropWhile (p := (· != '\n')) (l := (t.take i).reverse)
  have hlast := head_dropWhile (· != '\n') (t.take i).reverse
  have hline : '\n' ∉ (t.take i).reverse.takeWhile (· != '\n') := fun hmem => by
    simpa using List.mem_takeWhile_imp hmem
  have hlen := congrArg List.length hsplit
  rw [lineStart]
  generalize (t.take i).reverse.takeWhile (· != '\n') = line at hsplit hlen hline ⊢
  generalize (t.take i).reverse.dropWhile (· != '\n') = front at hsplit hlen hlast
  rw [List.length_append, List.length_reverse, List.length_take, Nat.min_eq_left h] at hlen
  refine ⟨front.reverse, line.reverse, ?_, ?_, by simpa using hline, fun c hc => ?_⟩
  · rw [← List.reverse_append, hsplit, List.reverse_reverse]
  · rw [List.length_reverse]
    omega
  · rw [List.getLast?_reverse] at hc
    simpa using hlast c hc

theorem lineStart_cases (t : Text) (h : i ≤ t.length) :
    lineStart t i = 0 ∨ ∃ u, t.take (lineStart t i) = u ++ ['\n'] := by
  obtain ⟨front, line, htake, hstart, -, hfeed⟩ := take_eq_append_line h
  rcases List.eq_nil_or_concat front with rfl | ⟨u, c, rfl⟩
  · exact .inl hstart
  · obtain rfl : c = '\n' := hfeed c (by simp)
    refine .inr ⟨u, ?_⟩
    have hle := lineStart_le t i
    rw [← Nat.min_eq_left hle, ← List.take_take, htake, hstart, List.take_left, List.concat_eq_append]

-- -----------------------------------------------------------------------------------------
-- Trimming
-- -----------------------------------------------------------------------------------------

theorem trimStart_of_not_blank (h : ∀ c ∈ t.head?, Chars.isBlank c = false) : trimStart t = t := by
  cases t with
  | nil => rfl
  | cons c t => simp [trimStart, h c rfl]

theorem trimEnd_of_not_blank (h : ∀ c ∈ t.getLast?, Chars.isBlank c = false) : trimEnd t = t := by
  have hrev : trimStart t.reverse = t.reverse :=
    trimStart_of_not_blank fun c hc => h c (by rwa [List.head?_reverse] at hc)
  rw [trimEnd, ← trimStart, hrev, List.reverse_reverse]

theorem trim_of_not_blank (h : ∀ c ∈ t, Chars.isBlank c = false) : trim t = t := by
  rw [trim, trimStart_of_not_blank fun c hc => h c (List.mem_of_mem_head? hc),
    trimEnd_of_not_blank fun c hc => h c (List.mem_of_getLast? hc)]

theorem trimEnd_isPrefix (t : Text) : trimEnd t <+: t := List.rdropWhile_prefix Chars.isBlank t

/-- A text that has no blank at its start has none there without its end either. -/
theorem trimStart_of_prefix (hp : u <+: t) (ht : trimStart t = t) : trimStart u = u := by
  rw [trimStart, List.dropWhile_eq_self_iff] at ht ⊢
  intro hu
  rw [hp.getElem hu]
  exact ht (Nat.lt_of_lt_of_le hu hp.length_le)

theorem trim_trim (t : Text) : trim (trim t) = trim t := by
  have hstart : trimStart (trim t) = trim t :=
    trimStart_of_prefix (trimEnd_isPrefix _) (List.dropWhile_idempotent Chars.isBlank t)
  rw [trim, hstart]
  exact List.rdropWhile_idempotent Chars.isBlank (trimStart t)

theorem dropSuffix?_eq_some : dropSuffix? p t = some u ↔ t = u ++ p := by
  simp only [dropSuffix?, Option.map_eq_some_iff, dropPrefix?_eq_some]
  constructor
  · rintro ⟨rest, hrest, rfl⟩
    rw [← List.reverse_reverse t, hrest]
    simp
  · rintro rfl
    exact ⟨u.reverse, by simp, by simp⟩

-- -----------------------------------------------------------------------------------------
-- Cutting at a piece
-- -----------------------------------------------------------------------------------------

theorem startsWith_iff : startsWith t piece = true ↔ piece <+: t := by
  simp only [startsWith, Option.isSome_iff_exists, dropPrefix?_eq_some]
  exact ⟨fun ⟨r, h⟩ => ⟨r, h.symm⟩, fun ⟨r, h⟩ => ⟨r, h.symm⟩⟩

theorem cutAux_skip (piece : Text) (n : Nat) (t : Text) :
    cutAux piece n t = cutAux piece 0 (t.drop n) := by
  induction n generalizing t with
  | zero => rfl
  | succ n ih =>
    cases t with
    | nil => rfl
    | cons c t => exact ih t

variable {piece : Text}

theorem cut_eq (hpiece : piece ≠ []) (t : Text) :
    cut piece t = (cutAux piece 0 t).1 :: (cutAux piece 0 t).2 := by
  cases piece with
  | nil => exact absurd rfl hpiece
  | cons _ _ => rfl

theorem exists_cut (hpiece : piece ≠ []) (t : Text) : ∃ part parts, cut piece t = part :: parts :=
  ⟨_, _, cut_eq hpiece t⟩

theorem cut_nil (hpiece : piece ≠ []) : cut piece [] = [[]] := cut_eq hpiece []

/-- A piece at the start ends the first part there. -/
theorem cut_piece (hpiece : piece ≠ []) (t : Text) :
    cut piece (piece ++ t) = [] :: cut piece t := by
  obtain ⟨c, cs, rfl⟩ := List.exists_cons_of_ne_nil hpiece
  have hstarts : startsWith (c :: (cs ++ t)) (c :: cs) = true :=
    startsWith_iff.mpr (List.prefix_append (c :: cs) t)
  rw [cut_eq hpiece, cut_eq hpiece, List.cons_append, cutAux, if_pos hstarts, cutAux_skip]
  simp

/-- Where no piece begins, the next character belongs to the first part. -/
theorem cut_cons (hpiece : piece ≠ []) (hno : ¬ piece <+: c :: t)
    (ht : cut piece t = part :: parts) : cut piece (c :: t) = (c :: part) :: parts := by
  rw [cut_eq hpiece] at ht
  obtain ⟨rfl, rfl⟩ := List.cons.inj ht
  rw [cut_eq hpiece, cutAux, if_neg (startsWith_iff.not.mpr hno)]

theorem length_cut (hpiece : piece ≠ []) (t : Text) :
    (cut piece t).length = occurrences piece t + 1 := by
  obtain ⟨part, parts, h⟩ := exists_cut hpiece t
  simp [occurrences, h]

/-- The parts of a text between the occurrences of a piece, which are looked for from the left and
do not overlap: each begins right behind its part, and none begins any earlier (it would have to
end before the last character of the piece). -/
inductive Divides (piece : Text) : List Text → Text → Prop
  | last : ¬ piece <:+: part → Divides piece [part] part
  | cons : ¬ piece <:+: part ++ piece.dropLast → Divides piece parts t →
      Divides piece (part :: parts) (part ++ (piece ++ t))

/-- A character in front of which no piece begins belongs to the first part. -/
theorem Divides.cons_part (h : Divides piece (part :: parts) t) (hno : ¬ piece <+: c :: t) :
    Divides piece ((c :: part) :: parts) (c :: t) := by
  cases h with
  | last hpart => exact .last fun h => (List.infix_cons_iff.mp h).elim hno hpart
  | @cons _ _ t hpart h =>
    have hprefix : c :: (part ++ piece.dropLast) <+: c :: (part ++ (piece ++ t)) := by
      refine List.cons_prefix_cons.mpr ⟨rfl, (List.prefix_append_right_inj part).mpr ?_⟩
      exact piece.dropLast_prefix.trans (List.prefix_append piece t)
    refine .cons (fun hinfix => ?_) h
    rcases List.infix_cons_iff.mp hinfix with hbegins | hlater
    · exact hno (hbegins.trans hprefix)
    · exact hpart hlater

/-- The parts with the piece in between are the text again. -/
theorem Divides.join (h : Divides piece parts t) : join piece parts = t := by
  induction h with
  | last => rfl
  | @cons part _ _ _ h ih =>
    rw [← ih, ← List.append_assoc]
    cases h <;> rfl

theorem not_infix_dropLast (hpiece : piece ≠ []) : ¬ piece <:+: piece.dropLast := by
  intro h
  have hlength := h.length_le
  rw [List.length_dropLast] at hlength
  have hpos := List.length_pos_iff.mpr hpiece
  omega

theorem divides_cut (hpiece : piece ≠ []) (t : Text) : Divides piece (cut piece t) t := by
  induction hn : t.length using Nat.strongRecOn generalizing t with
  | _ n ih =>
    subst hn
    by_cases hstarts : piece <+: t
    · obtain ⟨r, rfl⟩ := hstarts
      have hshorter : r.length < (piece ++ r).length := by
        have hpos := List.length_pos_iff.mpr hpiece
        rw [List.length_append]
        omega
      have hpart : ¬ piece <:+: [] ++ piece.dropLast := not_infix_dropLast hpiece
      rw [cut_piece hpiece]
      exact .cons hpart (ih _ hshorter r rfl)
    · cases t with
      | nil =>
        rw [cut_nil hpiece]
        exact .last fun h => hpiece (List.infix_nil.mp h)
      | cons c t =>
        have ht := ih _ (Nat.lt_succ_self _) t rfl
        obtain ⟨part, parts, hcut⟩ := exists_cut hpiece t
        rw [hcut] at ht
        rw [cut_cons hpiece hstarts hcut]
        exact ht.cons_part hstarts

theorem Divides.isInfix_iff (h : Divides piece parts t) : piece <:+: t ↔ 1 < parts.length := by
  cases h with
  | last hno => exact iff_of_false hno (Nat.lt_irrefl 1)
  | @cons part parts t _ h =>
    have hinfix : piece <:+: part ++ (piece ++ t) := ⟨part, t, List.append_assoc part piece t⟩
    refine iff_of_true hinfix ?_
    cases h <;> simp

theorem join_cut (hpiece : piece ≠ []) (t : Text) : join piece (cut piece t) = t :=
  (divides_cut hpiece t).join

theorem occurrences_pos (hpiece : piece ≠ []) (t : Text) :
    0 < occurrences piece t ↔ piece <:+: t := by
  rw [(divides_cut hpiece t).isInfix_iff, occurrences, Nat.sub_pos_iff_lt]

-- -----------------------------------------------------------------------------------------
-- Cutting at a character
-- -----------------------------------------------------------------------------------------

theorem splitOn_nil (c : Char) : splitOn c [] = [[]] := rfl

theorem splitOn_cons_self (c : Char) (t : Text) : splitOn c (c :: t) = [] :: splitOn c t :=
  cut_piece (List.cons_ne_nil c []) t

theorem splitOn_cons_ne (hx : x ≠ c) (ht : splitOn c t = part :: parts) :
    splitOn c (x :: t) = (x :: part) :: parts :=
  cut_cons (List.cons_ne_nil c []) (by simp [hx.symm]) ht

theorem exists_splitOn (c : Char) (t : Text) : ∃ part parts, splitOn c t = part :: parts :=
  ⟨_, _, rfl⟩

theorem not_mem_of_mem_splitOn (hp : p ∈ splitOn c t) : c ∉ p := by
  induction t generalizing p with
  | nil => simp_all [splitOn_nil]
  | cons x t ih =>
    by_cases hx : x = c
    · rw [hx, splitOn_cons_self, List.mem_cons] at hp
      obtain rfl | hp := hp
      · exact List.not_mem_nil
      · exact ih hp
    · obtain ⟨part, parts, hsplit⟩ := exists_splitOn c t
      rw [splitOn_cons_ne hx hsplit, List.mem_cons] at hp
      rw [hsplit] at ih
      obtain rfl | hp := hp
      · exact List.not_mem_cons_of_ne_of_not_mem (Ne.symm hx) (ih List.mem_cons_self)
      · exact ih (List.mem_cons_of_mem _ hp)

/-- A text without the character belongs to the first part. -/
theorem splitOn_append (hp : c ∉ p) (ht : splitOn c t = part :: parts) :
    splitOn c (p ++ t) = (p ++ part) :: parts := by
  induction p with
  | nil => exact ht
  | cons x p ih =>
    obtain ⟨hx, hp⟩ := not_or.mp (hp ∘ List.mem_cons.mpr)
    exact splitOn_cons_ne (Ne.symm hx) (ih hp)

/-- Parts that each end with the character, and nothing behind the last. -/
theorem splitOn_of_not_mem (ht : c ∉ t) : splitOn c t = [t] := by
  simpa using splitOn_append ht (splitOn_nil c)

theorem splitOn_append_cons (c : Char) (x y : Text) :
    splitOn c (x ++ c :: y) = splitOn c x ++ splitOn c y := by
  induction x with
  | nil => exact splitOn_cons_self c y
  | cons d x ih =>
    by_cases hd : d = c
    · rw [hd, List.cons_append, splitOn_cons_self, splitOn_cons_self, ih, List.cons_append]
    · obtain ⟨part, parts, hx⟩ := exists_splitOn c x
      rw [hx, List.cons_append] at ih
      rw [List.cons_append, splitOn_cons_ne hd ih, splitOn_cons_ne hd hx, List.cons_append]

theorem join_cons (c : Char) (part : Text) (parts : List Text) :
    join [c] (part :: parts) = part ++ parts.flatMap (c :: ·) := by
  induction parts generalizing part with
  | nil => simp [join]
  | cons next parts ih => simp [join, ih]

theorem eq_of_splitOn (h : splitOn c t = part :: parts) : t = part ++ parts.flatMap (c :: ·) := by
  rw [← join_cons, ← h, splitOn, join_cut (List.cons_ne_nil c [])]

theorem splitOn_flatMap {as : List α} {f : α → Text} (hf : ∀ a ∈ as, c ∉ f a) :
    splitOn c (as.flatMap fun a => f a ++ [c]) = as.map f ++ [[]] := by
  induction as with
  | nil => exact splitOn_nil c
  | cons a as ih =>
    rw [List.forall_mem_cons] at hf
    rw [List.flatMap_cons, List.append_assoc, List.singleton_append,
      splitOn_append hf.1 (splitOn_cons_self c _), ih hf.2, List.append_nil]
    rfl

/-- Parts that each begin with the character. -/
theorem splitOn_flatMap_cons {as : List α} {f : α → Text} (hf : ∀ a ∈ as, c ∉ f a) :
    splitOn c (as.flatMap fun a => c :: f a) = [] :: as.map f := by
  induction as with
  | nil => exact splitOn_nil c
  | cons a as ih =>
    rw [List.forall_mem_cons] at hf
    rw [List.flatMap_cons, List.cons_append, splitOn_cons_self, splitOn_append hf.1 (ih hf.2),
      List.append_nil]
    rfl

theorem splitFirst?_append (hp : c ∉ p) (t : Text) : splitFirst? c (p ++ c :: t) = some (p, t) := by
  induction p with
  | nil => simp [splitFirst?]
  | cons x p ih =>
    obtain ⟨hx, hp⟩ := not_or.mp (hp ∘ List.mem_cons.mpr)
    simp [splitFirst?, Ne.symm hx, ih hp]

end Wikitext.Text
