import Mathlib.Logic.Relation
import Wikitext.Proofs.Mask.Placeholder
import Wikitext.Proofs.Mask.Regions
import Wikitext.Proofs.Pattern.Pieces

/-!
# Edits that keep placeholders

A masked text is clean if its corner brackets all belong to placeholders. In a
clean text, a stretch without corner brackets that has a character foreign to
placeholders overlaps none of them, so it can be replaced by any text without
corner brackets: the placeholders stay, in their order (`Edits.keeps`). Such
edits go along with what surrounds them, so they need not be made with a look
at where placeholders begin and end.
-/

namespace Wikitext.Mask

variable {kind : Kind}

/-- It is enough to look at the characters of the text, among all that there are. -/
instance {q : Char → Prop} [DecidablePred q] (t : Text) : Decidable (∀ c ∈ t, q c) :=
  List.decidableBAll q t

instance {q : Char → Prop} [DecidablePred q] (t : Text) : Decidable (∃ c ∈ t, q c) :=
  List.decidableBEx q t

-- -----------------------------------------------------------------------------------------
-- Texts without corner brackets
-- -----------------------------------------------------------------------------------------

def corners : List Char := ['⌊', '⌋']

/-- The text has no corner bracket. -/
def Bare (t : Text) : Prop := ∀ c ∈ t, c ∉ corners

instance (t : Text) : Decidable (Bare t) := inferInstanceAs (Decidable (∀ c ∈ t, c ∉ corners))

@[simp] theorem bare_nil : Bare [] := by simp [Bare]

@[simp] theorem bare_append : Bare (u ++ v) ↔ Bare u ∧ Bare v := by
  simp only [Bare, List.mem_append, or_imp, forall_and]

@[simp] theorem bare_cons : Bare (c :: t) ↔ c ∉ corners ∧ Bare t := by
  simp only [Bare, List.mem_cons, forall_eq_or_imp]

theorem Bare.subset (h : Bare t) (hs : u ⊆ t) : Bare u := fun c hc => h c (hs hc)

/-- No placeholder of a clean text overlaps the stretch. -/
structure Apart (x : Text) : Prop where
  bare : Bare x
  strays : ∃ c ∈ x, c ∉ marks

theorem corners_subset_marks : corners ⊆ marks := by decide

theorem Apart.ne_nil (h : Apart x) : x ≠ [] := by
  obtain ⟨c, hc, -⟩ := h.strays
  exact List.ne_nil_of_mem hc

theorem apart_singleton (h : c ∉ marks) : Apart [c] :=
  ⟨by simpa using fun hc => h (corners_subset_marks hc), c, by simp, h⟩

theorem Apart.append_left (h : Apart x) (hu : Bare u) : Apart (u ++ x) := by
  obtain ⟨hb, c, hc, hn⟩ := h
  exact ⟨bare_append.mpr ⟨hu, hb⟩, c, List.mem_append_right _ hc, hn⟩

theorem Apart.append_right (h : Apart x) (hv : Bare v) : Apart (x ++ v) := by
  obtain ⟨hb, c, hc, hn⟩ := h
  exact ⟨bare_append.mpr ⟨hb, hv⟩, c, List.mem_append_left _ hc, hn⟩

-- -----------------------------------------------------------------------------------------
-- Clean texts
-- -----------------------------------------------------------------------------------------

/-- Every corner bracket of the text belongs to a placeholder. -/
def Clean (kind : Kind) (t : Text) : Prop := ∀ c, Part.char c ∈ parts kind t → c ∉ corners

theorem readPlaceholder?_of_not_corner (hc : c ∉ corners) (t : Text) :
    readPlaceholder? kind (c :: t) = none := by
  cases hr : readPlaceholder? kind (c :: t) with
  | none => rfl
  | some r =>
    obtain ⟨ds, hi, ht, -⟩ := readPlaceholder?_eq_some hr
    obtain ⟨x, tail, hw, -⟩ := written_eq kind hi
    rw [hw] at ht
    cases ht
    exact absurd (by decide) hc

/-- By induction along the scan of the first text. -/
theorem Clean.parts_append (h : Clean kind u) (v : Text) :
    parts kind (u ++ v) = parts kind u ++ parts kind v := by
  induction u using parts.induct kind with
  | case1 => simp
  | case2 c cs i rest hr ih =>
    obtain ⟨ds, hi, ht, rfl⟩ := readPlaceholder?_eq_some hr
    rw [ht, parts_written kind hi, List.append_assoc, parts_written kind hi,
      ih fun x hx => h x (by rw [parts_of_read hr]; simp [hx]), List.cons_append]
  | case3 c cs hr ih =>
    rw [Clean, parts_of_not_read hr] at h
    have hc : c ∉ corners := h c (by simp)
    rw [parts_of_not_read hr, List.cons_append, List.cons_append,
      parts_of_not_read (readPlaceholder?_of_not_corner hc _), ih fun x hx => h x (by simp [hx])]

theorem Clean.append (hu : Clean kind u) (hv : Clean kind v) : Clean kind (u ++ v) := by
  intro c hc
  rw [hu.parts_append, List.mem_append] at hc
  exact hc.elim (hu c) (hv c)

theorem Bare.parts_eq (h : Bare t) : parts kind t = t.map .char := by
  induction t with
  | nil => simp
  | cons c t ih =>
    rw [bare_cons] at h
    rw [parts_of_not_read (readPlaceholder?_of_not_corner h.1 t), ih h.2, List.map_cons]

theorem Bare.clean (h : Bare t) : Clean kind t := by
  intro c hc
  rw [h.parts_eq] at hc
  exact h c (by simpa using hc)

/-- The brackets that close a placeholder do not stand in a bare text. -/
theorem Bare.not_straddles_right (h : Bare v) : ¬ Straddles kind u v := by
  rintro ⟨a, b, ds, -, hb, -, hab, -, hbv⟩
  have hlast : (a ++ b).getLast? = some '⌋' := by simp [hab, written, closing]
  rw [List.getLast?_append, List.getLast?_eq_some_getLast hb, Option.some_or,
    Option.some.injEq] at hlast
  have hm : '⌋' ∈ v := hbv.subset (hlast ▸ List.getLast_mem hb)
  exact h _ hm (by decide)

theorem Bare.not_straddles_left (h : Bare u) : ¬ Straddles kind u v := by
  rintro ⟨a, b, ds, ha, -, -, hab, hau, -⟩
  obtain ⟨x, a, rfl⟩ := List.exists_cons_of_ne_nil ha
  have hx : x = '⌊' := by
    simp only [written, opening, List.replicate_succ, List.cons_append, List.cons.injEq] at hab
    exact hab.1
  exact h _ (hau.subset List.mem_cons_self) (by rw [hx]; decide)

/-- A text is read apart at a stretch that keeps apart. -/
theorem Apart.parts_eq (h : Apart x) (u v : Text) :
    parts kind (u ++ (x ++ v)) = parts kind u ++ (x.map .char ++ parts kind v) := by
  obtain ⟨hb, c, hc, hn⟩ := h
  obtain ⟨y, z, rfl⟩ := List.append_of_mem hc
  have hy : Bare y := (bare_append.mp hb).1
  have hz : Bare (c :: z) := (bare_append.mp hb).2
  have hborder : Border (u ++ y) (c :: z ++ v) := .inr (by simpa using hn)
  rw [List.append_assoc y, ← List.append_assoc u, Wikitext.Mask.parts_append hborder.not_straddles,
    Wikitext.Mask.parts_append hy.not_straddles_right,
    Wikitext.Mask.parts_append hz.not_straddles_left, hy.parts_eq, hz.parts_eq]
  simp

-- -----------------------------------------------------------------------------------------
-- Edits
-- -----------------------------------------------------------------------------------------

/-- A stretch that keeps apart from placeholders is replaced by another without brackets. -/
inductive Edit : Text → Text → Prop
  | replace (u v : Text) : Apart x → Bare y → Edit (u ++ (x ++ v)) (u ++ (y ++ v))

/-- Some edits, one after the other. -/
abbrev Edits : Text → Text → Prop := Relation.ReflTransGen Edit

namespace Edits

theorem of_apart (hx : Apart x) (hy : Bare y) : Edits x y := by
  have h := Edit.replace [] [] hx hy
  simp only [List.nil_append, List.append_nil] at h
  exact .single h

theorem append_left (h : Edits v v') (u : Text) : Edits (u ++ v) (u ++ v') := by
  induction h with
  | refl => exact .refl
  | tail _ h ih =>
    cases h with
    | replace a b hx hy =>
      have h := Edit.replace (u ++ a) b hx hy
      rw [List.append_assoc, List.append_assoc] at h
      exact ih.tail h

theorem append_right (h : Edits u u') (v : Text) : Edits (u ++ v) (u' ++ v) := by
  induction h with
  | refl => exact .refl
  | tail _ h ih =>
    cases h with
    | replace a b hx hy =>
      have h := Edit.replace a (b ++ v) hx hy
      simp only [← List.append_assoc] at h ih ⊢
      exact ih.tail h

theorem append (h : Edits u u') (h' : Edits v v') : Edits (u ++ v) (u' ++ v') :=
  (h.append_right v).trans (h'.append_left u')

/-- A stretch that has no character of placeholders can be taken out. -/
theorem clear (h : ∀ c ∈ x, c ∉ marks) : Edits x [] := by
  cases x with
  | nil => exact .refl
  | cons c x =>
    have hb : Bare (c :: x) := fun d hd hm => h d hd (corners_subset_marks hm)
    exact of_apart ⟨hb, c, List.mem_cons_self, h c List.mem_cons_self⟩ bare_nil

end Edits

theorem numbers_append (ps qs : List Part) : numbers (ps ++ qs) = numbers ps ++ numbers qs := by
  induction ps with
  | nil => rfl
  | cons p ps ih => cases p <;> simp [numbers, ih]

theorem numbers_map_char (t : Text) : numbers (t.map .char) = [] := by
  induction t with
  | nil => rfl
  | cons c t ih => exact ih

theorem Bare.numbers_eq (h : Bare t) : numbers (parts kind t) = [] := by
  rw [h.parts_eq, numbers_map_char]

theorem Edits.bare (h : Edits t t') (ht : Bare t) : Bare t' := by
  induction h with
  | refl => exact ht
  | tail _ h ih =>
    cases h with
    | replace u v _ hy =>
      simp only [bare_append] at ih ⊢
      exact ⟨ih.1, hy, ih.2.2⟩

/-- One edit leaves a clean text clean and its placeholders in their order. -/
theorem Edit.keeps (h : Edit w w') (hw : Clean kind w) :
    Clean kind w' ∧ numbers (parts kind w') = numbers (parts kind w) := by
  cases h with
  | @replace x y u v hx hy =>
    have hp : parts kind (u ++ (x ++ v)) = _ := hx.parts_eq u v
    rw [Clean, hp] at hw
    have hu : Clean kind u := fun c hc => hw c (by simp [hc])
    have hv : Clean kind v := fun c hc => hw c (by simp [hc])
    have hp' := hu.parts_append (y ++ v)
    rw [hy.clean.parts_append, hy.parts_eq] at hp'
    refine ⟨fun c hc => ?_, ?_⟩
    · rw [hp'] at hc
      simp only [List.mem_append, List.mem_map, Part.char.injEq, exists_eq_right] at hc
      rcases hc with hc | hc | hc
      · exact hu c hc
      · exact hy c hc
      · exact hv c hc
    · rw [hp, hp']
      simp only [numbers_append, numbers_map_char]

theorem Edits.clean (h : Edits w w') (hw : Clean kind w) :
    Clean kind w' ∧ numbers (parts kind w') = numbers (parts kind w) := by
  induction h with
  | refl => exact ⟨hw, rfl⟩
  | tail _ h ih =>
    obtain ⟨hc, hn⟩ := h.keeps ih.1
    exact ⟨hc, hn.trans ih.2⟩

/-- A clean text that names no stretch twice. -/
structure Intact (kind : Kind) (t : Text) : Prop where
  clean : Clean kind t
  nodup : (numbers (parts kind t)).Nodup

/-- An intact text stays intact and names the same stretches in the same order. -/
def Keeps (kind : Kind) (t t' : Text) : Prop :=
  Intact kind t → Intact kind t' ∧ numbers (parts kind t') = numbers (parts kind t)

theorem Keeps.refl (t : Text) : Keeps kind t t := fun h => ⟨h, rfl⟩

theorem Keeps.trans (h : Keeps kind t u) (h' : Keeps kind u v) : Keeps kind t v := by
  intro ht
  obtain ⟨hu, he⟩ := h ht
  obtain ⟨hv, he'⟩ := h' hu
  exact ⟨hv, he'.trans he⟩

theorem Edits.keeps (h : Edits w w') : Keeps kind w w' := by
  intro hw
  obtain ⟨hc, hn⟩ := h.clean hw.clean
  exact ⟨⟨hc, hn ▸ hw.nodup⟩, hn⟩

-- -----------------------------------------------------------------------------------------
-- Replacing matches
-- -----------------------------------------------------------------------------------------

/-- Edits of the matches are edits of the text. -/
theorem edits_flatMap {f : Match → Text} (hc : Cuts p b t ps)
    (hf : ∀ {m b w r}, .hit m ∈ ps → Takes p m b w r → Edits w (f m)) :
    Edits t (ps.flatMap fun
      | .kept t => t
      | .hit m => f m) := by
  induction hc with
  | nil => exact .refl
  | kept _ ih => exact (ih fun h => hf (List.mem_cons_of_mem _ h)).append_left _
  | hit hm _ ih =>
    exact (hf List.mem_cons_self hm).append (ih fun h => hf (List.mem_cons_of_mem _ h))

theorem edits_replaceAll {p : Pattern} {f : Match → Text}
    (hf : ∀ {m b w r}, .hit m ∈ p.compile.pieces t → Takes p m b w r → Edits w (f m)) :
    Edits t (p.compile.replaceAll f t) :=
  edits_flatMap (Regex.cuts_pieces p t) hf

end Wikitext.Mask
