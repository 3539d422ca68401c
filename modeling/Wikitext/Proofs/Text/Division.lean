import Wikitext.Stretch
import Mathlib.Data.List.Infix
import Mathlib.Data.List.Nodup
import Mathlib.Data.Nat.Find

/-!
# Cutting up a text at the words of a language

A language whose words do not overlap wherever they stand (`Separate`) cuts up every text in one
way (`Divided.unique`): into its words and what is left between them, where no word is left. Words
between doubled brackets are such a language. A division knows every place where a word stands
(`Divided.mem_stretches`).
-/

namespace Wikitext

variable {L : Text → Prop}

-- -----------------------------------------------------------------------------------------
-- Words that do not overlap
-- -----------------------------------------------------------------------------------------

/-- Two words in one text are the same one, or the first ends before the second begins. -/
def Separate (L : Text → Prop) : Prop :=
  ∀ {w w' a r r'}, L w → L w' → w ++ r = a ++ (w' ++ r') →
    (a = [] ∧ w = w') ∨ ∃ a', a = w ++ a'

/-- A text between doubled brackets, which do not occur inside. -/
inductive Enclosed (o c : Char) : Text → Prop
  | intro : o ∉ x → c ∉ x → Enclosed o c (o :: o :: (x ++ [c, c]))

theorem exists_append_of_not_mem {u : Text} (hu : o ∉ u) (h : u ++ r = a ++ o :: s) :
    ∃ a', a = u ++ a' := by
  rcases List.append_eq_append_iff.mp h with ⟨a', rfl, -⟩ | ⟨u', rfl, hs⟩
  · exact ⟨a', rfl⟩
  · cases u' with
    | nil => exact ⟨[], by simp⟩
    | cons x u' =>
      obtain ⟨rfl, -⟩ := List.cons.inj hs
      simp at hu

/-- A stretch without `d` stands in front of a `d` or behind it. -/
theorem append_cases_of_not_mem {a r u v w : Text} (hd : d ∉ w) (h : a ++ (w ++ r) = u ++ d :: v) :
    (∃ k, u = a ++ (w ++ k) ∧ r = k ++ d :: v) ∨ ∃ k, a = u ++ d :: k ∧ v = k ++ (w ++ r) := by
  rcases List.append_eq_append_iff.mp h with ⟨k, rfl, hk⟩ | ⟨k, rfl, hk⟩
  · obtain ⟨l, rfl⟩ := exists_append_of_not_mem hd hk
    rw [List.append_assoc, List.append_cancel_left_eq] at hk
    exact .inl ⟨l, rfl, hk⟩
  · cases k with
    | nil =>
      obtain ⟨l, hl⟩ := exists_append_of_not_mem (a := []) hd hk.symm
      obtain ⟨rfl, rfl⟩ := List.append_eq_nil_iff.mp hl.symm
      exact .inl ⟨[], by simp, by simpa using hk.symm⟩
    | cons e k =>
      obtain ⟨rfl, rfl⟩ := List.cons.inj hk
      exact .inr ⟨k, rfl, rfl⟩

/-- What begins in front of the end of a text either begins in it or lies behind it. -/
theorem begins_or_behind {a r t w y : Text} (hw : w ≠ []) (h : y ++ t = a ++ (w ++ r)) :
    (∃ l, y = a ++ l ∧ l.head? = w.head?) ∨ ∃ a', a = y ++ a' ∧ t = a' ++ (w ++ r) := by
  rcases List.append_eq_append_iff.mp h with ⟨a', rfl, ht⟩ | ⟨l, rfl, hl⟩
  · exact .inr ⟨a', rfl, ht⟩
  · cases l with
    | nil => exact .inr ⟨[], by simp, by simpa using hl.symm⟩
    | cons c l =>
      obtain ⟨e, w, rfl⟩ := List.exists_cons_of_ne_nil hw
      obtain ⟨rfl, -⟩ := List.cons.inj hl
      exact .inl ⟨_, rfl, rfl⟩

/-- The front of a text put together is one of its first part or goes on into the second. -/
theorem prefix_append_cases {p u v : Text} (h : p <+: u ++ v) :
    p <+: u ∨ ∃ q, p = u ++ q ∧ q <+: v := by
  obtain ⟨r, hr⟩ := h
  rcases List.append_eq_append_iff.mp hr with ⟨k, rfl, -⟩ | ⟨k, rfl, rfl⟩
  · exact .inl (List.prefix_append p k)
  · exact .inr ⟨k, rfl, List.prefix_append k r⟩

/-- What cannot begin in the front of a text lies behind it. -/
theorem infix_behind {s t w : Text} (hw : w.head? = some c) (hs : c ∉ s) (h : w <:+: s ++ t) :
    w <:+: t := by
  obtain ⟨a, b, heq⟩ := h
  rw [List.append_assoc] at heq
  rcases begins_or_behind (by rintro rfl; cases hw) heq.symm with ⟨l, rfl, hl⟩ | ⟨a', -, ht⟩
  · exact absurd (List.mem_append_right a (List.mem_of_head? (hl.trans hw))) hs
  · exact ⟨a', b, by rw [ht, List.append_assoc]⟩

/-- Texts without the character that follows them are determined by it. -/
theorem append_cons_inj {u v : Text} (hu : c ∉ u) (hv : c ∉ v) (h : u ++ c :: r = v ++ c :: r') :
    u = v ∧ r = r' := by
  obtain ⟨k, rfl⟩ := exists_append_of_not_mem hu h
  rw [List.append_assoc, List.append_cancel_left_eq] at h
  cases k with
  | nil => exact ⟨(List.append_nil u).symm, (List.cons.inj h).2⟩
  | cons d k =>
    obtain ⟨rfl, -⟩ := List.cons.inj h
    exact absurd (List.mem_append_right u List.mem_cons_self) hv

theorem separate_enclosed (hoc : o ≠ c) : Separate (Enclosed o c) := by
  rintro w w' a r r' ⟨ho, hc⟩ ⟨-, hc'⟩ h
  rename_i x y
  rcases a with _ | ⟨a₁, _ | ⟨a₂, a⟩⟩
  · have hxy : x ++ (c :: c :: r) = y ++ (c :: c :: r') := by simpa using h
    obtain ⟨y', hy⟩ := exists_append_of_not_mem hc hxy
    obtain ⟨x', hx⟩ := exists_append_of_not_mem hc' hxy.symm
    have hlen := congrArg List.length hx
    obtain rfl : x' = [] := by
      rw [hy] at hlen
      simp only [List.length_append] at hlen
      exact List.eq_nil_of_length_eq_zero (by omega)
    exact .inl ⟨rfl, by rw [hx, List.append_nil]⟩
  · exfalso
    cases x with
    | nil => simp_all
    | cons => simp_all
  · have hx : o ∉ x ++ [c, c] := by simp [ho, hoc]
    simp only [List.cons_append, List.cons.injEq] at h
    obtain ⟨rfl, rfl, h⟩ := h
    obtain ⟨a', rfl⟩ := exists_append_of_not_mem hx h
    exact .inr ⟨a', rfl⟩

theorem Enclosed.ne_nil (h : Enclosed o c w) : w ≠ [] := by
  cases h
  simp

theorem Enclosed.head (h : Enclosed o c w) : w.head? = some o := by
  cases h
  rfl

theorem Enclosed.suffix (h : Enclosed o c w) : [c, c] <:+ w := by
  cases h with
  | @intro x => exact ⟨o :: o :: x, by simp⟩

/-- Words between brackets of two kinds do not overlap if neither has closing brackets of the
other kind. -/
theorem apart_enclosed {o c o' c' : Char} (hw : Enclosed o c w) (hw' : Enclosed o' c' w')
    (hno : ¬ [c', c'] <:+: w) (hno' : ¬ [c, c] <:+: w') (hc : o' ≠ c)
    (h : w ++ r = a ++ (w' ++ r')) : ∃ a', a = w ++ a' := by
  rcases List.append_eq_append_iff.mp h with ⟨k, hk, -⟩ | ⟨k, rfl, hk⟩
  · exact ⟨k, hk⟩
  · rcases List.append_eq_append_iff.mp hk with ⟨x, rfl, -⟩ | ⟨x, rfl, -⟩
    · exact absurd (hw'.suffix.isInfix.trans ⟨a, x, by simp⟩) hno
    · cases k with
      | nil => exact ⟨[], by simp⟩
      | cons d k =>
        obtain rfl : d = o' := by simpa using hw'.head
        have hsuffix : d :: k <:+ a ++ d :: k := List.suffix_append a _
        cases k with
        | nil =>
          obtain ⟨y, hy⟩ := hw.suffix
          have hlast := congrArg List.getLast? hy
          simp at hlast
          exact absurd hlast.symm hc
        | cons e k =>
          have hclose := List.suffix_of_suffix_length_le hw.suffix hsuffix (by simp)
          exact absurd (hclose.isInfix.trans (List.prefix_append _ x).isInfix) hno'

/-- Of two places where words stand, one is behind the word at the other, if they are not the same. -/
theorem Separate.place_cases (hsep : Separate L) (hw : L w) (hx : L x)
    (h : u ++ (w ++ r) = a ++ (x ++ b)) :
    (∃ k, a = u ++ (w ++ k)) ∨ (u = a ∧ w = x) ∨ ∃ k, u = a ++ (x ++ k) := by
  rcases List.append_eq_append_iff.mp h with ⟨k, rfl, hk⟩ | ⟨k, rfl, hk⟩
  · rcases hsep hw hx hk with ⟨rfl, rfl⟩ | ⟨k', rfl⟩
    · exact .inr (.inl ⟨by simp, rfl⟩)
    · exact .inl ⟨k', rfl⟩
  · rcases hsep hx hw hk with ⟨rfl, rfl⟩ | ⟨k', rfl⟩
    · exact .inr (.inl ⟨by simp, rfl⟩)
    · exact .inr (.inr ⟨k', rfl⟩)

/-- There is one word that a text begins with. -/
theorem Separate.prefix_unique (hsep : Separate L) (hw : L w) (hw' : L w') (hne : w ≠ [])
    (h : w ++ r = w' ++ r') : w = w' := by
  rcases hsep (a := []) hw hw' h with ⟨-, rfl⟩ | ⟨k, hk⟩
  · rfl
  · exact absurd (List.append_eq_nil_iff.mp hk.symm).1 hne

/-- A word that stands in a text stands on one side of another word of it, or is that word. -/
theorem Separate.word_cases (hsep : Separate L) (hw : L w) (hx : L x) (hi : w <:+: a ++ (x ++ b)) :
    w <:+: a ∨ w = x ∨ w <:+: b := by
  obtain ⟨u, r, h⟩ := hi
  rw [List.append_assoc] at h
  rcases hsep.place_cases hw hx h with ⟨k, rfl⟩ | ⟨-, rfl⟩ | ⟨k, rfl⟩
  · exact .inl ⟨u, k, List.append_assoc u w k⟩
  · exact .inr (.inl rfl)
  · simp only [List.append_assoc, List.append_cancel_left_eq] at h
    exact .inr (.inr ⟨k, r, by rw [← h, List.append_assoc]⟩)

-- -----------------------------------------------------------------------------------------
-- Divisions
-- -----------------------------------------------------------------------------------------

/-- No word stands in the text. -/
def Free (L : Text → Prop) (t : Text) : Prop := ∀ w, L w → ¬ w <:+: t

theorem Free.within {u : Text} (h : Free L t) (hu : u <:+: t) : Free L u :=
  fun w hw hi => h w hw (hi.trans hu)

/-- A text in which no word begins may stand in front. -/
theorem Free.behind (hL : ∀ w, L w → w.head? = some c) (hs : c ∉ s) (h : Free L t) : Free L (s ++ t) :=
  fun w hw hin => h w hw (infix_behind (hL w hw) hs hin)

/-- A text cut up into words, each with what stands before it, and what stands at the end. -/
inductive Divided (L : Text → Prop) : Text → List (Text × Text) → Text → Prop
  | nil : Free L u → Divided L u [] u
  | cons : Free L u → L w → Divided L r parts tail → Divided L (u ++ (w ++ r)) ((u, w) :: parts) tail

/-- What stands before each of the words, and at the end. -/
def gaps (parts : List (Text × Text)) (tail : Text) : List Text := parts.map (·.1) ++ [tail]

namespace Divided

theorem text_eq (h : Divided L t parts tail) :
    t = parts.flatMap (fun part => part.1 ++ part.2) ++ tail := by
  induction h with
  | nil => rfl
  | cons _ _ _ ih => rw [List.flatMap_cons, List.append_assoc, List.append_assoc, ← ih]

theorem tail_free (h : Divided L t parts tail) : Free L tail := by
  induction h with
  | nil hu => exact hu
  | cons _ _ _ ih => exact ih

/-- By induction on the length of the text. The first word to begin has none before it. -/
theorem exists_parts (hL : ∀ w, L w → w ≠ []) (t : Text) : ∃ parts tail, Divided L t parts tail := by
  induction hn : t.length using Nat.strongRecOn generalizing t with
  | _ n ih =>
    subst hn
    by_cases hfree : Free L t
    · exact ⟨[], t, .nil hfree⟩
    · classical
      have hstart : ∃ n u w r, L w ∧ t = u ++ (w ++ r) ∧ u.length = n := by
        simp only [Free, not_forall, not_not] at hfree
        obtain ⟨w, hw, u, r, rfl⟩ := hfree
        exact ⟨_, u, w, r, hw, List.append_assoc u w r, rfl⟩
      obtain ⟨u, w, r, hw, rfl, hu⟩ := Nat.find_spec hstart
      have hfirst : Free L u := by
        rintro v hv ⟨a, b, rfl⟩
        have hpos := List.length_pos_iff.mpr (hL v hv)
        refine Nat.find_min hstart (m := a.length) ?_ ⟨a, v, b ++ (w ++ r), hv, by simp, rfl⟩
        rw [← hu]
        simp only [List.length_append]
        omega
      have hpos := List.length_pos_iff.mpr (hL w hw)
      obtain ⟨parts, tail, h⟩ := ih _ (by simp only [List.length_append]; omega) r rfl
      exact ⟨_, _, .cons hfirst hw h⟩

/-- The first words of two divisions are the same. -/
theorem first_unique (hL : Separate L) (hu : Free L u) (hu' : Free L u') (hw : L w) (hw' : L w')
    (h : u ++ (w ++ r) = u' ++ (w' ++ r')) : u = u' ∧ w = w' ∧ r = r' := by
  rcases hL.place_cases hw hw' h with ⟨k, rfl⟩ | ⟨rfl, rfl⟩ | ⟨k, rfl⟩
  · exact absurd ⟨u, k, List.append_assoc u w k⟩ (hu' w hw)
  · exact ⟨rfl, rfl, List.append_cancel_left (List.append_cancel_left h)⟩
  · exact absurd ⟨u', k, List.append_assoc u' w' k⟩ (hu w' hw')

theorem unique (hL : Separate L) (h : Divided L t parts tail) (h' : Divided L t parts' tail') :
    parts = parts' ∧ tail = tail' := by
  have hno : ∀ {u w r : Text}, L w → ¬ Free L (u ++ (w ++ r)) := fun {u w r} hw hfree =>
    hfree w hw ⟨u, r, List.append_assoc u w r⟩
  induction h generalizing parts' with
  | nil hu =>
    cases h' with
    | nil => exact ⟨rfl, rfl⟩
    | cons _ hw => exact absurd hu (hno hw)
  | @cons u w r parts tail hu hw h ih =>
    generalize ht : u ++ (w ++ r) = t at h'
    cases h' with
    | nil hu' => exact absurd (ht ▸ hu') (hno hw)
    | cons hu' hw' h' =>
      obtain ⟨rfl, rfl, rfl⟩ := first_unique hL hu hu' hw hw' ht
      obtain ⟨rfl, rfl⟩ := ih h'
      exact ⟨rfl, rfl⟩

/-- A part at the end without words belongs to what stands at the end. -/
theorem append_free (h : Divided L t parts tail) (hv : Free L (tail ++ v)) :
    Divided L (t ++ v) parts (tail ++ v) := by
  induction h with
  | nil => exact .nil hv
  | cons hu hw _ ih =>
    rw [List.append_assoc, List.append_assoc]
    exact .cons hu hw (ih hv)

/-- Another end in the place of what stands behind the last word. -/
theorem append_parts (h : Divided L t parts tail) (h' : Divided L r parts' tail') :
    Divided L (parts.flatMap (fun part => part.1 ++ part.2) ++ r) (parts ++ parts') tail' := by
  induction h with
  | nil => exact h'
  | cons hu hw _ ih =>
    simp only [List.flatMap_cons, List.append_assoc, List.cons_append]
    exact .cons hu hw ih

theorem append_word (h : Divided L t parts tail) (hv : L v) (hnil : Free L []) :
    Divided L (t ++ v) (parts ++ [(tail, v)]) [] := by
  induction h with
  | @nil u hu =>
    have hone := Divided.cons hu hv (.nil hnil)
    rwa [List.append_nil] at hone
  | cons hu hw _ ih =>
    rw [List.append_assoc, List.append_assoc]
    exact .cons hu hw ih

/-- A word cuts a text in two that are divided apart. -/
theorem around (h : Divided L u parts a) (hw : L w) (h' : Divided L r parts' tail) :
    Divided L (u ++ (w ++ r)) (parts ++ (a, w) :: parts') tail := by
  have hall := h.append_parts (.cons h.tail_free hw h')
  rwa [← List.append_assoc, ← h.text_eq] at hall

/-- A text in which no word begins belongs to the first gap behind it. -/
theorem prepend (hL : ∀ w, L w → w.head? = some c) (hs : c ∉ s) (h : Divided L t parts tail) :
    ∃ parts' tail', Divided L (s ++ t) parts' tail' ∧ parts'.map (·.2) = parts.map (·.2) ∧
      ∀ g : Text → Text, parts'.flatMap (fun part => part.1 ++ g part.2) ++ tail' =
        s ++ (parts.flatMap (fun part => part.1 ++ g part.2) ++ tail) := by
  cases h with
  | nil hu => exact ⟨[], s ++ t, .nil (hu.behind hL hs), rfl, fun _ => rfl⟩
  | @cons u w r parts tail hu hw h =>
    refine ⟨(s ++ u, w) :: parts, tail, ?_, rfl, fun g => by simp⟩
    rw [← List.append_assoc]
    exact .cons (hu.behind hL hs) hw h

end Divided

-- -----------------------------------------------------------------------------------------
-- Putting texts together
-- -----------------------------------------------------------------------------------------

/-- A text that can stand behind any other one: no word between brackets comes into being where
the two meet. -/
def Tame (o c : Char) (v : Text) : Prop :=
  Enclosed o c v ∨ (¬ [c, c] <:+: v ∧ v.head? ≠ some c)

section
variable {o c : Char} (hoc : o ≠ c) (hL : ∀ w, L w → Enclosed o c w)
include hL

theorem free_nil : Free L [] := by
  intro w hw hi
  obtain rfl := List.infix_nil.mp hi
  cases hL _ hw

include hoc

theorem Free.append (hu : Free L u) (hv : Tame o c v) (hno : ¬ L v) : Free L (u ++ v) := by
  intro w hw hi
  have henc := hL w hw
  rcases hv with hv | ⟨hcc, hhead⟩
  · rw [← List.append_nil v] at hi
    rcases Separate.word_cases (separate_enclosed hoc) henc hv hi with hi | rfl | hi
    · exact hu w hw hi
    · exact hno hw
    · exact henc.ne_nil (List.infix_nil.mp hi)
  · obtain ⟨a, b, h⟩ := hi
    obtain ⟨ho, hc⟩ := henc
    rename_i x
    have h' : (a ++ (o :: o :: x)) ++ (c :: c :: b) = u ++ v := by simpa using h
    rcases List.append_eq_append_iff.mp h' with ⟨k, rfl, hk⟩ | ⟨k, -, rfl⟩
    · rcases k with _ | ⟨k₁, _ | ⟨k₂, k⟩⟩
      · exact hhead (by rw [List.nil_append] at hk; rw [← hk]; rfl)
      · obtain ⟨-, rfl⟩ := List.cons.inj hk
        exact hhead rfl
      · simp only [List.cons_append, List.cons.injEq] at hk
        obtain ⟨rfl, rfl, -⟩ := hk
        exact hu _ hw ⟨a, k, by simp⟩
    · exact hcc ⟨k, b, by simp⟩

/-- The words of a text that is put together are those of its parts. -/
theorem Divided.append [DecidablePred L] {vs : List Text} (h : Divided L t parts tail)
    (hvs : ∀ v ∈ vs, Tame o c v) :
    ∃ parts' tail', Divided L (t ++ vs.flatten) parts' tail' ∧
      parts'.map (·.2) = parts.map (·.2) ++ vs.filter (fun v => L v) := by
  induction vs generalizing t parts tail with
  | nil => exact ⟨parts, tail, by simpa using h, by simp⟩
  | cons v vs ih =>
    rw [List.forall_mem_cons] at hvs
    rw [List.flatten_cons, ← List.append_assoc]
    by_cases hv : L v
    · obtain ⟨parts', tail', h', hwords⟩ := ih (h.append_word hv (free_nil hL)) hvs.2
      exact ⟨parts', tail', h', by simp [hwords, hv]⟩
    · have hfree := h.tail_free.append hoc hL hvs.1 hv
      obtain ⟨parts', tail', h', hwords⟩ := ih (h.append_free hfree) hvs.2
      exact ⟨parts', tail', h', by simp [hwords, hv]⟩

end

-- -----------------------------------------------------------------------------------------
-- Where the words stand
-- -----------------------------------------------------------------------------------------

/-- The stretches of the words, if the text begins at position `n`. -/
def stretchesFrom (n : Nat) : List (Text × Text) → List Stretch
  | [] => []
  | (u, w) :: parts =>
    ⟨n + u.length, n + u.length + w.length⟩ :: stretchesFrom (n + u.length + w.length) parts

/-- The words with the stretches where they stand, if the text begins at position `n`. -/
def placesFrom (n : Nat) (parts : List (Text × Text)) : List (Stretch × Text) :=
  (stretchesFrom n parts).zip (parts.map (·.2))

theorem placesFrom_fst (n : Nat) (parts : List (Text × Text)) :
    (placesFrom n parts).map (·.1) = stretchesFrom n parts := by
  induction parts generalizing n with
  | nil => rfl
  | cons part parts ih => exact congrArg (_ :: ·) (ih _)

theorem placesFrom_snd (n : Nat) (parts : List (Text × Text)) :
    (placesFrom n parts).map (·.2) = parts.map (·.2) := by
  induction parts generalizing n with
  | nil => rfl
  | cons part parts ih => exact congrArg (_ :: ·) (ih _)

/-- A word of the language stands there. -/
def Occurs (L : Text → Prop) (t : Text) (s : Stretch) : Prop :=
  ∃ a w b, L w ∧ t = a ++ (w ++ b) ∧ s = ⟨a.length, a.length + w.length⟩

theorem le_of_mem_stretchesFrom (h : s ∈ stretchesFrom n parts) : n ≤ s.start := by
  induction parts generalizing n with
  | nil => cases h
  | cons part parts ih =>
    rcases List.mem_cons.mp h with rfl | h
    · exact Nat.le_add_right _ _
    · have := ih h
      omega

namespace Divided

theorem pairwise_stretchesFrom (hL : ∀ w, L w → w ≠ []) (h : Divided L t parts tail) (n : Nat) :
    (stretchesFrom n parts).Pairwise fun s s' => s.start < s'.start := by
  induction h generalizing n with
  | nil => exact .nil
  | cons _ hw _ ih =>
    refine .cons (fun s hs => ?_) (ih _)
    have hle := le_of_mem_stretchesFrom hs
    have hpos := List.length_pos_iff.mpr (hL _ hw)
    dsimp only
    omega

theorem nodup_stretchesFrom (hL : ∀ w, L w → w ≠ []) (h : Divided L t parts tail) (n : Nat) :
    (stretchesFrom n parts).Nodup :=
  (h.pairwise_stretchesFrom hL n).imp fun hlt he => Nat.ne_of_lt hlt (congrArg Stretch.start he)

/-- Every word that stands in the text is one of the division. -/
theorem mem_placesFrom (hsep : Separate L) (h : Divided L t parts tail) (n : Nat) :
    (s, w) ∈ placesFrom n parts ↔
      ∃ a b, L w ∧ t = a ++ (w ++ b) ∧ s = ⟨n + a.length, n + a.length + w.length⟩ := by
  constructor
  · intro hs
    induction h generalizing n with
    | nil => cases hs
    | @cons u x r parts tail _ hx _ ih =>
      rcases List.mem_cons.mp hs with hs | hs
      · obtain ⟨rfl, rfl⟩ := Prod.mk.inj hs
        exact ⟨u, r, hx, rfl, rfl⟩
      · obtain ⟨a, b, hw, rfl, rfl⟩ := ih _ hs
        refine ⟨u ++ (x ++ a), b, hw, by simp, ?_⟩
        simp only [List.length_append, Nat.add_assoc]
  · rintro ⟨a, b, hw, ht, rfl⟩
    induction h generalizing n a with
    | nil hu => exact absurd ⟨a, b, by rw [ht, List.append_assoc]⟩ (hu w hw)
    | @cons u x r parts tail hu hx _ ih =>
      rcases hsep.place_cases hx hw ht with ⟨k, rfl⟩ | ⟨rfl, rfl⟩ | ⟨k, rfl⟩
      · have hr : r = k ++ (w ++ b) := by
          rw [List.append_assoc, List.append_assoc] at ht
          exact List.append_cancel_left (List.append_cancel_left ht)
        have hmem := ih (n + u.length + x.length) k hr
        refine List.mem_cons_of_mem _ ?_
        change _ ∈ placesFrom (n + u.length + x.length) parts
        simpa only [List.length_append, Nat.add_assoc] using hmem
      · exact List.mem_cons_self
      · exact absurd ⟨a, k, List.append_assoc a w k⟩ (hu w hw)

theorem mem_stretches (hsep : Separate L) (h : Divided L t parts tail) :
    s ∈ stretchesFrom 0 parts ↔ Occurs L t s := by
  have hmem := fun w => h.mem_placesFrom (s := s) (w := w) hsep 0
  simp only [Nat.zero_add] at hmem
  rw [← placesFrom_fst, List.mem_map]
  constructor
  · rintro ⟨⟨s, w⟩, hplace, rfl⟩
    obtain ⟨a, b, hw, ht, hs⟩ := (hmem w).mp hplace
    exact ⟨a, w, b, hw, ht, hs⟩
  · rintro ⟨a, w, b, hw, ht, hs⟩
    exact ⟨(s, w), (hmem w).mpr ⟨a, b, hw, ht, hs⟩, rfl⟩

end Divided

-- -----------------------------------------------------------------------------------------
-- Some of the words
-- -----------------------------------------------------------------------------------------

section
variable {L' : Text → Prop} (hsep : Separate L) (hL' : ∀ w, L' w → L w)
include hL'

theorem Free.mono (h : Free L t) : Free L' t := fun w hw => h w (hL' w hw)

/-- A division at words that are of the smaller language too. -/
theorem Divided.restrict (h : Divided L t parts tail) (hparts : ∀ part ∈ parts, L' part.2) :
    Divided L' t parts tail := by
  induction h with
  | nil hu => exact .nil (hu.mono hL')
  | cons hu _ _ ih =>
    rw [List.forall_mem_cons] at hparts
    exact .cons (hu.mono hL') hparts.1 (ih hparts.2)

include hsep

/-- A word that is left out is part of the gap. -/
theorem Free.between (hu : Free L' u) (hw : L w) (hno : ¬ L' w) (hv : Free L' v) :
    Free L' (u ++ (w ++ v)) := by
  intro x hx hi
  rcases hsep.word_cases (hL' x hx) hw hi with hi | rfl | hi
  · exact hu x hx hi
  · exact hno hx
  · exact hv x hx hi

/-- The division at some of the words. -/
theorem Divided.filter [DecidablePred L'] (h : Divided L t parts tail) :
    ∃ parts' tail', Divided L' t parts' tail' ∧
      ∀ n, placesFrom n parts' = (placesFrom n parts).filter fun place => L' place.2 := by
  induction h with
  | @nil u hu => exact ⟨[], u, .nil (hu.mono hL'), fun _ => rfl⟩
  | @cons u w r parts tail hu hw _ ih =>
    obtain ⟨parts', tail', h', hplaces⟩ := ih
    have hfirst : ∀ n, placesFrom n ((u, w) :: parts) =
        (⟨n + u.length, n + u.length + w.length⟩, w) :: placesFrom (n + u.length + w.length) parts :=
      fun _ => rfl
    by_cases hin : L' w
    · refine ⟨(u, w) :: parts', tail', .cons (hu.mono hL') hin h', fun n => ?_⟩
      have hsame : placesFrom n ((u, w) :: parts') = (⟨n + u.length, n + u.length + w.length⟩, w) ::
        placesFrom (n + u.length + w.length) parts' := rfl
      rw [hsame, hplaces, hfirst, List.filter_cons_of_pos (by simpa using hin)]
    · have hrest : ∀ n, (placesFrom n ((u, w) :: parts)).filter (fun place => L' place.2) =
          placesFrom (n + u.length + w.length) parts' := fun n => by
        rw [hfirst, List.filter_cons_of_neg (by simpa using hin), hplaces]
      cases h' with
      | nil hv => exact ⟨[], _, .nil ((hu.mono hL').between hsep hL' hw hin hv), fun n => (hrest n).symm⟩
      | @cons v w' r' parts' _ hv hw' h' =>
        refine ⟨(u ++ (w ++ v), w') :: parts', tail', ?_, fun n => ?_⟩
        · have hall := Divided.cons ((hu.mono hL').between hsep hL' hw hin hv) hw' h'
          simpa using hall
        · rw [hrest]
          simp [placesFrom, stretchesFrom, Nat.add_assoc]

end

-- -----------------------------------------------------------------------------------------
-- Sorting stretches
-- -----------------------------------------------------------------------------------------

namespace Stretch

theorem perm_insert (s : Stretch) (ss : List Stretch) : (insert s ss).Perm (s :: ss) := by
  induction ss with
  | nil => exact .refl _
  | cons s' ss ih =>
    rw [insert]
    split
    · exact .refl _
    · exact (ih.cons s').trans (.swap s s' ss)

theorem perm_sorted (ss : List Stretch) : (sorted ss).Perm ss := by
  induction ss with
  | nil => exact .refl _
  | cons s ss ih => exact (perm_insert s _).trans (ih.cons s)

theorem pairwise_insert {ss : List Stretch} (h : ss.Pairwise fun s s' => s.start ≤ s'.start) :
    (insert s ss).Pairwise fun s s' => s.start ≤ s'.start := by
  induction ss with
  | nil => exact .cons (by simp) .nil
  | cons s' ss ih =>
    rw [List.pairwise_cons] at h
    rw [insert]
    split
    · rename_i hle
      refine .cons (fun x hx => ?_) (.cons h.1 h.2)
      rcases List.mem_cons.mp hx with rfl | hx
      · exact hle
      · exact hle.trans (h.1 x hx)
    · rename_i hlt
      refine .cons (fun x hx => ?_) (ih h.2)
      rcases List.mem_cons.mp ((perm_insert s ss).mem_iff.mp hx) with rfl | hx
      · omega
      · exact h.1 x hx

theorem pairwise_sorted (ss : List Stretch) :
    (sorted ss).Pairwise fun s s' => s.start ≤ s'.start := by
  induction ss with
  | nil => exact .nil
  | cons s ss ih => exact pairwise_insert ih

/-- There is one order of stretches that begin at different places. -/
theorem sorted_eq {ss ss' : List Stretch} (h : ss.Perm ss')
    (h' : ss'.Pairwise fun s s' => s.start < s'.start) : sorted ss = ss' := by
  have hperm := (perm_sorted ss).trans h
  have hnodup : (ss'.map (·.start)).Nodup := List.pairwise_map.mpr (h'.imp Nat.ne_of_lt)
  refine hperm.eq_of_pairwise (fun s s' hs hs' hle hle' => ?_) (pairwise_sorted ss)
    (h'.imp Nat.le_of_lt)
  exact List.inj_on_of_nodup_map hnodup (hperm.mem_iff.mp hs) hs' (Nat.le_antisymm hle hle')

end Stretch

end Wikitext
