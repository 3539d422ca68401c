import Wikitext.Category
import Wikitext.Proofs.Text.Blank
import Wikitext.Proofs.Text.Upper

/-!
# Normal names

White space around a name does not count, and a normal name is its own normal form
(`normalName_normalName`): its words are joined by single spaces, and its first letter is in upper
case. Signs other than spaces come from the name itself (`mem_of_mem_normalName`).
-/

namespace Wikitext

-- -----------------------------------------------------------------------------------------
-- Words
-- -----------------------------------------------------------------------------------------

/-- A run of characters that are not white space. -/
structure IsWord (w : Text) : Prop where
  ne_nil : w ≠ []
  solid : ∀ c ∈ w, Chars.isBlank c = false

/-- A word ends in front of this text. -/
def EndsWord (t : Text) : Prop := ∀ c ∈ t.head?, Chars.isBlank c = true

theorem endsWord_nil : EndsWord [] := fun _ hc => absurd hc (by simp)

namespace Text

/-- By induction on the word. -/
theorem words_append (hw : IsWord w) (ht : EndsWord t) : words (w ++ t) = w :: words t := by
  obtain ⟨hne, hsolid⟩ := hw
  induction w with
  | nil => exact absurd rfl hne
  | cons c w ih =>
    rw [List.forall_mem_cons] at hsolid
    cases w with
    | nil =>
      cases t with
      | nil =>
        have hone : words [c] = [[c]] := by
          rw [words.eq_def]
          simp [hsolid.1]
        exact hone
      | cons d t =>
        have hd : Chars.isBlank d = true := ht d rfl
        rw [List.singleton_append, words.eq_def]
        cases hws : words (d :: t) <;> simp [hsolid.1, hd, hws]
    | cons d w =>
      have hd : Chars.isBlank d = false := hsolid.2 d List.mem_cons_self
      have hws := ih (List.cons_ne_nil d w) hsolid.2
      rw [List.cons_append] at hws
      rw [List.cons_append, List.cons_append, words.eq_def]
      simp [hsolid.1, hd, hws]

/-- Texts by their words. -/
theorem word_induction {P : Text → Prop} (nil : P []) (blank : ∀ c t, Chars.isBlank c = true → P t → P (c :: t))
    (word : ∀ w t, IsWord w → EndsWord t → P t → P (w ++ t)) (t : Text) : P t := by
  induction hn : t.length using Nat.strongRecOn generalizing t with
  | _ n ih =>
    subst hn
    cases t with
    | nil => exact nil
    | cons c t =>
      cases hc : Chars.isBlank c with
      | true => exact blank c t hc (ih _ (Nat.lt_succ_self _) t rfl)
      | false =>
        have hw : IsWord ((c :: t).takeWhile (!Chars.isBlank ·)) :=
          ⟨by simp [hc], fun d hd => by simpa using List.all_eq_true.mp List.all_takeWhile d hd⟩
        have ht : EndsWord ((c :: t).dropWhile (!Chars.isBlank ·)) := fun d hd => by
          have hhead := List.head?_dropWhile_not (!Chars.isBlank ·) (c :: t)
          rw [hd] at hhead
          simpa using hhead
        have hlen : ((c :: t).dropWhile (!Chars.isBlank ·)).length < (c :: t).length := by
          have hle := (List.dropWhile_suffix (!Chars.isBlank ·) (l := t)).length_le
          simp only [List.dropWhile_cons, hc, Bool.not_false, if_true, List.length_cons]
          omega
        have h := word _ _ hw ht (ih _ hlen _ rfl)
        rwa [List.takeWhile_append_dropWhile] at h

theorem of_mem_words (h : w ∈ words t) : IsWord w ∧ w ⊆ t := by
  induction t using word_induction with
  | nil => cases h
  | blank c t hc ih =>
    rw [words_cons_blank hc] at h
    exact ⟨(ih h).1, List.subset_cons_of_subset c (ih h).2⟩
  | word w' t hw ht ih =>
    rw [words_append hw ht] at h
    rcases List.mem_cons.mp h with rfl | h
    · exact ⟨hw, List.subset_append_left w t⟩
    · exact ⟨(ih h).1, List.subset_append_of_subset_right w' (ih h).2⟩

theorem words_join {ws : List Text} (h : ∀ w ∈ ws, IsWord w) : words (join [' '] ws) = ws := by
  induction ws with
  | nil => rfl
  | cons w ws ih =>
    rw [List.forall_mem_cons] at h
    cases ws with
    | nil =>
      have hone := words_append h.1 endsWord_nil
      rwa [List.append_nil] at hone
    | cons w' ws =>
      have hend : EndsWord (' ' :: join [' '] (w' :: ws)) := by simp [EndsWord]; decide
      rw [join, List.append_assoc, List.singleton_append, words_append h.1 hend,
        words_cons_blank (by decide), ih h.2]
      simp

theorem mem_join (h : c ∈ join sep ts) : c ∈ sep ∨ ∃ t ∈ ts, c ∈ t := by
  induction ts with
  | nil => cases h
  | cons t ts ih =>
    cases ts with
    | nil => exact .inr ⟨t, List.mem_cons_self, h⟩
    | cons t' ts =>
      simp only [join, List.mem_append] at h
      rcases h with (h | h) | h
      · exact .inr ⟨t, List.mem_cons_self, h⟩
      · exact .inl h
      · rcases ih h with h | ⟨t'', ht'', h⟩
        · exact .inl h
        · exact .inr ⟨t'', List.mem_cons_of_mem _ ht'', h⟩

end Text

-- -----------------------------------------------------------------------------------------
-- Normal names
-- -----------------------------------------------------------------------------------------

namespace Category

/-- A name with spaces for its underscores. -/
def spaced (name : Text) : Text := name.map fun c => if c == '_' then ' ' else c

theorem normalName_eq (name : Text) :
    normalName name = Title.upperFirst (Text.join [' '] (Text.words (spaced name))) := rfl

theorem spaced_append (s t : Text) : spaced (s ++ t) = spaced s ++ spaced t := List.map_append

theorem spaced_blank (h : Blank g) : Blank (spaced g) := by
  intro c hc
  obtain ⟨d, hd, rfl⟩ := List.mem_map.mp hc
  split
  · decide
  · exact h d hd

theorem spaced_eq_self (h : '_' ∉ t) : spaced t = t := by
  refine (List.map_congr_left fun c hc => ?_).trans (List.map_id t)
  have hne : c ≠ '_' := fun he => h (he ▸ hc)
  simp [hne]

theorem underscore_notMem_spaced (t : Text) : '_' ∉ spaced t := by
  intro h
  obtain ⟨c, -, hc⟩ := List.mem_map.mp h
  split at hc
  · cases hc
  · rename_i hne
    exact hne (beq_iff_eq.mpr hc)

/-- White space around a name does not count. -/
theorem normalName_blank_append (h : Blank g) (t : Text) : normalName (g ++ t) = normalName t := by
  rw [normalName_eq, spaced_append, Text.words_blank_append (spaced_blank h)]
  rfl

theorem normalName_append_blank (h : Blank g) (t : Text) : normalName (t ++ g) = normalName t := by
  rw [normalName_eq, spaced_append, Text.words_append_blank (spaced_blank h)]
  rfl

theorem unreached_underscore : Chars.unreached '_'.toNat = true := by decide +kernel

theorem isWord_toUpper_append (h : IsWord (c :: w)) : IsWord (Chars.toUpper c ++ w) where
  ne_nil := by
    obtain ⟨d, ds, hc, -⟩ := Chars.toUpper_toUpper c
    simp [hc]
  solid d hd := by
    rcases List.mem_append.mp hd with hd | hd
    · by_contra hb
      rw [Bool.not_eq_false] at hb
      obtain rfl := Chars.eq_of_mem_toUpper (Chars.unreached_blank hb) hd
      rw [h.solid d List.mem_cons_self] at hb
      cases hb
    · exact h.solid d (List.mem_cons_of_mem c hd)

theorem spaced_join {ws : List Text} (h : ∀ w ∈ ws, '_' ∉ w) :
    spaced (Text.join [' '] ws) = Text.join [' '] ws := by
  refine spaced_eq_self fun hm => ?_
  rcases Text.mem_join hm with hm | ⟨w, hw, hm⟩
  · exact absurd hm (by decide)
  · exact h w hw hm

/-- A first word in upper case has no underscores, is not empty and has no white space, like the one
that it comes from. -/
theorem normalName_normalName (name : Text) : normalName (normalName name) = normalName name := by
  have hword := fun w (hw : w ∈ Text.words (spaced name)) => (Text.of_mem_words hw).1
  have hunder : ∀ w ∈ Text.words (spaced name), '_' ∉ w := fun w hw hm =>
    underscore_notMem_spaced name ((Text.of_mem_words hw).2 hm)
  rw [normalName_eq name]
  generalize Text.words (spaced name) = ws at hword hunder
  cases ws with
  | nil => rfl
  | cons w ws =>
    rw [List.forall_mem_cons] at hword hunder
    obtain ⟨c, w, rfl⟩ := List.exists_cons_of_ne_nil hword.1.ne_nil
    have hfirst : '_' ∉ Chars.toUpper c ++ w := by
      rw [List.mem_append, not_or]
      refine ⟨fun hm => ?_, fun hm => hunder.1 (List.mem_cons_of_mem c hm)⟩
      obtain rfl := Chars.eq_of_mem_toUpper unreached_underscore hm
      exact hunder.1 List.mem_cons_self
    have hupper : Title.upperFirst (Text.join [' '] ((c :: w) :: ws)) =
        Text.join [' '] ((Chars.toUpper c ++ w) :: ws) := by
      cases ws <;> simp [Text.join, Title.upperFirst]
    have hwords : Text.words (spaced (Text.join [' '] ((Chars.toUpper c ++ w) :: ws))) =
        (Chars.toUpper c ++ w) :: ws := by
      rw [spaced_join (List.forall_mem_cons.mpr ⟨hfirst, hunder.2⟩),
        Text.words_join (List.forall_mem_cons.mpr ⟨isWord_toUpper_append hword.1, hword.2⟩)]
    rw [normalName_eq, hupper, hwords, ← hupper, Title.upperFirst_upperFirst]

/-- White space in a normal name is single spaces, and signs are those of the name. -/
theorem mem_of_mem_normalName (hc : Chars.unreached c.toNat = true) (h : c ∈ normalName name) :
    c = ' ' ∨ (c ∈ name ∧ Chars.isBlank c = false) := by
  have hjoin : c ∈ Text.join [' '] (Text.words (spaced name)) := by
    rw [normalName_eq] at h
    cases hj : Text.join [' '] (Text.words (spaced name)) with
    | nil =>
      rw [hj] at h
      cases h
    | cons d t =>
      rw [hj, Title.upperFirst] at h
      rcases List.mem_append.mp h with h | h
      · rw [Chars.eq_of_mem_toUpper hc h]
        exact List.mem_cons_self
      · exact List.mem_cons_of_mem d h
  rcases Text.mem_join hjoin with h | ⟨w, hw, h⟩
  · exact .inl (List.mem_singleton.mp h)
  · obtain ⟨d, hd, rfl⟩ := List.mem_map.mp ((Text.of_mem_words hw).2 h)
    have hsolid := (Text.of_mem_words hw).1.solid _ h
    split at hsolid
    · cases hsolid
    · rename_i hne
      rw [if_neg hne] at *
      exact .inr ⟨hd, hsolid⟩

end Category

end Wikitext
