import Wikitext.Diff.Lines
import Wikitext.Proofs.Diff.Hunks
import Wikitext.Proofs.Text.Basic

/-!
# Numbers in the place of lines

Only the equality of a left and a right element counts in a comparison, so a
renaming that tells them apart changes none of the hunks (`hunks_map`). The
numbers of lines are such names: `lineHunks_eq_hunks`. The lines that are compared
have no line breaks in them.
-/

namespace Wikitext.Diff

-- -----------------------------------------------------------------------------------------
-- Other names for the elements
-- -----------------------------------------------------------------------------------------

section
variable {α β : Type}

/-- Left elements go by the same name as right ones just if they are equal. -/
def TellsApart (f : α → β) (left right : List α) : Prop :=
  ∀ a ∈ left, ∀ b ∈ right, f a = f b ↔ a = b

variable {f : α → β} {left right left' right' : List α}

namespace TellsApart

theorem subset (h : TellsApart f left right) (hl : left' ⊆ left) (hr : right' ⊆ right) :
    TellsApart f left' right' := fun a ha b hb => h a (hl ha) b (hr hb)

theorem drop (h : TellsApart f left right) (n : Nat) :
    TellsApart f (left.drop n) (right.drop n) :=
  h.subset (List.drop_subset n left) (List.drop_subset n right)

theorem take (h : TellsApart f left right) (n m : Nat) :
    TellsApart f (left.take n) (right.take m) :=
  h.subset (List.take_subset n left) (List.take_subset m right)

theorem reverse (h : TellsApart f left right) : TellsApart f left.reverse right.reverse :=
  h.subset (fun _ => List.mem_reverse.mp) (fun _ => List.mem_reverse.mp)

end TellsApart

variable [DecidableEq α] [DecidableEq β]

theorem commonPrefix_map (h : TellsApart f left right) :
    commonPrefix (left.map f) (right.map f) = commonPrefix left right := by
  induction left generalizing right with
  | nil => rfl
  | cons a left ih =>
    cases right with
    | nil => rfl
    | cons b right =>
      have hab : f a = f b ↔ a = b := h a List.mem_cons_self b List.mem_cons_self
      have hrest : TellsApart f left right := h.drop 1
      simp only [List.map_cons, commonPrefix, hab, ih hrest]

theorem positions_map (h : ∀ b ∈ right, f a = f b ↔ a = b) :
    positions (f a) (right.map f) = positions a right := by
  rw [positions, List.zipIdx_map, List.foldl_map, positions]
  refine List.foldl_ext _ _ _ fun found b hb => ?_
  have hab : f b.1 = f a ↔ b.1 = a := by
    rw [eq_comm, h b.1 (List.fst_mem_of_mem_zipIdx hb), eq_comm]
  simp only [Prod.map, id, hab]

theorem chains_map (h : TellsApart f left right) :
    chains (left.map f) (right.map f) = chains left right := by
  rw [chains, List.zipIdx_map, List.foldl_map, chains]
  refine List.foldl_ext _ _ _ fun kept a ha => ?_
  simp only [visit, Prod.map, id, positions_map (h a.1 (List.fst_mem_of_mem_zipIdx ha))]

theorem searchMatches_map (h : TellsApart f left right) :
    searchMatches (left.map f) (right.map f) = searchMatches left right := by
  simp only [searchMatches, longestChain, chains_map h, List.length_map]

theorem lcsMatches_map (h : TellsApart f left right) :
    lcsMatches (left.map f) (right.map f) = lcsMatches left right := by
  have hstart := commonPrefix_map h
  have hrest := h.drop (commonPrefix left right)
  have hstop := commonPrefix_map hrest.reverse
  simp only [lcsMatches, hstart, ← List.map_drop, ← List.map_reverse, hstop, ← List.map_take,
    List.length_map, searchMatches_map (hrest.take _ _)]

theorem hunks_map (h : TellsApart f left right) :
    hunks (left.map f) (right.map f) = hunks left right := by
  rw [hunks, lcsMatches_map h, List.length_map, hunks]

end

-- -----------------------------------------------------------------------------------------
-- Numbers
-- -----------------------------------------------------------------------------------------

section
variable {α : Type} [DecidableEq α]

/-- What is met keeps its number, and `a` is numbered by its place. -/
theorem number_spec (met : Array α) (a : α) :
    met.toList <+: (number met a).2.toList ∧ a ∈ (number met a).2.toList ∧
      (number met a).1 = (number met a).2.toList.idxOf a := by
  obtain ⟨l⟩ := met
  rw [number, List.findIdx?_toArray]
  cases hfound : l.findIdx? (· == a) with
  | some i =>
    obtain ⟨hi, hplace⟩ := List.findIdx?_eq_some_iff_findIdx_eq.mp hfound
    have hidx : l.idxOf a = i := hplace
    exact ⟨List.prefix_refl _, List.idxOf_lt_length_iff.mp (hidx ▸ hi), hidx.symm⟩
  | none =>
    have hnew : a ∉ l := fun ha => by
      simpa using List.findIdx?_eq_none_iff.mp hfound a ha
    exact ⟨by simp, by simp, by simp [List.idxOf_append, hnew]⟩

/-- The numbers are places in any list that goes on from what is met in the end. -/
theorem numberAll_spec (met : Array α) (as : List α) :
    met.toList <+: (numberAll met as).2.toList ∧ as ⊆ (numberAll met as).2.toList ∧
      ∀ later, (numberAll met as).2.toList <+: later →
        (numberAll met as).1 = as.map later.idxOf := by
  induction as generalizing met with
  | nil => exact ⟨List.prefix_refl _, List.nil_subset _, fun _ _ => rfl⟩
  | cons a as ih =>
    obtain ⟨hmet, ha, hplace⟩ := number_spec met a
    obtain ⟨hnext, has, hplaces⟩ := ih (number met a).2
    have hmem := hnext.subset ha
    refine ⟨hmet.trans hnext, List.cons_subset.mpr ⟨hmem, has⟩, fun later hlater => ?_⟩
    have hidx : (number met a).1 = later.idxOf a := by
      obtain ⟨rest, hrest⟩ := hnext.trans hlater
      rw [hplace, ← hrest, List.idxOf_append_of_mem ha]
    change (number met a).1 :: (numberAll (number met a).2 as).1 = _
    rw [List.map_cons, hidx, hplaces later hlater]

/-- Elements are told apart by their numbers. -/
theorem hunks_numbers (left right : List α) :
    hunks (numberAll #[] left).1 (numberAll (numberAll #[] left).2 right).1 = hunks left right := by
  let all := (numberAll (numberAll #[] left).2 right).2.toList
  obtain ⟨-, hleft, hnumbers⟩ := numberAll_spec #[] left
  obtain ⟨hmet, -, hnumbers'⟩ := numberAll_spec (numberAll #[] left).2 right
  have happart : TellsApart all.idxOf left right := fun a ha b _ =>
    List.idxOf_inj (hmet.subset (hleft ha))
  rw [hnumbers all hmet, hnumbers' all (List.prefix_refl _), hunks_map happart]

end

theorem lineHunks_eq_hunks (left right : List Text) : lineHunks left right = hunks left right :=
  hunks_numbers left right

/-- Lines are compared by their numbers, which changes nothing, and elements of any kind may go by
other names, as long as no two of them get the same one. -/
theorem hunks_renamed :
    (∀ left right : List Text, lineHunks left right = hunks left right) ∧
      ∀ {α β : Type} [DecidableEq α] [DecidableEq β] (f : α → β), Function.Injective f →
        ∀ left right : List α, hunks (left.map f) (right.map f) = hunks left right := by
  refine ⟨lineHunks_eq_hunks, fun f hf left right => ?_⟩
  have happart : TellsApart f left right := fun _ _ _ _ => hf.eq_iff
  exact hunks_map happart

theorem hunks_renamed_reverse :
    Function.Injective (List.reverse (α := Char)) ∧
      hunks ([['a', 'b'], ['c'], ['a', 'b']].map List.reverse)
          ([['c'], ['a', 'b'], ['b', 'a']].map List.reverse) =
        [⟨0, 1, 0, 0, false⟩, ⟨1, 3, 0, 2, true⟩, ⟨3, 3, 2, 3, false⟩] :=
  ⟨List.reverse_injective, (hunks_renamed.2 _ List.reverse_injective _ _).trans (by decide +kernel)⟩

-- -----------------------------------------------------------------------------------------
-- Lines
-- -----------------------------------------------------------------------------------------

theorem newline_not_mem_splitLines (t : Text) : ∀ line ∈ splitLines t, '\n' ∉ line := by
  intro line hline
  obtain ⟨piece, hpiece, rfl⟩ := List.mem_map.mp hline
  have hno := Text.not_mem_of_mem_splitOn hpiece
  cases hdrop : Text.dropSuffix? ['\r'] piece with
  | none => exact hno
  | some u =>
    rw [Text.dropSuffix?_eq_some.mp hdrop] at hno
    exact fun h => hno (List.mem_append_left _ h)

end Wikitext.Diff
