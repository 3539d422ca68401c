import Wikitext.Diff.Row
import Wikitext.Proofs.Diff.Lines

/-!
# What rows show

Every row of a comparison shows lines of one hunk (`exists_hunk_of_mem_rows`).
A hunk that differs is shown in full, whatever the context.
-/

namespace Wikitext

open Diff

-- -----------------------------------------------------------------------------------------
-- Rows of a hunk
-- -----------------------------------------------------------------------------------------

namespace Row

/-- The row has lines of the hunk, side by side where it has two. -/
inductive Shows (h : Hunk) : Row → Prop
  | header : Shows h (.header i j)
  | context : h.same = true → k < h.leftLength →
      Shows h (.context (h.leftStart + k) (h.rightStart + k))
  | changed : h.same = false → k < h.leftLength → k < h.rightLength →
      Shows h (.changed (h.leftStart + k) (h.rightStart + k))
  | deleted : h.same = false → h.leftStart ≤ i → i < h.leftStop → Shows h (.deleted i)
  | added : h.same = false → h.rightStart ≤ j → j < h.rightStop → Shows h (.added j)

variable {h : Hunk} {r : Row} {n : Nat}

theorem shows_of_contextRows (hsame : h.same = true) (hcount : first + count ≤ h.leftLength)
    (hr : r ∈ contextRows h first count) : Shows h r := by
  obtain ⟨k, hk, rfl⟩ := List.mem_map.mp hr
  have hlt := (List.mem_range'_1.mp hk).2
  exact .context hsame (by omega)

theorem shows_of_changeRows (hdiffer : h.same = false) (hr : r ∈ changeRows h) : Shows h r := by
  simp only [changeRows, List.mem_append, List.mem_map, List.mem_range, List.mem_range'_1,
    Hunk.leftLength, Hunk.rightLength] at hr
  obtain (⟨k, hk, rfl⟩ | ⟨i, hi, rfl⟩) | ⟨j, hj, rfl⟩ := hr
  · exact .changed hdiffer (by unfold Hunk.leftLength; omega) (by unfold Hunk.rightLength; omega)
  · exact .deleted hdiffer (by omega) (by omega)
  · exact .added hdiffer (by omega) (by omega)

theorem shows_of_header {pending : Bool}
    (hr : r ∈ if pending then [Row.header i j] else []) : Shows h r := by
  cases pending with
  | false => cases hr
  | true => exact List.mem_singleton.mp hr ▸ .header

/-- The rows of the first hunk stand before those of the others; a change is shown in full. -/
theorem ofHunks_cons (n : Nat) (isFirst pending : Bool) (h : Hunk) (rest : List Hunk) :
    ∃ shown pending', ofHunks n isFirst pending (h :: rest) = shown ++ ofHunks n false pending' rest ∧
      (∀ r ∈ shown, Shows h r) ∧ (h.same = false → changeRows h ⊆ shown) := by
  cases hsame : h.same with
  | false =>
    simp only [ofHunks, hsame, Bool.false_eq_true, if_false]
    refine ⟨_, false, rfl, fun r hr => ?_, fun _ => List.subset_append_right _ _⟩
    obtain hr | hr := List.mem_append.mp hr
    · exact shows_of_header hr
    · exact shows_of_changeRows hsame hr
  | true =>
    simp only [ofHunks, hsame, if_true]
    generalize hlead : (if isFirst = true then 0 else min n h.leftLength) = lead
    generalize htrail : (if rest.isEmpty = true then 0 else min n (h.leftLength - lead)) = trail
    have hle : lead + trail ≤ h.leftLength := by
      have hlead' : lead ≤ h.leftLength := by
        rw [← hlead]
        split <;> omega
      have htrail' : trail ≤ h.leftLength - lead := by
        rw [← htrail]
        split <;> omega
      omega
    have hfirst : ∀ r ∈ contextRows h 0 lead, Shows h r := fun r hr =>
      shows_of_contextRows hsame (by omega) hr
    by_cases ht : trail = 0
    · rw [if_pos ht]
      exact ⟨_, _, rfl, hfirst, by simp⟩
    · rw [if_neg ht, ← List.append_assoc]
      refine ⟨_, false, rfl, fun r hr => ?_, by simp⟩
      simp only [List.mem_append] at hr
      obtain hr | hr | hr := hr
      · exact hfirst r hr
      · exact shows_of_header hr
      · exact shows_of_contextRows hsame (by omega) hr

theorem exists_hunk_of_mem_ofHunks (hr : r ∈ ofHunks n isFirst pending hs) :
    ∃ h ∈ hs, Shows h r := by
  induction hs generalizing isFirst pending with
  | nil => cases hr
  | cons h hs ih =>
    obtain ⟨shown, pending', heq, hshows, -⟩ := ofHunks_cons n isFirst pending h hs
    rw [heq, List.mem_append] at hr
    obtain hr | hr := hr
    · exact ⟨h, List.mem_cons_self, hshows r hr⟩
    · obtain ⟨h', hmem, hshows'⟩ := ih hr
      exact ⟨h', List.mem_cons_of_mem _ hmem, hshows'⟩

theorem changeRows_subset (hmem : h ∈ hs) (hdiffer : h.same = false) (n : Nat)
    (isFirst pending : Bool) : changeRows h ⊆ ofHunks n isFirst pending hs := by
  induction hs generalizing isFirst pending with
  | nil => cases hmem
  | cons g hs ih =>
    obtain ⟨shown, pending', heq, -, hchange⟩ := ofHunks_cons n isFirst pending g hs
    rw [heq]
    obtain rfl | hmem := List.mem_cons.mp hmem
    · exact List.subset_append_of_subset_left _ (hchange hdiffer)
    · exact List.subset_append_of_subset_right _ (ih hmem false pending')

theorem changeRows_ne_nil (h : Hunk) (hmore : h.leftStart < h.leftStop ∨ h.rightStart < h.rightStop) :
    changeRows h ≠ [] := by
  intro hnil
  have hlength := congrArg List.length hnil
  simp only [changeRows, List.length_append, List.length_map, List.length_range,
    List.length_range', List.length_nil, Hunk.leftLength, Hunk.rightLength] at hlength
  omega

/-- The row shows a change. -/
def isChange : Row → Bool
  | .header _ _ | .context _ _ => false
  | .changed _ _ | .deleted _ | .added _ => true

theorem isChange_of_changeRows (hr : r ∈ changeRows h) : r.isChange = true := by
  simp only [changeRows, List.mem_append, List.mem_map] at hr
  obtain (⟨_, -, rfl⟩ | ⟨_, -, rfl⟩) | ⟨_, -, rfl⟩ := hr <;> rfl

end Row

-- -----------------------------------------------------------------------------------------
-- Comparisons of lines
-- -----------------------------------------------------------------------------------------

namespace TextDiff

/-- Two lists of lines compared. -/
def ofLines (left right : List Text) (context : Nat) : TextDiff where
  left := left.toArray
  right := right.toArray
  hunks := lineHunks left right
  context := context

theorem ofTexts_eq_ofLines (left right : Text) (context : Nat) :
    ofTexts left right context = ofLines (splitLines left) (splitLines right) context := rfl

variable {left right : List Text} {context : Nat}

theorem hunks_ofLines (left right : List Text) (context : Nat) :
    (ofLines left right context).hunks = Diff.hunks left right := lineHunks_eq_hunks left right

theorem leftLine_ofLines (hi : i < left.length) (right : List Text) (n : Nat) :
    left[i]? = some ((ofLines left right n).leftLine i) := by
  simp [ofLines, leftLine, hi]

theorem rightLine_ofLines (hj : j < right.length) (left : List Text) (n : Nat) :
    right[j]? = some ((ofLines left right n).rightLine j) := by
  simp [ofLines, rightLine, hj]

theorem exists_hunk_of_mem_rows (hr : r ∈ (ofLines left right context).rows) :
    ∃ h ∈ Diff.hunks left right, r.Shows h := by
  rw [rows, hunks_ofLines] at hr
  exact Row.exists_hunk_of_mem_ofHunks hr

end TextDiff

end Wikitext
