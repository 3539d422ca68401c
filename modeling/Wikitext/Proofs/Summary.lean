import Wikitext.Proofs.Text.Basic
import Wikitext.Summary

/-!
# Summaries put together

A summary that grows by fragments one at a time has only trimmed ones. Adding
the fragments of another summary is therefore the same as adding what that
summary was made of (`extend_push`).

`summaries_normal`: whatever the calls are by which a summary is built, and
whatever the summaries that are added were built of, its fragments are those
that were pushed, trimmed, without blank ones and without repetition, in the
order in which they came first. The two kinds of replacements do not mix.
-/

namespace Wikitext

namespace EditSummary

variable {s o : EditSummary}

/-- No fragment is blank or begins or ends with a blank. -/
def Tidy (s : EditSummary) : Prop := ∀ f ∈ s.fragments, f ≠ [] ∧ Text.trim f = f

theorem tidy_empty : Tidy {} := by simp [Tidy]

theorem push_cases (s : EditSummary) (f : Text) :
    ((Text.trim f = [] ∨ Text.trim f ∈ s.fragments) ∧ s.push f = s) ∨
      (Text.trim f ≠ [] ∧ Text.trim f ∉ s.fragments ∧
        s.push f = { fragments := s.fragments ++ [Text.trim f] }) := by
  by_cases hnew : Text.trim f ≠ [] ∧ Text.trim f ∉ s.fragments
  · exact .inr ⟨hnew.1, hnew.2, by simp [push, hnew.1, hnew.2]⟩
  · have hold : Text.trim f = [] ∨ Text.trim f ∈ s.fragments := by
      rwa [not_and_or, not_not, not_not] at hnew
    refine .inl ⟨hold, ?_⟩
    rw [push, if_pos (by simpa using hold)]

/-- Only the trimmed fragment counts. -/
theorem push_trim (s : EditSummary) (f : Text) : s.push (Text.trim f) = s.push f := by
  simp only [push, Text.trim_trim]

theorem push_of_mem (h : Text.trim f ∈ s.fragments) : s.push f = s := by
  obtain ⟨-, he⟩ | ⟨-, hnot, -⟩ := push_cases s f
  · exact he
  · exact absurd h hnot

theorem Tidy.push (h : Tidy s) (f : Text) : Tidy (s.push f) := by
  obtain ⟨-, he⟩ | ⟨hf, -, he⟩ := push_cases s f <;> rw [he]
  · exact h
  · intro g hg
    obtain hg | rfl := List.mem_append.mp hg |>.imp_right List.mem_singleton.mp
    · exact h g hg
    · exact ⟨hf, Text.trim_trim f⟩

theorem fragments_push_subset (s : EditSummary) (f : Text) :
    s.fragments ⊆ (s.push f).fragments := by
  obtain ⟨-, he⟩ | ⟨-, -, he⟩ := push_cases s f <;> rw [he]
  · exact List.Subset.refl _
  · exact List.subset_append_left _ _

theorem mem_push (hf : Text.trim f ≠ []) (s : EditSummary) :
    Text.trim f ∈ (s.push f).fragments := by
  obtain ⟨hold, he⟩ | ⟨-, -, he⟩ := push_cases s f <;> rw [he]
  · exact hold.resolve_left hf
  · exact List.mem_append_right _ (List.mem_singleton.mpr rfl)

/-- By induction on the fragments that are added. -/
theorem fragments_foldl_subset (s : EditSummary) (fs : List Text) :
    s.fragments ⊆ (fs.foldl push s).fragments := by
  induction fs generalizing s with
  | nil => exact List.Subset.refl _
  | cons f fs ih => exact List.Subset.trans (fragments_push_subset s f) (ih (s.push f))

theorem mem_extend_right (s : EditSummary) (ho : Tidy o) (hf : f ∈ o.fragments) :
    f ∈ (s.extend o).fragments := by
  obtain ⟨before, after, hsplit⟩ := List.append_of_mem hf
  obtain ⟨hne, htrim⟩ := ho f hf
  rw [extend, hsplit, List.foldl_append, List.foldl_cons]
  have hmem := mem_push (f := f) (by rwa [htrim]) (before.foldl push s)
  rw [htrim] at hmem
  exact fragments_foldl_subset _ after hmem

theorem extend_empty (s : EditSummary) : s.extend {} = s := rfl

theorem extend_push (s : EditSummary) (ho : Tidy o) (f : Text) :
    s.extend (o.push f) = (s.extend o).push f := by
  obtain ⟨hblank | hold, he⟩ | ⟨-, -, he⟩ := push_cases o f <;> rw [he]
  · simp [push, hblank]
  · exact (push_of_mem (mem_extend_right s ho hold)).symm
  · rw [extend, List.foldl_append, List.foldl_cons, List.foldl_nil, push_trim]
    rfl

-- -----------------------------------------------------------------------------------------
-- The fragments of many calls
-- -----------------------------------------------------------------------------------------

/-- Fragments as a summary has them: trimmed, without blank ones, and each where it came first. -/
def tidied (fs : List Text) : List Text := ((fs.map Text.trim).filter (· ≠ [])).eraseDups

theorem eraseDups_concat (fs : List Text) (f : Text) :
    (fs ++ [f]).eraseDups = if f ∈ fs then fs.eraseDups else fs.eraseDups ++ [f] := by
  rw [List.eraseDups_append]
  split_ifs with hf <;> simp [List.removeAll, hf, List.eraseDups_cons]

theorem tidied_concat (fs : List Text) (f : Text) :
    tidied (fs ++ [f]) = if Text.trim f = [] ∨ Text.trim f ∈ tidied fs then tidied fs
      else tidied fs ++ [Text.trim f] := by
  by_cases hblank : Text.trim f = []
  · simp [tidied, hblank]
  · have hlast : tidied (fs ++ [f]) =
        (((fs.map Text.trim).filter (· ≠ [])) ++ [Text.trim f]).eraseDups := by
      simp [tidied, hblank]
    rw [hlast, eraseDups_concat]
    simp only [tidied, List.mem_eraseDups, hblank, false_or]

/-- By induction on the fragments from the last one on, which is pushed last. -/
theorem fragments_foldl (fs : List Text) : (fs.foldl push {}).fragments = tidied fs := by
  induction fs using List.reverseRecOn with
  | nil => rfl
  | append_singleton fs f ih =>
    rw [List.foldl_append, List.foldl_cons, List.foldl_nil, tidied_concat]
    obtain ⟨hold, he⟩ | ⟨hne, hnew, he⟩ := push_cases (fs.foldl push {}) f <;> rw [he]
    · rw [ih] at hold
      rw [if_pos hold, ih]
    · rw [ih] at hnew
      rw [if_neg (by simp [hne, hnew]), ih]

example : ((["typo fixing", "  ", "general fixes", "typo fixing "].map (·.toList)).foldl push {}).text =
    "typo fixing, general fixes".toList := by decide

theorem tidy_foldl (h : Tidy s) (fs : List Text) : Tidy (fs.foldl push s) := by
  induction fs generalizing s with
  | nil => exact h
  | cons f fs ih => exact ih (h.push f)

/-- What was pushed onto the other summary might as well have been pushed here. -/
theorem extend_foldl (s : EditSummary) (fs : List Text) :
    s.extend (fs.foldl push {}) = fs.foldl push s := by
  induction fs using List.reverseRecOn with
  | nil => rfl
  | append_singleton fs f ih =>
    simp only [List.foldl_append, List.foldl_cons, List.foldl_nil]
    rw [extend_push s (tidy_foldl tidy_empty fs), ih]

theorem extend_extend_self (s : EditSummary) (ho : Tidy o) :
    (s.extend o).extend o = s.extend o := by
  have hstays : ∀ fs, fs ⊆ o.fragments → fs.foldl push (s.extend o) = s.extend o := by
    intro fs
    induction fs with
    | nil => exact fun _ => rfl
    | cons f fs ih =>
      intro hsub
      obtain ⟨hf, hfs⟩ := List.cons_subset.mp hsub
      have hmem : Text.trim f ∈ (s.extend o).fragments := by
        rw [(ho f hf).2]
        exact mem_extend_right s ho hf
      rw [List.foldl_cons, push_of_mem hmem, ih hfs]
  exact hstays o.fragments (List.Subset.refl _)

theorem nodup_push (h : s.fragments.Nodup) (f : Text) : (s.push f).fragments.Nodup := by
  obtain ⟨-, he⟩ | ⟨-, hnew, he⟩ := push_cases s f <;> rw [he]
  · exact h
  · refine List.nodup_append.mpr ⟨h, by simp, fun g hg f' hf' => ?_⟩
    rw [List.mem_singleton.mp hf']
    exact fun he => hnew (he ▸ hg)

theorem nodup_foldl (h : s.fragments.Nodup) (fs : List Text) :
    (fs.foldl push s).fragments.Nodup := by
  induction fs generalizing s with
  | nil => exact h
  | cons f fs ih => exact ih (nodup_push h f)

-- -----------------------------------------------------------------------------------------
-- Summaries built by calls
-- -----------------------------------------------------------------------------------------

/-- The calls by which a summary is built. A summary that is added was built in the same way. -/
inductive Building
  | empty
  | push (before : Building) (fragment : Text)
  | extend (before other : Building)

namespace Building

def summary : Building → EditSummary
  | .empty => {}
  | .push before fragment => before.summary.push fragment
  | .extend before other => before.summary.extend other.summary

/-- All that was pushed, here or onto what was added, in its order. -/
def pushed : Building → List Text
  | .empty => []
  | .push before fragment => before.pushed ++ [fragment]
  | .extend before other => before.pushed ++ other.pushed

theorem summary_eq (b : Building) : b.summary = b.pushed.foldl EditSummary.push {} := by
  induction b with
  | empty => rfl
  | push before f ih => rw [summary, pushed, ih, List.foldl_append, List.foldl_cons, List.foldl_nil]
  | extend before other ih iho => rw [summary, pushed, ih, iho, extend_foldl, List.foldl_append]

theorem tidy (b : Building) : Tidy b.summary := by
  rw [summary_eq]
  exact tidy_foldl tidy_empty _

end Building

end EditSummary

namespace ReplacementSummary

/-- Both kinds of fragments of another summary are added. -/
def extend (s o : ReplacementSummary) : ReplacementSummary where
  replaced := s.replaced.extend o.replaced
  removed := s.removed.extend o.removed

structure Tidy (s : ReplacementSummary) : Prop where
  replaced : s.replaced.Tidy
  removed : s.removed.Tidy

theorem tidy_empty : Tidy {} := ⟨EditSummary.tidy_empty, EditSummary.tidy_empty⟩

theorem extend_empty (s : ReplacementSummary) : s.extend {} = s := rfl

namespace Tidy

variable {o : ReplacementSummary}

theorem pushReplaced (h : Tidy o) (before after : Text) (count : Nat) :
    Tidy (o.pushReplaced before after count) := ⟨h.replaced.push _, h.removed⟩

theorem pushRemoved (h : Tidy o) (before : Text) (count : Nat) :
    Tidy (o.pushRemoved before count) := ⟨h.replaced, h.removed.push _⟩

theorem extend_pushReplaced (h : Tidy o) (s : ReplacementSummary) (before after : Text)
    (count : Nat) :
    s.extend (o.pushReplaced before after count) =
      (s.extend o).pushReplaced before after count := by
  simp only [extend, ReplacementSummary.pushReplaced, EditSummary.extend_push _ h.replaced]

theorem extend_pushRemoved (h : Tidy o) (s : ReplacementSummary) (before : Text) (count : Nat) :
    s.extend (o.pushRemoved before count) = (s.extend o).pushRemoved before count := by
  simp only [extend, ReplacementSummary.pushRemoved, EditSummary.extend_push _ h.removed]

end Tidy

-- -----------------------------------------------------------------------------------------
-- Replacements and removals
-- -----------------------------------------------------------------------------------------

/-- What is summarised: a replacement or a removal, with the number of its matches. -/
inductive Entry
  | replaced (before after : Text) (count : Nat)
  | removed (before : Text) (count : Nat)

namespace Entry

def replaced? : Entry → Option Text
  | .replaced before after count => some (before ++ EditSummary.arrow ++ after ++ countSuffix count)
  | .removed .. => none

def removed? : Entry → Option Text
  | .replaced .. => none
  | .removed before count => some (before ++ countSuffix count)

end Entry

def add (s : ReplacementSummary) : Entry → ReplacementSummary
  | .replaced before after count => s.pushReplaced before after count
  | .removed before count => s.pushRemoved before count

/-- Each entry goes to the fragments of its kind and leaves the others alone. -/
theorem foldl_add (s : ReplacementSummary) (entries : List Entry) :
    (entries.foldl add s).replaced =
        (entries.filterMap Entry.replaced?).foldl EditSummary.push s.replaced ∧
      (entries.foldl add s).removed =
        (entries.filterMap Entry.removed?).foldl EditSummary.push s.removed := by
  induction entries generalizing s with
  | nil => exact ⟨rfl, rfl⟩
  | cons e entries ih =>
    obtain ⟨hreplaced, hremoved⟩ := ih (s.add e)
    rw [List.foldl_cons, hreplaced, hremoved]
    cases e <;> exact ⟨rfl, rfl⟩

end ReplacementSummary

/-- Summaries built by any calls have the pushed fragments, trimmed, without blank ones and each
where it came first; adding summaries is pushing their fragments, is associative, and the second
time changes nothing; replacements and removals make two such lists, each of its own entries. -/
theorem summaries_normal :
    (∀ b : EditSummary.Building, b.summary.fragments = EditSummary.tidied b.pushed ∧
        b.summary.fragments.Nodup) ∧
      (∀ b c : EditSummary.Building,
        b.summary.extend c.summary = c.summary.fragments.foldl EditSummary.push b.summary ∧
          b.summary.extend c.summary = c.pushed.foldl EditSummary.push b.summary ∧
          (b.summary.extend c.summary).extend c.summary = b.summary.extend c.summary) ∧
      (∀ b c d : EditSummary.Building, (b.summary.extend c.summary).extend d.summary =
        b.summary.extend (c.summary.extend d.summary)) ∧
      ∀ entries : List ReplacementSummary.Entry,
        let s := entries.foldl ReplacementSummary.add {}
        s.replaced.fragments = EditSummary.tidied (entries.filterMap (·.replaced?)) ∧
          s.removed.fragments = EditSummary.tidied (entries.filterMap (·.removed?)) := by
  refine ⟨fun b => ?_, fun b c => ⟨rfl, ?_, ?_⟩, fun b c d => ?_, fun entries => ?_⟩
  · rw [b.summary_eq]
    exact ⟨EditSummary.fragments_foldl b.pushed, EditSummary.nodup_foldl .nil b.pushed⟩
  · rw [c.summary_eq, EditSummary.extend_foldl]
  · exact EditSummary.extend_extend_self b.summary c.tidy
  · -- The calls on the two sides push the same fragments in the same order.
    have hleft := ((b.extend c).extend d).summary_eq
    have hright := (b.extend (c.extend d)).summary_eq
    simp only [EditSummary.Building.pushed, List.append_assoc] at hleft hright
    exact hleft.trans hright.symm
  · obtain ⟨hreplaced, hremoved⟩ := ReplacementSummary.foldl_add {} entries
    simp only [hreplaced, hremoved]
    exact ⟨EditSummary.fragments_foldl _, EditSummary.fragments_foldl _⟩

end Wikitext
