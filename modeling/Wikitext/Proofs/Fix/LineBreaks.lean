import Wikitext.Fix.Typography
import Wikitext.Proofs.Pattern.Phrase

/-!
# Runs of line breaks

A run of line breaks gives way to white space, or to nothing. What stands on both sides of it may then
join to a new tag, and to a new run, if a tag is left open there. Where every tag is closed before
the next one is opened, a tag in the new text is a tag of the old one, and a run around the place would
have begun earlier; so no run is left.
-/

namespace Wikitext.Fix

open Pattern

variable {rs : List Text}

-- -----------------------------------------------------------------------------------------
-- Tags and runs of them
-- -----------------------------------------------------------------------------------------

def breakRunPattern : Pattern := breakTag ++ many1 (blanks ++ breakTag)

theorem breakRun_eq : breakRun = breakRunPattern.compile := rfl

/-- What is between the angle brackets. -/
def breakParts : List Pattern :=
  [blanks, opt (lit "/"), blanks, lit "br", blanks, opt (lit "/"), blanks].map caseless

theorem breakTag_eq : breakTag =
    breakParts.foldl (· ++ ·) (lit "<").caseless ++ (lit ">").caseless := rfl

theorem exists_inside (h : breakTag.Words x) :
    ∃ y, x = '<' :: (y ++ ['>']) ∧ '<' ∉ y ∧ '>' ∉ y := by
  have hparts : ∀ p ∈ breakParts, p.anchorless = true := by
    rw [breakParts, List.forall_mem_map]
    intro p hp
    rw [anchorless_caseless]
    revert p
    simp [anchorless_ofText, anchorless, blanks, many, blank, opt, lit]
  have havoids : (inOrder breakParts).avoids ['<', '>'] = true := by decide +kernel
  obtain ⟨_, _, rfl, ⟨gs, hfront⟩, ⟨_, hend⟩⟩ := (words_append rfl rfl).mp (breakTag_eq ▸ h)
  obtain ⟨_, y, _, _, rfl, rfl, hstart, hy⟩ := (reads_foldl hparts).mp hfront
  rw [lit, caseless_ofText (by decide)] at hstart hend
  obtain ⟨rfl, -⟩ := forms_ofText.mp (hstart.anywhere rfl none [])
  obtain ⟨rfl, -⟩ := forms_ofText.mp hend
  have hall := hy.avoids havoids
  exact ⟨y, by simp, fun hm => hall _ hm (by decide), fun hm => hall _ hm (by decide)⟩

theorem lexical_breakRun : breakRunPattern.Lexical := ⟨rfl, rfl, rfl⟩

theorem words_breakRun_iff : breakRunPattern.Words w ↔ ∃ x rs, breakTag.Words x ∧ rs ≠ [] ∧
    (∀ r ∈ rs, (blanks ++ breakTag).Words r) ∧ w = x ++ rs.flatten := by
  rw [breakRunPattern, words_append rfl rfl]
  constructor
  · rintro ⟨x, _, rfl, hx, ⟨gs, h⟩⟩
    obtain ⟨rs, hrs, hlen, rfl⟩ := h.rounds rfl
    exact ⟨x, rs, hx, List.ne_nil_of_length_pos hlen, hrs, rfl⟩
  · rintro ⟨x, rs, hx, hne, hrs, rfl⟩
    exact ⟨x, rs.flatten, rfl, hx, words_rounds rfl hrs (List.length_pos_iff.mpr hne)⟩

/-- Two runs with blanks between them. -/
theorem breakRun_join (hx : breakTag.Words x) (hrs : ∀ r ∈ rs, (blanks ++ breakTag).Words r)
    (hb : blanks.Words b) (hw : breakRunPattern.Words w) :
    breakRunPattern.Words (x ++ (rs.flatten ++ b) ++ w) := by
  obtain ⟨x', rs', hx', hne, hrs', rfl⟩ := words_breakRun_iff.mp hw
  refine words_breakRun_iff.mpr ⟨x, rs ++ (b ++ x') :: rs', hx, by simp, ?_, by simp⟩
  rw [List.forall_mem_append, List.forall_mem_cons]
  exact ⟨hrs, (words_append rfl rfl).mpr ⟨b, x', rfl, hb, hx'⟩, hrs'⟩

-- -----------------------------------------------------------------------------------------
-- Closed tags
-- -----------------------------------------------------------------------------------------

/-- Every tag that is opened is closed. -/
def Closed (t : Text) : Prop := ∀ a y, t = a ++ '<' :: y → '>' ∈ y

/-- A tag is closed before another one is opened. -/
def Paired (t : Text) : Prop := ∀ a y r, t = a ++ '<' :: (y ++ '<' :: r) → '>' ∈ y

theorem Closed.of_append (h : Closed (u ++ v)) : Closed v := fun a y hv =>
  h (u ++ a) y (by rw [hv, List.append_assoc])

theorem Paired.of_append (h : Paired (u ++ v)) : Paired v := fun a y r hv =>
  h (u ++ a) y r (by rw [hv, List.append_assoc])

/-- A closed text has the whole of a tag that it begins with. -/
theorem exists_behind_tag (hx : breakTag.Words x) (hl : Closed l) (hne : l ≠ [])
    (h : x ++ s = l ++ z) : ∃ k, l = x ++ k := by
  rcases List.append_eq_append_iff.mp h with ⟨k, rfl, -⟩ | ⟨k, hk, -⟩
  · exact ⟨k, rfl⟩
  · obtain ⟨y, rfl, -, hy⟩ := exists_inside hx
    obtain ⟨c, l, rfl⟩ := List.exists_cons_of_ne_nil hne
    obtain ⟨rfl, hrest⟩ : '<' = c ∧ y ++ ['>'] = l ++ k := List.cons.inj hk
    obtain ⟨p, q, rfl, hp⟩ := List.eq_append_cons_of_mem (hl [] l rfl)
    rw [List.append_assoc, List.cons_append] at hrest
    obtain ⟨rfl, hend⟩ := append_cons_inj hy hp hrest
    obtain ⟨rfl, -⟩ := List.append_eq_nil_iff.mp hend.symm
    exact ⟨[], by simp⟩

/-- A closed front of tags with blanks between them ends in blanks. By induction on the tags. -/
theorem exists_tags (hrs : ∀ r ∈ rs, (blanks ++ breakTag).Words r) (hk : Closed k)
    (h : rs.flatten = k ++ z) :
    ∃ (rs' : List Text) (b : Text), k = rs'.flatten ++ b ∧
      (∀ r ∈ rs', (blanks ++ breakTag).Words r) ∧ blanks.Words b := by
  have hnil : blanks.Words [] := ⟨[], .stop⟩
  induction rs generalizing k with
  | nil =>
    obtain ⟨rfl, -⟩ := List.append_eq_nil_iff.mp h.symm
    exact ⟨[], [], rfl, by simp, hnil⟩
  | cons r rs ih =>
    rw [List.forall_mem_cons] at hrs
    obtain ⟨hr, hrest⟩ := hrs
    obtain ⟨b, x, hbx, ⟨gs, hb⟩, hx⟩ := (words_append rfl rfl).mp hr
    rw [hbx] at hr h
    rw [List.flatten_cons, List.append_assoc] at h
    rcases List.append_eq_append_iff.mp h with ⟨k', rfl, hk'⟩ | ⟨k', rfl, -⟩
    · by_cases hne : k' = []
      · exact ⟨[], b, by simp [hne], by simp, ⟨gs, hb⟩⟩
      · obtain ⟨k'', rfl⟩ := exists_behind_tag hx hk.of_append hne hk'
        rw [List.append_assoc, List.append_cancel_left_eq] at hk'
        obtain ⟨rs', b', rfl, hrs', hb'⟩ := ih hrest hk.of_append.of_append hk'
        exact ⟨(b ++ x) :: rs', b', by simp, List.forall_mem_cons.mpr ⟨hr, hrs'⟩, hb'⟩
    · have hblank := (forms_run.mp hb).1
      exact ⟨[], k, rfl, by simp, ⟨[], forms_run.mpr
        ⟨fun c hc => hblank c (List.mem_append_left k' hc), rfl⟩⟩⟩

-- -----------------------------------------------------------------------------------------
-- No run is left
-- -----------------------------------------------------------------------------------------

/-- By induction on the runs of the first text. -/
theorem free_of_replaces {f : Match → Text} (h : Replaces breakRunPattern f b t t')
    (hf : ∀ m, ∀ c ∈ f m, Chars.isBlank c = true) (ht : Paired t) :
    Free breakRunPattern.Words t' := by
  induction h with
  | rest hvacant => exact hvacant.free lexical_breakRun
  | @hit b u v r m r' hvacant hm _ ih =>
    have hv : breakRunPattern.Words v := ⟨_, hm.reads.anywhere rfl none []⟩
    rintro w hw ⟨a, s, hin⟩
    have hne := lexical_breakRun.ne_nil w hw
    obtain ⟨x, rs, hx, -, hrs, rfl⟩ := words_breakRun_iff.mp hw
    have hhead : (x ++ rs.flatten).head? = some '<' := by
      obtain ⟨y, rfl, -⟩ := exists_inside hx
      rfl
    rw [List.append_assoc] at hin
    rcases begins_or_behind hne hin.symm with ⟨l, rfl, hl⟩ | ⟨a', -, hbehind⟩
    · -- The run would begin in front of the match: with the tags of the match it makes a longer one.
      rw [List.append_assoc a l, List.append_cancel_left_eq] at hin
      have hlne : l ≠ [] := by
        rintro rfl
        rw [hhead] at hl
        cases hl
      have hclosed : Closed l := by
        rintro p y rfl
        obtain ⟨x', rs', hx', -, -, rfl⟩ := words_breakRun_iff.mp hv
        obtain ⟨y', rfl, -⟩ := exists_inside hx'
        exact ht (a ++ p) y (y' ++ ['>'] ++ (rs'.flatten ++ r)) (by simp)
      rw [List.append_assoc] at hin
      obtain ⟨k, rfl⟩ := exists_behind_tag hx hclosed hlne hin
      rw [List.append_assoc, List.append_cancel_left_eq] at hin
      rcases List.append_eq_append_iff.mp hin with ⟨z, rfl, -⟩ | ⟨z, hz, -⟩
      · exact hvacant.free lexical_breakRun _ hw ⟨a, z, by simp⟩
      · obtain ⟨rs', b', rfl, hrs', hb'⟩ := exists_tags hrs hclosed.of_append hz
        obtain ⟨gs, hlong⟩ := breakRun_join hx hrs' hb' hv
        exact hvacant a _ _ r gs rfl hlne (by simp) (hlong.anywhere rfl _ _)
    · rcases begins_or_behind hne hbehind with ⟨l, hl, hlhead⟩ | ⟨a'', -, hlater⟩
      · have hmem : '<' ∈ f m := by
          rw [hl]
          exact List.mem_append_right a' (List.mem_of_head? (hlhead.trans hhead))
        exact absurd (hf m '<' hmem) (by decide)
      · exact ih (ht.of_append.of_append) _ hw ⟨a'', s, by rw [hlater, List.append_assoc]⟩

/-- Where every tag is closed before the next one is opened, no run is left, and there is nothing to do
the next time. -/
theorem lineBreakRuns_settled (h : Paired t) : Free breakRunPattern.Words (lineBreakRuns t) ∧
    lineBreakRuns (lineBreakRuns t) = lineBreakRuns t := by
  have hreplaces : ∀ t, ∃ f, (∀ m, ∀ c ∈ f m, Chars.isBlank c = true) ∧
      Replaces breakRunPattern f none t (lineBreakRuns t) := by
    intro t
    rw [lineBreakRuns, breakRun_eq]
    exact ⟨_, fun m => by split <;> decide, replaces_replaceAll rfl rfl _ t⟩
  obtain ⟨f, hf, hfirst⟩ := hreplaces t
  have hfree := free_of_replaces hfirst hf h
  refine ⟨hfree, ?_⟩
  obtain ⟨f', -, hsecond⟩ := hreplaces (lineBreakRuns t)
  refine hsecond.eq_self rfl ((vacant_iff rfl).mpr fun a w r gs ht hreads => ?_)
  exact hfree w ⟨gs, hreads.anywhere rfl none []⟩ ⟨a, r, by rw [ht, List.append_assoc]⟩

end Wikitext.Fix
