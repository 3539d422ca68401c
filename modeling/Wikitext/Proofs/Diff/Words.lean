import Wikitext.Diff.Word
import Wikitext.Proofs.Diff.Hunks
import Wikitext.Proofs.Text.Basic
import Mathlib.Data.List.Chain

/-!
# The words of a line

The words of a line put together are the line, and none of them has an empty
body. The hunks of two lines cut the words of either line into runs.

`IsWords` says what the words of a line are, without saying how to find them:
blanks that the line begins with are a word, and every other word is one
character that stands alone or a run of letters and digits, with the blanks
behind it. No other list of words has these properties: `isWords_iff`.
-/

namespace Wikitext

namespace Word

theorem text_split (t : Text) : (split t).flatMap text = t := by
  fun_induction split t with
  | case1 => rfl
  | case2 c cs body rest ih =>
    have hprefix : body <+: cs := by
      unfold body
      split
      · exact List.takeWhile_prefix isRunning
      · exact List.nil_prefix
    have hbody : body ++ rest = cs := List.prefix_iff_eq_append.mp hprefix
    rw [List.flatMap_cons, ih]
    change (c :: body) ++ rest.takeWhile isBlank ++ rest.dropWhile isBlank = c :: cs
    rw [List.append_assoc, List.takeWhile_append_dropWhile, List.cons_append, hbody]

theorem body_ne_nil_of_mem_split (hw : w ∈ split t) : w.body ≠ [] := by
  fun_induction split t with
  | case1 => cases hw
  | case2 c cs body rest ih =>
    obtain rfl | hw := List.mem_cons.mp hw
    · exact List.cons_ne_nil _ _
    · exact ih hw

theorem text_ofLine (line : Text) : (ofLine line).flatMap text = line := by
  have hrest := text_split (line.dropWhile isBlank)
  have hline := List.takeWhile_append_dropWhile (p := isBlank) (l := line)
  unfold ofLine
  cases hindent : line.takeWhile isBlank with
  | nil =>
    rw [hindent] at hline
    simpa [hrest] using hline
  | cons c cs =>
    rw [hindent] at hline
    simpa [hrest, text] using hline

theorem body_ne_nil_of_mem_ofLine (hw : w ∈ ofLine line) : w.body ≠ [] := by
  unfold ofLine at hw
  obtain hw | hw := List.mem_append.mp hw
  · cases hindent : line.takeWhile isBlank <;> simp_all
  · exact body_ne_nil_of_mem_split hw

end Word

namespace WordDiff

open Diff

variable {left right : Text}

theorem leftStop_le (hh : h ∈ (ofLines left right).hunks) :
    h.leftStop ≤ (Word.ofLine left).length := by
  have hbounds := (left_bounds hh).2
  rwa [List.length_map] at hbounds

theorem rightStop_le (hh : h ∈ (ofLines left right).hunks) :
    h.rightStop ≤ (Word.ofLine right).length := by
  have hbounds := (right_bounds hh).2
  rwa [List.length_map] at hbounds

theorem left_slices (left right : Text) :
    (ofLines left right).hunks.flatMap
        (fun h => (Word.ofLine left).extract h.leftStart h.leftStop) = Word.ofLine left := by
  have hslices := (covers_hunks ((Word.ofLine left).map (·.body))
    ((Word.ofLine right).map (·.body))).left.slices (Word.ofLine left)
  rw [(isMatching_lcsMatches _ _).length_eq, leftRanges, List.flatMap_map, List.length_map] at hslices
  simpa [ofLines] using hslices

theorem right_slices (left right : Text) :
    (ofLines left right).hunks.flatMap
        (fun h => (Word.ofLine right).extract h.rightStart h.rightStop) = Word.ofLine right := by
  have hslices := (covers_hunks ((Word.ofLine left).map (·.body))
    ((Word.ofLine right).map (·.body))).right.slices (Word.ofLine right)
  rw [rightRanges, List.flatMap_map, List.length_map] at hslices
  simpa [ofLines] using hslices

end WordDiff

end Wikitext

namespace Wikitext.Word

-- -----------------------------------------------------------------------------------------
-- Blanks and words
-- -----------------------------------------------------------------------------------------

open Text (takeWhile_append_stop dropWhile_append_stop head_dropWhile)

/-- Spaces and tabs only. -/
def Blanks (t : Text) : Prop := ∀ c ∈ t, c = ' ' ∨ c = '\t'

/-- The word consists of all the blanks that the line begins with. -/
structure IsIndent (line : Text) (w : Word) : Prop where
  not_empty : w.body ≠ []
  blanks : Blanks w.body
  maximal : ∃ rest, line = w.body ++ rest ∧ ∀ c ∈ rest.head?, ¬ (c = ' ' ∨ c = '\t')
  trailing : w.trailing = []

def IsSingle (w : Word) : Prop := ∃ c, CharClass.of c = .single ∧ w.body = [c]

def IsRun (w : Word) : Prop := w.body ≠ [] ∧ ∀ c ∈ w.body, CharClass.of c = .running

/-- What the words of a line are. -/
structure IsWords (line : Text) (ws : List Word) : Prop where
  text : ws.flatMap Word.text = line
  body : ∀ k w, ws[k]? = some w → k = 0 ∧ IsIndent line w ∨ IsSingle w ∨ IsRun w
  trailing : ∀ w ∈ ws, Blanks w.trailing
  apart : ws.IsChain fun w w' => ¬ (IsRun w ∧ w.trailing = [] ∧ IsRun w')

/-- The word stands in front of `rest`, and nothing of `rest` belongs to it. -/
structure Leads (w : Word) (rest : Text) : Prop where
  body : IsSingle w ∨ IsRun w
  trailing : Blanks w.trailing
  no_blank : ∀ c ∈ rest.head?, isBlank c = false
  no_run : IsRun w → w.trailing = [] → ∀ c ∈ rest.head?, isRunning c = false

/-- The text is divided into words, each as long as it can be. -/
inductive Divides : Text → List Word → Prop
  | nil : Divides [] []
  | cons : Leads w rest → Divides rest ws → Divides (w.text ++ rest) (w :: ws)

variable {line t rest : Text} {w : Word} {ws : List Word}

-- -----------------------------------------------------------------------------------------
-- Classes of characters
-- -----------------------------------------------------------------------------------------

theorem isBlank_iff : isBlank c = true ↔ c = ' ' ∨ c = '\t' := by
  unfold isBlank CharClass.of
  split
  · simp_all
  · rename_i h
    simp only [Bool.or_eq_true, beq_iff_eq] at h
    simp only [h, iff_false]
    repeat' split
    all_goals decide

theorem isBlank_eq_false_iff : isBlank c = false ↔ ¬ (c = ' ' ∨ c = '\t') := by
  rw [← isBlank_iff, Bool.not_eq_true]

theorem blanks_iff : Blanks t ↔ ∀ c ∈ t, isBlank c = true := by
  simp only [Blanks, isBlank_iff]

theorem isRunning_iff : isRunning c = true ↔ CharClass.of c = .running := by
  simp [isRunning]

theorem isRunning_of_isBlank (h : isBlank c = true) : isRunning c = false := by
  simp only [isBlank, beq_iff_eq] at h
  simp [isRunning, h]

-- -----------------------------------------------------------------------------------------
-- The first word of a text
-- -----------------------------------------------------------------------------------------

/-- The body begins with no blank, and its first character tells runs from other words. -/
theorem exists_head (h : IsSingle w ∨ IsRun w) :
    ∃ c cs, w.body = c :: cs ∧ isBlank c = false ∧ (isRunning c = true ↔ IsRun w) := by
  rcases h with ⟨c, hc, hbody⟩ | ⟨hne, hbody⟩
  · exact ⟨c, [], hbody, by simp [isBlank, hc], by simp [isRunning, IsRun, hbody, hc]⟩
  · obtain ⟨c, cs, hcs⟩ := List.exists_cons_of_ne_nil hne
    rw [hcs, List.forall_mem_cons] at hbody
    refine ⟨c, cs, hcs, by simp [isBlank, hbody.1], ?_⟩
    simpa [isRunning, IsRun, hcs, hbody.1] using hbody.2

namespace Leads

/-- A run ends in front of what follows it. -/
theorem stop (h : Leads w rest) (hrun : IsRun w) :
    ∀ c ∈ (w.trailing ++ rest).head?, isRunning c = false := by
  cases ht : w.trailing with
  | nil => exact h.no_run hrun ht
  | cons c cs =>
    rintro d ⟨⟩
    exact isRunning_of_isBlank (blanks_iff.mp h.trailing c (by simp [ht]))

theorem split_eq (h : Leads w rest) : split (w.text ++ rest) = w :: split rest := by
  have hblanks := blanks_iff.mp h.trailing
  have hbody : ∃ c cs, w.body = c :: cs ∧
      (if isRunning c then (cs ++ (w.trailing ++ rest)).takeWhile isRunning else []) = cs := by
    rcases h.body with ⟨c, hc, hbody⟩ | hrun
    · exact ⟨c, [], hbody, by simp [isRunning, hc]⟩
    · obtain ⟨c, cs, hcs⟩ := List.exists_cons_of_ne_nil hrun.1
      have hall := hrun.2
      simp only [hcs, List.forall_mem_cons, ← isRunning_iff] at hall
      exact ⟨c, cs, hcs, by rw [if_pos hall.1, takeWhile_append_stop hall.2 (h.stop hrun)]⟩
  obtain ⟨c, cs, hcs, htake⟩ := hbody
  have htext : w.text ++ rest = c :: (cs ++ (w.trailing ++ rest)) := by simp [text, hcs]
  rw [htext, split]
  simp only [htake, List.drop_left, takeWhile_append_stop hblanks h.no_blank,
    dropWhile_append_stop hblanks h.no_blank, ← hcs]

end Leads

/-- The blanks behind a body belong to its word. -/
theorem leads_blanks (b : Text) (hb : IsSingle ⟨b, rest.takeWhile isBlank⟩ ∨
      IsRun ⟨b, rest.takeWhile isBlank⟩)
    (hstop : IsRun ⟨b, rest.takeWhile isBlank⟩ → ∀ c ∈ rest.head?, isRunning c = false) :
    ∃ w rest', b ++ rest = w.text ++ rest' ∧ Leads w rest' := by
  refine ⟨⟨b, rest.takeWhile isBlank⟩, rest.dropWhile isBlank, ?_, hb, ?_, ?_, ?_⟩
  · simp [text, List.takeWhile_append_dropWhile]
  · exact blanks_iff.mpr fun c hc => List.mem_takeWhile_imp hc
  · exact head_dropWhile isBlank rest
  · intro hrun hnil
    have hrest := List.takeWhile_append_dropWhile (p := isBlank) (l := rest)
    simp only [show rest.takeWhile isBlank = [] from hnil, List.nil_append] at hrest
    rw [hrest]
    exact hstop hrun

/-- A text that begins with no blank begins with a word. -/
theorem exists_leads (hc : isBlank c = false) (cs : Text) :
    ∃ w rest, c :: cs = w.text ++ rest ∧ Leads w rest := by
  cases hrun : isRunning c with
  | false =>
    have hsingle : CharClass.of c = .single := by
      cases hclass : CharClass.of c <;> simp [isBlank, isRunning, hclass] at hc hrun ⊢
    refine leads_blanks [c] (.inl ⟨c, hsingle, rfl⟩) fun h => ?_
    simp [IsRun, hsingle] at h
  | true =>
    rw [← List.takeWhile_append_dropWhile (p := isRunning) (l := cs), ← List.cons_append]
    refine leads_blanks _ (.inr ⟨List.cons_ne_nil _ _, ?_⟩) fun _ =>
      head_dropWhile isRunning cs
    simp only [List.forall_mem_cons, ← isRunning_iff]
    exact ⟨hrun, fun d hd => List.mem_takeWhile_imp hd⟩

-- -----------------------------------------------------------------------------------------
-- Words behind each other
-- -----------------------------------------------------------------------------------------

theorem Divides.split_eq (h : Divides t ws) : split t = ws := by
  induction h with
  | nil => rw [split]
  | cons hleads _ ih => rw [hleads.split_eq, ih]

/-- By induction on the length: the first word takes a character at least. -/
theorem divides_split (ht : ∀ c ∈ t.head?, isBlank c = false) : Divides t (split t) := by
  induction hn : t.length using Nat.strongRecOn generalizing t with
  | ind n ih =>
    cases t with
    | nil => rw [split]; exact .nil
    | cons c cs =>
      obtain ⟨w, rest, htext, hleads⟩ := exists_leads (ht c rfl) cs
      have hshorter : rest.length < n := by
        obtain ⟨d, ds, hbody, -⟩ := exists_head hleads.body
        have hlength := congrArg List.length htext
        simp only [text, hbody, List.length_append, List.length_cons] at hlength hn
        omega
      rw [htext, hleads.split_eq]
      exact .cons hleads (ih _ hshorter hleads.no_blank rfl)

/-- There is one way to divide a text. -/
theorem divides_iff_split (ht : ∀ c ∈ t.head?, isBlank c = false) : Divides t ws ↔ ws = split t :=
  ⟨fun h => h.split_eq.symm, fun h => h ▸ divides_split ht⟩

theorem Divides.head (h : Divides t ws) : ∀ c ∈ t.head?, isBlank c = false := by
  cases h with
  | nil => simp
  | @cons w rest ws hleads _ =>
    obtain ⟨d, ds, hbody, hd, -⟩ := exists_head hleads.body
    simp [text, hbody, hd]

/-- A text begins with a run if its first word is one. -/
theorem Divides.isRun_head (h : Divides t (w :: ws)) (hrun : IsRun w) :
    ∃ c ∈ t.head?, isRunning c = true := by
  cases h with
  | @cons _ rest _ hleads _ =>
    obtain ⟨c, cs, hbody, -, hc⟩ := exists_head hleads.body
    exact ⟨c, by simp [text, hbody], hc.mpr hrun⟩

/-- Whether a text is divided can be seen from pairs of neighbours. -/
theorem divides_iff : Divides t ws ↔ ws.flatMap text = t ∧ (∀ w ∈ ws, IsSingle w ∨ IsRun w) ∧
    (∀ w ∈ ws, Blanks w.trailing) ∧
    ws.IsChain fun w w' => ¬ (IsRun w ∧ w.trailing = [] ∧ IsRun w') := by
  constructor
  · intro h
    induction h with
    | nil => simp
    | @cons w rest ws hleads hrest ih =>
      obtain ⟨htext, hbody, htrailing, hapart⟩ := ih
      refine ⟨by simp [htext], List.forall_mem_cons.mpr ⟨hleads.body, hbody⟩,
        List.forall_mem_cons.mpr ⟨hleads.trailing, htrailing⟩, ?_⟩
      cases hrest with
      | nil => exact .singleton w
      | cons hleads' hrest' =>
        refine List.isChain_cons_cons.mpr ⟨?_, hapart⟩
        rintro ⟨hrun, hnil, hrun'⟩
        obtain ⟨c, hc, hc'⟩ := (Divides.cons hleads' hrest').isRun_head hrun'
        simp [hleads.no_run hrun hnil c hc] at hc'
  · rintro ⟨rfl, hbody, htrailing, hapart⟩
    induction ws with
    | nil => exact .nil
    | cons w ws ih =>
      rw [List.forall_mem_cons] at hbody htrailing
      have hrest := ih hbody.2 htrailing.2 (List.isChain_cons.mp hapart).2
      refine .cons ⟨hbody.1, htrailing.1, hrest.head, fun hrun hnil c hc => ?_⟩ hrest
      cases ws with
      | nil => simp at hc
      | cons w' ws =>
        obtain ⟨d, ds, hbody', -, hd⟩ := exists_head (hbody.2 w' List.mem_cons_self)
        obtain rfl : d = c := by simpa [text, hbody'] using hc
        have hrun' : ¬ IsRun w' := fun h =>
          (List.isChain_cons_cons.mp hapart).1 ⟨hrun, hnil, h⟩
        simpa [hrun'] using hd

-- -----------------------------------------------------------------------------------------
-- The words of a line
-- -----------------------------------------------------------------------------------------

/-- Without blanks at its start, a line is divided. -/
theorem isWords_iff_divides (ht : ∀ c ∈ line.head?, isBlank c = false) :
    IsWords line ws ↔ Divides line ws := by
  rw [divides_iff]
  constructor
  · rintro ⟨htext, hbody, htrailing, hapart⟩
    refine ⟨htext, fun w hw => ?_, htrailing, hapart⟩
    obtain ⟨k, hk⟩ := List.mem_iff_getElem?.mp hw
    rcases hbody k w hk with ⟨-, hindent⟩ | h
    · obtain ⟨c, cs, hcs⟩ := List.exists_cons_of_ne_nil hindent.not_empty
      obtain ⟨rest, hline, -⟩ := hindent.maximal
      have hblank := blanks_iff.mp hindent.blanks c (by simp [hcs])
      simp [ht c (by simp [hline, hcs])] at hblank
    · exact h
  · rintro ⟨htext, hbody, htrailing, hapart⟩
    exact ⟨htext, fun k w hk => .inr (hbody w (List.mem_of_getElem? hk)), htrailing, hapart⟩

theorem IsIndent.eq (h : IsIndent (indent ++ t) w) (hindent : Blanks indent)
    (ht : ∀ c ∈ t.head?, isBlank c = false) : w = ⟨indent, []⟩ := by
  obtain ⟨rest, hline, hrest⟩ := h.maximal
  simp only [← isBlank_eq_false_iff] at hrest
  have hbody : w.body = indent := by
    rw [← takeWhile_append_stop (blanks_iff.mp h.blanks) hrest, ← hline,
      takeWhile_append_stop (blanks_iff.mp hindent) ht]
  cases w with
  | mk b trailing =>
    rw [Word.mk.injEq]
    exact ⟨hbody, h.trailing⟩

/-- Blanks at the start of a line are its first word, and what follows them is divided. -/
theorem isWords_indent_iff (hne : indent ≠ []) (hindent : Blanks indent)
    (ht : ∀ c ∈ t.head?, isBlank c = false) :
    IsWords (indent ++ t) ws ↔ ∃ ws', ws = ⟨indent, []⟩ :: ws' ∧ Divides t ws' := by
  obtain ⟨c, cs, hcs⟩ := List.exists_cons_of_ne_nil hne
  have hc : isBlank c = true := blanks_iff.mp hindent c (by simp [hcs])
  constructor
  · rintro ⟨htext, hbody, htrailing, hapart⟩
    cases ws with
    | nil => simp [hcs] at htext
    | cons w ws =>
      rcases hbody 0 w rfl with ⟨-, h⟩ | h
      · obtain rfl := h.eq hindent ht
        rw [List.forall_mem_cons] at htrailing
        refine ⟨ws, rfl, divides_iff.mpr ⟨?_, fun w hw => ?_, htrailing.2, ?_⟩⟩
        · simpa [text] using htext
        · obtain ⟨k, hk⟩ := List.mem_iff_getElem?.mp hw
          exact (hbody (k + 1) w hk).resolve_left fun h => Nat.succ_ne_zero k h.1
        · exact (List.isChain_cons.mp hapart).2
      · obtain ⟨d, ds, hd, hblank, -⟩ := exists_head h
        obtain rfl : d = c := by
          have hhead := congrArg List.head? htext
          simpa [text, hd, hcs] using hhead
        simp [hblank] at hc
  · rintro ⟨ws, rfl, hdivides⟩
    obtain ⟨htext, hbody, htrailing, hapart⟩ := divides_iff.mp hdivides
    refine ⟨by simp [text, htext], fun k w hk => ?_, ?_, ?_⟩
    · cases k with
      | zero =>
        cases hk
        refine .inl ⟨rfl, hne, hindent, ⟨t, rfl, fun d hd => ?_⟩, rfl⟩
        exact isBlank_eq_false_iff.mp (ht d hd)
      | succ k => exact .inr (hbody w (List.mem_of_getElem? hk))
    · exact List.forall_mem_cons.mpr ⟨List.forall_mem_nil _, htrailing⟩
    · refine List.isChain_cons.mpr ⟨fun w _ => ?_, hapart⟩
      rintro ⟨⟨-, hrun⟩, -⟩
      have hrunning := isRunning_iff.mpr (hrun c (by simp [hcs]))
      simp [isRunning_of_isBlank hc] at hrunning

/-- The words of a line, put together, are the line; each is all the blanks at its start, a
character that stands alone or a run, blanks follow it, and no run goes on in the next word. No other
list of words is like this. -/
theorem isWords_iff (line : Text) (ws : List Word) : IsWords line ws ↔ ws = ofLine line := by
  have hline := List.takeWhile_append_dropWhile (p := isBlank) (l := line)
  have hindent : Blanks (line.takeWhile isBlank) :=
    blanks_iff.mpr fun c hc => List.mem_takeWhile_imp hc
  have hrest := head_dropWhile isBlank line
  unfold ofLine
  by_cases hne : line.takeWhile isBlank = []
  · rw [hne, List.nil_append] at hline
    rw [hline] at hrest
    simp only [hne, hline, List.isEmpty_nil, if_true, List.nil_append]
    rw [isWords_iff_divides hrest, divides_iff_split hrest]
  · conv_lhs => rw [← hline]
    rw [isWords_indent_iff hne hindent hrest]
    simp [hne, divides_iff_split hrest]

end Wikitext.Word
