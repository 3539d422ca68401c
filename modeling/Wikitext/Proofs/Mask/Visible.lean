import Wikitext.Proofs.Mask.Pass
import Wikitext.Proofs.Pattern.Phrase

/-!
# Templates and links that stay visible

A pass of hiding leaves no match of its own pattern, unless one comes about by it: what reads as a
match then has one of the new placeholders in it (`exists_placeholder`). The passes for templates are
repeated until none is left (`free_hideTemplates`).

So in a text under the broad mask a link that can still be seen is around a link that is hidden
(`exists_link_of_hideMore`). A template that can still be seen has an image, an address, a heading or
a link in it that hides a brace (`hidesBrace_of_hideMore`), since these are hidden after the templates.
-/

namespace Wikitext.Mask

open Pattern

-- -----------------------------------------------------------------------------------------
-- What stands between doubled brackets
-- -----------------------------------------------------------------------------------------

/-- Anything between doubled brackets but these brackets. -/
def boxed (o c : Char) : Pattern :=
  ofText [o, o] ++ many (char fun x => !List.contains [o, c] x) ++ ofText [c, c]

theorem innermostTemplate_eq : Region.innermostTemplate = (boxed '\x7b' '\x7d').compile := rfl

theorem links_eq : Region.links = (boxed '[' ']').compile := rfl

theorem lexical_boxed (o c : Char) : (boxed o c).Lexical := ⟨rfl, rfl, rfl⟩

theorem words_boxed : (boxed o c).Words w ↔ Enclosed o c w := by
  have hinside : ∀ x, (many (char fun y => !List.contains [o, c] y)).Words x ↔ o ∉ x ∧ c ∉ x := by
    intro x
    have hall : (∀ y ∈ x, (!List.contains [o, c] y) = true) ↔ o ∉ x ∧ c ∉ x := by
      simp only [List.contains_eq_mem, List.mem_cons, List.not_mem_nil, or_false, Bool.not_eq_true',
        decide_eq_false_iff_not, not_or]
      exact ⟨fun h => ⟨fun ho => (h o ho).1 rfl, fun hc => (h c hc).2 rfl⟩,
        fun h y hy => ⟨fun ho => h.1 (ho ▸ hy), fun hc => h.2 (hc ▸ hy)⟩⟩
    rw [← hall]
    exact ⟨fun ⟨_, h⟩ => (forms_run.mp h).1, fun h => ⟨[], forms_run.mpr ⟨h, rfl⟩⟩⟩
  constructor
  · intro h
    obtain ⟨_, _, rfl, hfront, hclose⟩ := (words_append rfl rfl).mp h
    obtain ⟨_, x, rfl, hopen, hx⟩ := (words_append rfl rfl).mp hfront
    obtain rfl := words_ofText.mp hopen
    obtain rfl := words_ofText.mp hclose
    obtain ⟨ho, hc⟩ := (hinside x).mp hx
    simpa using Enclosed.intro ho hc
  · rintro ⟨ho, hc⟩
    rename_i x
    have hfront := (words_append rfl rfl).mpr ⟨[o, o], x, rfl, words_ofText.mpr rfl,
      (hinside x).mpr ⟨ho, hc⟩⟩
    exact (words_append rfl rfl).mpr ⟨[o, o] ++ x, [c, c], by simp, hfront, words_ofText.mpr rfl⟩

theorem firm_of_enclosed (h : Enclosed o c w) (ho : o ∉ marks) (hc : c ∉ marks) : Firm w := by
  refine ⟨⟨o, h.head, ho⟩, ?_⟩
  obtain ⟨u, rfl⟩ := h.suffix
  exact ⟨c, by simp [List.getLast?_append], hc⟩

variable {p : Pattern}

theorem exists_newer (h : Outlined p t found tail) (hw : p.Words w) (hfirm : Firm w)
    (hin : w <:+: masked kind n (piecesOf found tail)) :
    ∃ i < found.length, placeholder kind (n + i) <:+: w := by
  induction h generalizing n with
  | nil hfree =>
    rw [masked_piecesOf_nil] at hin
    exact absurd hin (hfree w hw)
  | cons hfree _ _ ih =>
    rw [masked_piecesOf_cons] at hin
    rcases hfirm.infix_cases hin with hu | hrest | hnew
    · exact absurd hu (hfree w hw)
    · obtain ⟨i, hi, hplace⟩ := ih hrest
      refine ⟨i + 1, Nat.succ_lt_succ hi, ?_⟩
      rwa [Nat.add_assoc, Nat.add_comm 1 i] at hplace
    · exact ⟨0, Nat.succ_pos _, hnew⟩

/-- What reads as a match after its pass has a placeholder of this pass in it. -/
theorem exists_placeholder (hp : p.Lexical) (s : Hidden) (hw : p.Words w) (hfirm : Firm w)
    (hin : w <:+: (s.hide kind p.compile).text) : ∃ i x, placeholder kind i <:+: w ∧
      (s.hide kind p.compile).spans[i]? = some x ∧ p.Words x := by
  obtain ⟨found, tail, houtline, hpieces⟩ := exists_outline hp s.text
  rw [Hidden.text_hide, hpieces] at hin
  obtain ⟨i, hi, hplace⟩ := exists_newer houtline hw hfirm hin
  refine ⟨s.spans.size + i, found[i].2.text, hplace, ?_, _, houtline.reads _ (List.getElem_mem hi)⟩
  rw [Hidden.spans_hide, matches_of_pieces hpieces,
    Array.getElem?_append_right (Nat.le_add_right _ _), Nat.add_sub_cancel_left]
  simp [hi]

-- -----------------------------------------------------------------------------------------
-- Templates, from the inside out
-- -----------------------------------------------------------------------------------------

/-- A pass that finds templates leaves fewer braces. -/
theorem count_masked (h : Outlined (boxed '\x7b' '\x7d') t found tail) (kind : Kind) (n : Nat) :
    (masked kind n (piecesOf found tail)).count '\x7b' + found.length ≤ t.count '\x7b' := by
  induction h generalizing n with
  | nil => rw [masked_piecesOf_nil, List.length_nil, Nat.add_zero]
  | @cons u m w r found tail _ hm _ ih =>
    have hplace : (placeholder kind n).count '\x7b' = 0 :=
      List.count_eq_zero_of_not_mem fun h => absurd (mem_marks_of_mem_placeholder h) (by decide)
    have hword : 0 < w.count '\x7b' := by
      have henclosed := words_boxed.mp ⟨_, hm.reads⟩
      exact List.count_pos_iff.mpr (List.mem_of_head? henclosed.head)
    have hrest := ih (n + 1)
    rw [masked_piecesOf_cons]
    simp only [List.count_append, List.length_cons, hplace]
    omega

theorem free_of_outlined (h : Outlined p t [] tail) : tail = t ∧ Free p.Words t := by
  cases h with
  | nil hfree => exact ⟨rfl, hfree⟩

/-- What a pass makes of the templates that it finds. -/
structure TemplatesHidden (kind : Kind) (s next : Hidden) (found : List (Text × Match)) (tail : Text) :
    Prop where
  outlined : Outlined (boxed '\x7b' '\x7d') s.text found tail
  text : next.text = masked kind s.spans.size (piecesOf found tail)
  size : next.spans.size = s.spans.size + found.length
  count : next.text.count '\x7b' + found.length ≤ s.text.count '\x7b'

theorem exists_templates (kind : Kind) (s : Hidden) :
    ∃ found tail, TemplatesHidden kind s (s.hide kind Region.innermostTemplate) found tail := by
  obtain ⟨found, tail, houtline, hpieces⟩ := exists_outline (lexical_boxed '\x7b' '\x7d') s.text
  rw [← innermostTemplate_eq] at hpieces
  have htext : (s.hide kind Region.innermostTemplate).text =
      masked kind s.spans.size (piecesOf found tail) := by
    rw [← hpieces]
    exact Hidden.text_hide kind _ s
  refine ⟨found, tail, houtline, htext, ?_, ?_⟩
  · simp [Hidden.spans_hide, matches_of_pieces hpieces]
  · rw [htext]
    exact count_masked houtline kind s.spans.size

theorem TemplatesHidden.text_of_nil (h : TemplatesHidden kind s next [] tail) : next.text = s.text := by
  rw [h.text, masked_piecesOf_nil, (free_of_outlined h.outlined).1]

/-- By induction along the passes: the last one found no template. -/
theorem free_hideTemplates (kind : Kind) (s : Hidden) :
    Free (Enclosed '\x7b' '\x7d') (s.hideTemplates kind).text := by
  fun_induction Hidden.hideTemplates kind s with
  | case1 s next hlt ih => exact ih
  | case2 s next hle =>
    obtain ⟨found, tail, hpass⟩ := exists_templates kind s
    have hcount : next.text.count '\x7b' + found.length ≤ s.text.count '\x7b' := hpass.count
    obtain rfl : found = [] := List.eq_nil_of_length_eq_zero (by omega)
    have htext : next.text = s.text := hpass.text_of_nil
    rw [htext]
    exact fun w hw => (free_of_outlined hpass.outlined).2 w (words_boxed.mpr hw)

-- -----------------------------------------------------------------------------------------
-- Braces that are hidden
-- -----------------------------------------------------------------------------------------

/-- What is hidden under the number holds a brace, perhaps in something hidden before. -/
inductive HidesBrace (kind : Kind) (behind : Nat → Text → Prop) : Nat → Prop
  | shown : behind i w → '\x7b' ∈ w ∨ '\x7d' ∈ w → HidesBrace kind behind i
  | inner : behind i w → placeholder kind j <:+: w → HidesBrace kind behind j →
      HidesBrace kind behind i

/-- Whatever reads as a template holds something that hides a brace. -/
def BracesHidden (kind : Kind) (behind : Nat → Text → Prop) (t : Text) : Prop :=
  ∀ w, Enclosed '\x7b' '\x7d' w → w <:+: t → ∃ i, placeholder kind i <:+: w ∧ HidesBrace kind behind i

theorem bracesHidden_of_free (h : Free (Enclosed '\x7b' '\x7d') t) (kind : Kind)
    (behind : Nat → Text → Prop) : BracesHidden kind behind t :=
  fun w hw hin => absurd hin (h w hw)

theorem HidesBrace.mono {behind behind' : Nat → Text → Prop} (h : HidesBrace kind behind i)
    (hsub : ∀ i w, behind i w → behind' i w) : HidesBrace kind behind' i := by
  induction h with
  | shown hw hbrace => exact .shown (hsub _ _ hw) hbrace
  | inner hw hj _ ih => exact .inner (hsub _ _ hw) hj ih

/-- A template that could not be seen before has a brace behind one of its placeholders. -/
theorem BracesHidden.step {behind : Nat → Text → Prop} (h : BracesHidden kind behind t)
    (hc : Conceals kind behind t' t) : BracesHidden kind behind t' := by
  intro w hw hin
  obtain ⟨u, v, rfl⟩ := hin
  have hfirm := firm_of_enclosed hw (by decide) (by decide)
  -- What stood in the place of the template.
  have hleft : Border u (w ++ v) := by
    obtain ⟨x, hx, hmark⟩ := hfirm.head
    refine .inr fun y hy => ?_
    rw [List.head?_append, Option.mem_def.mp hx, Option.some_or, Option.mem_some_iff] at hy
    exact hy ▸ hmark
  rw [List.append_assoc] at hc
  obtain ⟨u', _, rfl, -, hc⟩ := hc.split hleft
  obtain ⟨w', v', rfl, hc, -⟩ := hc.split (.inl hfirm.last)
  cases hw with
  | @intro x hopen hclose =>
    have hborder : Border x ['\x7d', '\x7d'] := .inr (by simp; decide)
    obtain ⟨_, rfl, hone⟩ := hc.of_firm (by decide)
    obtain ⟨_, rfl, htwo⟩ := hone.of_firm (by decide)
    obtain ⟨x', _, rfl, hx, hend⟩ := htwo.split hborder
    obtain ⟨_, rfl, hlast⟩ := hend.of_firm (by decide)
    obtain ⟨_, rfl, hnil⟩ := hlast.of_firm (by decide)
    cases hnil with
    | nil =>
      by_cases hbrace : '\x7b' ∈ x' ∨ '\x7d' ∈ x'
      · have hhidden : ∃ i w, behind i w ∧ placeholder kind i <:+: x ∧ ('\x7b' ∈ w ∨ '\x7d' ∈ w) := by
          rcases hbrace with hbrace | hbrace
          · obtain ⟨i, w, hw, hi, hmem⟩ := (hx.mem_cases hbrace).resolve_left hopen
            exact ⟨i, w, hw, hi, .inl hmem⟩
          · obtain ⟨i, w, hw, hi, hmem⟩ := (hx.mem_cases hbrace).resolve_left hclose
            exact ⟨i, w, hw, hi, .inr hmem⟩
        obtain ⟨i, w, hw, hi, hmem⟩ := hhidden
        exact ⟨i, List.infix_cons (List.infix_cons (hi.trans (List.prefix_append _ _).isInfix)),
          .shown hw hmem⟩
      · -- It was a template then, with something that hides a brace in it.
        rw [not_or] at hbrace
        obtain ⟨j, hj, hhides⟩ := h _ (.intro hbrace.1 hbrace.2) ⟨u', v', by simp⟩
        rcases hc.placeholder_cases hj with hj | ⟨i, w, hw, hi, hj⟩
        · exact ⟨j, hj, hhides⟩
        · exact ⟨i, hi, .inner hw hj hhides⟩

-- -----------------------------------------------------------------------------------------
-- The broad mask
-- -----------------------------------------------------------------------------------------

/-- The search finds the stretch in some text. -/
def Finds (r : Regex) (w : Text) : Prop := ∃ t, ∃ m ∈ r.matches' t, m.text = w

/-- What is hidden after the templates, in this order. -/
def lateRegions (files : Regex) : List Regex :=
  [files, Region.externalLinks, Region.headings, Region.links]

/-- Under the number an image, an address, a heading or a link is hidden. -/
def HiddenLate (files : Regex) (spans : Array Text) (i : Nat) (w : Text) : Prop :=
  spans[i]? = some w ∧ ∃ r ∈ lateRegions files, Finds r w

/-- A pass after the templates. -/
theorem BracesHidden.hide {s : Hidden} (h : BracesHidden kind (HiddenLate files s.spans) s.text)
    (hr : Clear r) (hlate : r ∈ lateRegions files) :
    BracesHidden kind (HiddenLate files (s.hide kind r).spans) (s.hide kind r).text := by
  have hbefore : BracesHidden kind (HiddenLate files (s.hide kind r).spans) s.text := by
    intro w hw hin
    obtain ⟨i, hi, hhides⟩ := h w hw hin
    refine ⟨i, hi, hhides.mono fun j v hv => ⟨?_, hv.2⟩⟩
    rw [Hidden.spans_hide]
    exact getElem?_of_left hv.1 _
  refine hbefore.step ((conceals_hide hr kind s).mono ?_)
  rintro i w ⟨hw, m, hm, rfl⟩
  exact ⟨hw, r, hlate, s.text, m, hm, rfl⟩

/-- The text as the broad mask leaves it when the templates are hidden. -/
def withoutTemplates (t : Text) : Hidden :=
  let start : Hidden := { text := t, spans := #[] }
  (start.hide .broad Region.unformatted).hide .broad Region.references |>.hideTemplates .broad

/-- The same text when only the links are left to hide. -/
def withLinks (files : Regex) (t : Text) : Hidden :=
  (withoutTemplates t).hide .broad files |>.hide .broad Region.externalLinks
    |>.hide .broad Region.headings

theorem eq_of_hideMore {m : Mask} (h : m.hideMore false t = .ok (u, m')) :
    u = ((withLinks m.images t).hide .broad Region.links).text ∧
      m'.broad = ((withLinks m.images t).hide .broad Region.links).spans := by
  unfold hideMore at h
  split at h
  · cases h
  · cases h
    exact ⟨rfl, rfl⟩

section
variable {m : Mask} (h : m.hideMore false t = .ok (u, m'))
include h

/-- A link that can be seen under the broad mask is around a link that is hidden. -/
theorem exists_link_of_hideMore (hw : Enclosed '[' ']' w) (hin : w <:+: u) :
    ∃ i x, placeholder .broad i <:+: w ∧ m'.broad[i]? = some x ∧ Enclosed '[' ']' x := by
  obtain ⟨rfl, hspans⟩ := eq_of_hideMore h
  have hfirm := firm_of_enclosed hw (by decide) (by decide)
  rw [hspans]
  rw [links_eq] at hin ⊢
  obtain ⟨i, x, hi, hx, hword⟩ :=
    exists_placeholder (lexical_boxed '[' ']') _ (words_boxed.mpr hw) hfirm hin
  exact ⟨i, x, hi, hx, words_boxed.mp hword⟩

/-- A template that can be seen under the broad mask holds an image, an address, a heading or a link
that hides a brace. -/
theorem hidesBrace_of_hideMore (hm : ∃ p, m.images = Region.images p) (hw : Enclosed '\x7b' '\x7d' w)
    (hin : w <:+: u) : ∃ i, placeholder .broad i <:+: w ∧
      HidesBrace .broad (HiddenLate m.images m'.broad) i := by
  obtain ⟨rfl, hspans⟩ := eq_of_hideMore h
  obtain ⟨p, hp⟩ := hm
  rw [hspans, hp]
  rw [hp] at hin
  have htemplates : BracesHidden .broad (HiddenLate (Region.images p) (withoutTemplates t).spans)
      (withoutTemplates t).text := bracesHidden_of_free (free_hideTemplates .broad _) _ _
  have himages := htemplates.hide (clear_images p) (by simp [lateRegions])
  have haddresses := himages.hide clear_externalLinks (by simp [lateRegions])
  have hheadings := haddresses.hide clear_headings (by simp [lateRegions])
  exact hheadings.hide clear_links (by simp [lateRegions]) w hw hin

end

/-- A link around a link, and a template around an address with a brace in it. -/
theorem visible_hideMore :
    let m : Mask := ofProfile .englishWikipedia {}
    (m.hideMore false "[[a [[b]] c]]".toList).map (fun r => Region.links.isMatch r.1) = .ok true ∧
      (m.hideMore false "\x7b\x7ba [http://x \x7db] c\x7d\x7d".toList).map
        (fun r => Region.innermostTemplate.isMatch r.1) = .ok true := by
  decide +kernel

end Wikitext.Mask
