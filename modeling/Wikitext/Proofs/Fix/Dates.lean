import Wikitext.Proofs.Fix.DateForms
import Wikitext.Proofs.Fix.Passes

/-!
# Dates come to rest

Each of the four passes over the runs of a text settles what it is for. No stretch begins within one
that has been rewritten, and separators only become others of their kind, so a stretch in the new text
was one before, and has been rewritten as well. An "s" joined to a decade makes a word that is in no
date. Later passes leave finished what earlier ones were for, since they write no commas and no
apostrophes, and the separators that they write are those of a finished range. So all four change
nothing the next time, and the fix comes to rest at once.
-/

namespace Wikitext.Fix.Dates

open Pattern Text
open Chars (isDigit)

-- -----------------------------------------------------------------------------------------
-- Separators that become others
-- -----------------------------------------------------------------------------------------

/-- Only separators become others, and these are a space or a dash. -/
def Spaced (c c' : Text) : Prop := c = c' ∨ c' = [' '] ∨ c' = ['–']

/-- White space becomes a space, and what is between the days of a range a dash. -/
def Alike (c c' : Text) : Prop :=
  c = c' ∨ (someGap.Words c ∧ c' = [' ']) ∨ (range.Words c ∧ c' = ['–'])

theorem Alike.spaced (h : Alike c c') : Spaced c c' := by
  rcases h with h | ⟨-, h⟩ | ⟨-, h⟩
  · exact .inl h
  · exact .inr (.inl h)
  · exact .inr (.inr h)

theorem bare_of_word (h : Run true s) : s ≠ [' '] ∧ s ≠ ['–'] :=
  ⟨h.ne run_space, h.ne run_dash⟩

theorem Spaced.eq_of_word (h : Spaced c c') (hc : Run true c') : c = c' := by
  rcases h with h | rfl | rfl
  · exact h
  · exact absurd rfl (bare_of_word hc).1
  · exact absurd rfl (bare_of_word hc).2

/-- A range has a dash, which is no white space. -/
theorem not_range_of_gap (h : someGap.Words s) : ¬ range.Words s := by
  rintro ⟨gs, hrange⟩
  have hstrays : range.strays " \t".toList = true := rfl
  obtain ⟨c, hc, hother⟩ := hrange.strays hstrays
  have hgap : ∀ c ∈ s, " \t".toList.contains c = true :=
    h.all fun c hc => by simpa [someGap, many1, oneOf, avoids] using hc
  exact hother (by simpa using hgap c hc)

theorem gap_space : someGap.Words [' '] := ⟨[], forms_run1.mpr ⟨by simp, by decide, rfl⟩⟩

theorem range_dash : range.Words ['–'] :=
  words_range_iff.mpr ⟨[], ['–'], [], rfl, ⟨[], .stop⟩, ⟨[], forms_char.mpr ⟨'–', rfl, rfl, rfl⟩⟩,
    ⟨[], .stop⟩⟩

theorem Alike.gap (h : Alike c c') (hc : someGap.Words c') :
    someGap.Words c ∧ (c = [' '] → c' = [' ']) := by
  rcases h with rfl | ⟨h, rfl⟩ | ⟨h, rfl⟩
  · exact ⟨hc, id⟩
  · exact ⟨h, fun _ => rfl⟩
  · exact absurd range_dash (not_range_of_gap hc)

theorem Alike.range (h : Alike c c') (hc : range.Words c') :
    range.Words c ∧ (c = ['–'] → c' = ['–']) := by
  rcases h with rfl | ⟨h, rfl⟩ | ⟨h, rfl⟩
  · exact ⟨hc, id⟩
  · exact absurd hc (not_range_of_gap gap_space)
  · exact ⟨h, fun _ => rfl⟩

theorem cellwise_comma : Cellwise Comma Spaced where
  refl _ := .inl rfl
  cells h := by
    obtain ⟨hm, hs, hy⟩ := h
    exact .cons (.inl rfl) (.cons (.inr (.inl rfl)) (.cons (.inl rfl) .nil))

theorem cellwise_daysFirst : Cellwise DaysFirst Alike where
  refl _ := .inl rfl
  cells h := by
    obtain ⟨hd, hh, hd', hs, hm⟩ := h
    exact .cons (.inl rfl) (.cons (.inr (.inr ⟨hh, rfl⟩)) (.cons (.inl rfl)
      (.cons (.inr (.inl ⟨hs, rfl⟩)) (.cons (.inl rfl) .nil))))

theorem cellwise_monthFirst : Cellwise MonthFirst Alike where
  refl _ := .inl rfl
  cells h := by
    obtain ⟨hm, hs, hd, hh, hd'⟩ := h
    exact .cons (.inl rfl) (.cons (.inr (.inl ⟨hs, rfl⟩)) (.cons (.inl rfl)
      (.cons (.inr (.inr ⟨hh, rfl⟩)) (.cons (.inl rfl) .nil))))

/-- A stretch without a space or a dash that stands alone was there before. -/
theorem comes_of_bare {R : List Text → List Text → Prop}
    (hR : ∀ {W W'}, R W W' → ∀ c ∈ W, c ≠ [' '] ∧ c ≠ ['–']) : Comes R Spaced := by
  intro W W' V' hV' hW
  have heq : W = W' := by
    have hbare := hR hV'
    clear hV'
    induction hW with
    | nil => rfl
    | cons hc _ ih =>
      rw [List.forall_mem_cons] at hbare
      rw [ih hbare.2, hc.resolve_right (by simp [hbare.1])]
  exact ⟨V', heq ▸ hV', fun h => h.trans heq⟩

theorem comes_comma : Comes Comma Spaced := comes_of_bare fun {W W'} h => by
  obtain ⟨hm, hs, hy⟩ := h
  have hyear := bare_of_word (digits_of_year hy).run
  simpa using ⟨bare_of_word (run_of_month hm), hyear⟩

theorem comes_apostrophe : Comes Apostrophe Spaced := comes_of_bare fun {W W'} h => by
  obtain ⟨hc, hd⟩ := h
  have hdigits := bare_of_word ((digits_of_century hc).append (digits_of_decade hd)).run
  simpa using hdigits

theorem comes_daysFirst : Comes DaysFirst Alike := by
  intro W W' V' hV' hW
  obtain ⟨hd, hh, hd', hs, hm⟩ := hV'
  obtain _ | ⟨h₁, _ | ⟨h₂, _ | ⟨h₃, _ | ⟨h₄, _ | ⟨h₅, ⟨⟩⟩⟩⟩⟩⟩ := hW
  obtain rfl := h₁.spaced.eq_of_word (digits_of_day hd).run
  obtain rfl := h₃.spaced.eq_of_word (digits_of_day hd').run
  obtain rfl := h₅.spaced.eq_of_word (run_of_month hm)
  obtain ⟨hh, hdash⟩ := h₂.range hh
  obtain ⟨hs, hspace⟩ := h₄.gap hs
  refine ⟨_, .mk hd hh hd' hs hm, fun heq => ?_⟩
  simp only [List.cons.injEq, true_and, and_true] at heq ⊢
  exact ⟨(hdash heq.1.symm).symm, (hspace heq.2.symm).symm⟩

theorem comes_monthFirst : Comes MonthFirst Alike := by
  intro W W' V' hV' hW
  obtain ⟨hm, hs, hd, hh, hd'⟩ := hV'
  obtain _ | ⟨h₁, _ | ⟨h₂, _ | ⟨h₃, _ | ⟨h₄, _ | ⟨h₅, ⟨⟩⟩⟩⟩⟩⟩ := hW
  obtain rfl := h₁.spaced.eq_of_word (run_of_month hm)
  obtain rfl := h₃.spaced.eq_of_word (digits_of_day hd).run
  obtain rfl := h₅.spaced.eq_of_word (digits_of_day hd').run
  obtain ⟨hs, hspace⟩ := h₂.gap hs
  obtain ⟨hh, hdash⟩ := h₄.range hh
  refine ⟨_, .mk hm hs hd hh hd', fun heq => ?_⟩
  simp only [List.cons.injEq, true_and, and_true] at heq ⊢
  exact ⟨(hspace heq.1.symm).symm, (hdash heq.2.symm).symm⟩

-- -----------------------------------------------------------------------------------------
-- Stretches do not begin within each other
-- -----------------------------------------------------------------------------------------

theorem not_digits_of_month (h : months.Words s) : ¬ Digits s := by
  intro hdigits
  obtain ⟨c, s, rfl⟩ := List.exists_cons_of_ne_nil hdigits.1
  have hletter := not_isDigit_of_month h c List.mem_cons_self
  rw [hdigits.2 c List.mem_cons_self] at hletter
  cases hletter

theorem not_month_of_gap (h : Run false s) : ¬ months.Words s := fun hm =>
  (run_of_month hm).ne h rfl

/-- Stretches that begin with a month and have no other one. -/
theorem unnested_of_months {R : List Text → List Text → Prop}
    (hlength : ∀ {W W' V V'}, R W W' → R V V' → W'.length = V.length)
    (hagain : ∀ {W W' V}, R W W' → R W' V → V = W')
    (hfirst : ∀ {W W'}, R W W' → ∃ m ∈ W.head?, months.Words m)
    (hothers : ∀ {W W'}, R W W' → ∀ s ∈ W'.tail, ¬ months.Words s) : Unnested R where
  ne_nil h := by
    obtain ⟨m, hm, -⟩ := hfirst h
    rintro rfl
    cases hm
  length := hlength
  again := hagain
  inside h hK hne h' heq := by
    obtain ⟨m, hm, hmonth⟩ := hfirst h'
    obtain ⟨V, rfl⟩ := List.head?_eq_some_iff.mp hm
    obtain ⟨s, K, rfl⟩ := List.exists_cons_of_ne_nil hne
    obtain ⟨rfl, -⟩ := List.cons.inj heq
    exact hothers h s (hK.subset List.mem_cons_self) hmonth

theorem unnested_comma : Unnested Comma := by
  refine unnested_of_months (fun h h' => ?_) (fun h h' => ?_) (fun h => ?_) (fun h => ?_)
  · obtain ⟨⟩ := h
    obtain ⟨⟩ := h'
    rfl
  · obtain ⟨⟩ := h
    cases h'
  · obtain ⟨hm, -, -⟩ := h
    exact ⟨_, rfl, hm⟩
  · obtain ⟨-, -, hy⟩ := h
    simpa using ⟨not_month_of_gap run_space, fun hm => not_digits_of_month hm (digits_of_year hy)⟩

theorem unnested_monthFirst : Unnested MonthFirst := by
  refine unnested_of_months (fun h h' => ?_) (fun h h' => ?_) (fun h => ?_) (fun h => ?_)
  · obtain ⟨⟩ := h
    obtain ⟨⟩ := h'
    rfl
  · obtain ⟨⟩ := h
    cases h'
    rfl
  · obtain ⟨hm, -, -⟩ := h
    exact ⟨_, rfl, hm⟩
  · obtain ⟨-, -, hd, -, hd'⟩ := h
    simpa using ⟨not_month_of_gap run_space, fun hm => not_digits_of_month hm (digits_of_day hd),
      not_month_of_gap run_dash, fun hm => not_digits_of_month hm (digits_of_day hd')⟩

theorem unnested_daysFirst : Unnested DaysFirst where
  ne_nil h := by
    obtain ⟨⟩ := h
    simp
  length h h' := by
    obtain ⟨⟩ := h
    obtain ⟨⟩ := h'
    rfl
  again h h' := by
    obtain ⟨⟩ := h
    cases h'
    rfl
  inside h hK hne h' heq := by
    obtain ⟨-, -, -, -, hm⟩ := h
    obtain ⟨hd, hh, -, -, -⟩ := h'
    simp only [List.tail_cons, List.suffix_cons_iff, List.suffix_nil] at hK
    have hword := bare_of_word (digits_of_day hd).run
    rcases hK with rfl | rfl | rfl | rfl | rfl
    · obtain ⟨hfirst, -⟩ := List.cons.inj heq
      exact hword.2 hfirst.symm
    · obtain ⟨-, heq⟩ := List.cons.inj heq
      obtain ⟨hsecond, -⟩ := List.cons.inj heq
      exact not_range_of_gap gap_space (hsecond ▸ hh)
    · obtain ⟨hfirst, -⟩ := List.cons.inj heq
      exact hword.1 hfirst.symm
    · obtain ⟨hfirst, -⟩ := List.cons.inj heq
      exact not_digits_of_month hm (hfirst ▸ digits_of_day hd)
    · exact hne rfl

-- -----------------------------------------------------------------------------------------
-- Decades
-- -----------------------------------------------------------------------------------------

/-- Digits with an "s" behind them. -/
def Plural (s : Text) : Prop := ∃ d, Digits d ∧ s = d ++ ['s']

theorem joining_apostrophe : Joining Apostrophe Plural := by
  intro W W' h
  obtain ⟨hc, hd⟩ := h
  exact ⟨_, rfl, _, (digits_of_century hc).append (digits_of_decade hd), rfl⟩

theorem not_plural_of_digits (h : Digits s) : ¬ Plural s := by
  rintro ⟨d, -, rfl⟩
  exact absurd (h.2 's' (by simp)) (by decide)

theorem not_plural_of_gap (h : Run false s) : ¬ Plural s := by
  rintro ⟨d, hd, rfl⟩
  exact (run_plural hd).ne h rfl

theorem not_plural_of_month (h : months.Words s) : ¬ Plural s := by
  rintro ⟨d, hd, rfl⟩
  obtain ⟨c, d, rfl⟩ := List.exists_cons_of_ne_nil hd.1
  have hletter := not_isDigit_of_month h c (by simp)
  rw [hd.2 c List.mem_cons_self] at hletter
  cases hletter

theorem lacks_comma : Lacks Comma Plural := by
  intro W W' h
  obtain ⟨hm, hs, hy⟩ := h
  have hmonth := not_plural_of_month hm
  simpa using ⟨hmonth, not_plural_of_gap (run_comma hs), not_plural_of_digits (digits_of_year hy)⟩

theorem lacks_apostrophe : Lacks Apostrophe Plural := by
  intro W W' h
  obtain ⟨hc, hd⟩ := h
  have hdecade := not_plural_of_digits ((digits_of_century hc).append (digits_of_decade hd))
  have hs : ¬ Plural ['s'] := by
    rintro ⟨d, hd, h⟩
    exact hd.1 (by simpa using h)
  simpa using ⟨hdecade, not_plural_of_gap (run_of_separators (s := ['\'']) (by simp) (by decide)), hs⟩

-- -----------------------------------------------------------------------------------------
-- The passes
-- -----------------------------------------------------------------------------------------

def commaPass : Replacement := .of (phrase commaItems) withoutComma

def apostrophePass : Replacement := .of (phrase apostropheItems) withoutApostrophe

def daysFirstPass : Replacement := .of (phrase daysFirstItems) daysThenMonth

def monthFirstPass : Replacement := .of (phrase monthFirstItems) monthThenDays

theorem replaceOnce_dateTable (t : Text) : replaceOnce dateTable t =
    monthFirstPass.apply (daysFirstPass.apply (apostrophePass.apply (commaPass.apply t))) := rfl

theorem rewritten_comma (t : Text) : Rewritten Comma (runs t) (runs (commaPass.apply t)) :=
  rewritten_apply respells_comma rfl rfl t

theorem rewritten_apostrophe (t : Text) :
    Rewritten Apostrophe (runs t) (runs (apostrophePass.apply t)) :=
  rewritten_apply respells_apostrophe rfl rfl t

theorem rewritten_daysFirst (t : Text) :
    Rewritten DaysFirst (runs t) (runs (daysFirstPass.apply t)) :=
  rewritten_apply respells_daysFirst rfl rfl t

theorem rewritten_monthFirst (t : Text) :
    Rewritten MonthFirst (runs t) (runs (monthFirstPass.apply t)) :=
  rewritten_apply respells_monthFirst rfl rfl t

/-- Each pass settles what it is for, and leaves finished what the passes before it were for. -/
theorem finished_replaceOnce (t : Text) : Finished Comma (runs (replaceOnce dateTable t)) ∧
    Finished Apostrophe (runs (replaceOnce dateTable t)) ∧
    Finished DaysFirst (runs (replaceOnce dateTable t)) ∧
    Finished MonthFirst (runs (replaceOnce dateTable t)) := by
  rw [replaceOnce_dateTable]
  have h₁ := rewritten_comma t
  have h₂ := rewritten_apostrophe (commaPass.apply t)
  have h₃ := rewritten_daysFirst (apostrophePass.apply (commaPass.apply t))
  have h₄ := rewritten_monthFirst (daysFirstPass.apply (apostrophePass.apply (commaPass.apply t)))
  have alike₃ := h₃.forall₂ cellwise_daysFirst
  have alike₄ := h₄.forall₂ cellwise_monthFirst
  have spaced₃ := alike₃.imp fun _ _ => Alike.spaced
  have spaced₄ := alike₄.imp fun _ _ => Alike.spaced
  refine ⟨?_, ?_, ?_, h₄.finished cellwise_monthFirst comes_monthFirst unnested_monthFirst⟩
  · have hcomma := h₁.finished cellwise_comma comes_comma unnested_comma
    exact ((hcomma.of_joining h₂ joining_apostrophe lacks_comma).carried spaced₃
      comes_comma).carried spaced₄ comes_comma
  · have hdecades := h₂.finished_of_fresh joining_apostrophe lacks_apostrophe
    exact (hdecades.carried spaced₃ comes_apostrophe).carried spaced₄ comes_apostrophe
  · exact (h₃.finished cellwise_daysFirst comes_daysFirst unnested_daysFirst).carried alike₄
      comes_daysFirst

theorem replaceOnce_dateTable_of_finished (h₁ : Finished Comma (runs t))
    (h₂ : Finished Apostrophe (runs t)) (h₃ : Finished DaysFirst (runs t))
    (h₄ : Finished MonthFirst (runs t)) : replaceOnce dateTable t = t := by
  rw [replaceOnce_dateTable, eq_of_runs ((rewritten_comma t).eq_self h₁),
    eq_of_runs ((rewritten_apostrophe t).eq_self h₂),
    eq_of_runs ((rewritten_daysFirst t).eq_self h₃),
    eq_of_runs ((rewritten_monthFirst t).eq_self h₄)]

-- -----------------------------------------------------------------------------------------
-- What is touched
-- -----------------------------------------------------------------------------------------

def others (t : Text) : Text := t.filter (!isSeparator ·)

@[simp] theorem others_append (u v : Text) : others (u ++ v) = others u ++ others v :=
  List.filter_append u v

theorem others_of_separators {t : Text} (h : ∀ c ∈ t, isSeparator c = true) : others t = [] := by
  rw [others, List.filter_eq_nil_iff]
  intro c hc
  simp [h c hc]

variable {R : List Text → List Text → Prop}

theorem others_flatten (h : Rewritten R L L')
    (hR : ∀ {W W'}, R W W' → others W'.flatten = others W.flatten) :
    others L'.flatten = others L.flatten := by
  induction h with
  | nil => rfl
  | keep _ _ ih => rw [List.flatten_cons, List.flatten_cons, others_append, others_append, ih]
  | hit hW _ ih =>
    rw [List.flatten_append, List.flatten_append, others_append, others_append, ih, hR hW]

theorem others_comma (h : Comma W W') : others W'.flatten = others W.flatten := by
  obtain @⟨m, s, y, -, hs, -⟩ := h
  have hspaces := others_of_separators (separators_of_gap hs).2
  have hcomma : others (',' :: s) = others s := rfl
  have hspace : others [' '] = [] := rfl
  simp only [List.flatten_cons, others_append, hcomma, hspaces, hspace]

theorem others_apostrophe (h : Apostrophe W W') : others W'.flatten = others W.flatten := by
  obtain ⟨-, -⟩ := h
  have hquote : others ['\''] = [] := rfl
  simp only [List.flatten_cons, others_append, hquote, List.append_assoc, List.nil_append]

theorem others_range (hh : range.Words h) : others h = others ['–'] :=
  others_of_separators (separators_of_range hh).2

theorem others_gap (hg : someGap.Words g) : others g = others [' '] :=
  others_of_separators (separators_of_gap hg).2

theorem others_daysFirst (h : DaysFirst W W') : others W'.flatten = others W.flatten := by
  obtain ⟨-, hh, -, hs, -⟩ := h
  simp only [List.flatten_cons, others_append, others_range hh, others_gap hs]

theorem others_monthFirst (h : MonthFirst W W') : others W'.flatten = others W.flatten := by
  obtain ⟨-, hs, -, hh, -⟩ := h
  simp only [List.flatten_cons, others_append, others_range hh, others_gap hs]

theorem others_of_rewritten {t t' : Text} (h : Rewritten R (runs t) (runs t'))
    (hR : ∀ {W W'}, R W W' → others W'.flatten = others W.flatten) : others t' = others t := by
  simpa only [flatten_runs] using others_flatten h hR

theorem others_replaceOnce (t : Text) : others (replaceOnce dateTable t) = others t := by
  rw [replaceOnce_dateTable, others_of_rewritten (rewritten_monthFirst _) others_monthFirst,
    others_of_rewritten (rewritten_daysFirst _) others_daysFirst,
    others_of_rewritten (rewritten_apostrophe _) others_apostrophe,
    others_of_rewritten (rewritten_comma _) others_comma]

/-- The fix of dates comes to rest at once, whatever the text is, and only touches separators. -/
theorem dates_idempotent_and_keeps_others (t : Text) : dates (dates t) = dates t ∧
    (dates t).filter (!isSeparator ·) = t.filter (!isSeparator ·) := by
  constructor
  · obtain ⟨h₁, h₂, h₃, h₄⟩ := finished_replaceOnce t
    have hagain := replaceOnce_dateTable_of_finished h₁ h₂ h₃ h₄
    have hdates : dates t = replaceOnce dateTable t := untilStable_of_idempotent hagain
    rw [hdates]
    exact untilStable_of_fixed hagain
  · exact untilStable_related (R := fun t t' => others t' = others t) (fun _ => rfl)
      (fun h h' => h'.trans h) others_replaceOnce t

end Wikitext.Fix.Dates
