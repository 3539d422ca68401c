import Wikitext.Fix.Dates
import Wikitext.Proofs.Fix.Harmless
import Wikitext.Proofs.Pattern.Phrase

/-!
# The runs of a date

The patterns for dates are phrases of months, of numbers and of separators between them. Each of them
rewrites stretches of three or five runs: the comma between a month and a year goes, and so does the
apostrophe of a decade, which joins the "s" to the digits; in a range of days, in front of a month or
behind it, there is a dash between the days and a space next to the month.
-/

namespace Wikitext.Fix.Dates

open Pattern Text
open Chars (isDigit isWord)

-- -----------------------------------------------------------------------------------------
-- What dates are made of
-- -----------------------------------------------------------------------------------------

def year : Pattern := exactly 4 digit

def day : Pattern := between 1 2 digit

def century : Pattern := lit "1" ++ digit <|> lit "20"

def decade : Pattern := digit ++ lit "0"

def range : Pattern := gap ++ dash ++ gap

/-- Some digits. -/
def Digits (s : Text) : Prop := s ≠ [] ∧ ∀ c ∈ s, isDigit c = true

theorem digits_of_words {p : Pattern} (h : p.Words s) (hn : p.nullable = false)
    (hp : ∀ c, isDigit c = false → p.avoids [c] = true) : Digits s :=
  ⟨h.ne_nil hn, Words.all h hp⟩

theorem Digits.run (h : Digits s) : Run true s := ⟨h.1, fun c hc => Chars.isWord_of_isDigit (h.2 c hc)⟩

theorem digits_of_year (h : year.Words s) : Digits s :=
  digits_of_words h rfl fun c hc => by simp [year, exactly, between, digit, avoids, hc]

theorem digits_of_day (h : day.Words s) : Digits s :=
  digits_of_words h rfl fun c hc => by simp [day, between, digit, avoids, hc]

theorem digits_of_century (h : century.Words s) : Digits s := by
  refine digits_of_words h rfl fun c hc => ?_
  have hparts : century.avoids [c] =
      (((lit "1").avoids [c] && digit.avoids [c]) && (lit "20").avoids [c]) := rfl
  have hone : c ≠ '1' := by rintro rfl; exact absurd hc (by decide)
  have htwo : c ≠ '2' := by rintro rfl; exact absurd hc (by decide)
  have hzero : c ≠ '0' := by rintro rfl; exact absurd hc (by decide)
  simp [hparts, lit, avoids_ofText, digit, avoids, hc, hone.symm, htwo.symm, hzero.symm]

theorem digits_of_decade (h : decade.Words s) : Digits s := by
  refine digits_of_words h rfl fun c hc => ?_
  have hzero : c ≠ '0' := by rintro rfl; exact absurd hc (by decide)
  simp [decade, avoids_append, lit, avoids_ofText, digit, avoids, hc, hzero.symm]

def monthNames : List Text :=
  ["January", "February", "March", "April", "May", "June", "July", "August", "September", "October",
    "November", "December"].map String.toList

theorem months_eq : months = firstOf (monthNames.map ofText) := rfl

theorem mem_monthNames (h : months.Words s) : s ∈ monthNames := by
  obtain ⟨gs, h⟩ := h
  obtain ⟨p, hp, h⟩ := exists_of_firstOf (months_eq ▸ h)
  obtain ⟨name, hname, rfl⟩ := List.mem_map.mp hp
  obtain ⟨rfl, -⟩ := forms_ofText.mp h
  exact hname

theorem run_of_month (h : months.Words s) : Run true s := by
  have hall : ∀ name ∈ monthNames, name ≠ [] ∧ ∀ c ∈ name, isWord c = true := by decide
  exact hall s (mem_monthNames h)

theorem not_isDigit_of_month (h : months.Words s) : ∀ c ∈ s, isDigit c = false := by
  have hall : ∀ name ∈ monthNames, ∀ c ∈ name, isDigit c = false := by decide
  exact hall s (mem_monthNames h)

def isSeparator (c : Char) : Bool := " \t,'-–".toList.contains c

theorem not_isWord_of_isSeparator (h : isSeparator c = true) : isWord c = false := by
  have hall : " \t,'-–".toList.all (fun c => !isWord c) = true := by decide +kernel
  simpa using List.all_eq_true.mp hall c (by simpa [isSeparator] using h)

theorem run_of_separators (hne : s ≠ []) (h : ∀ c ∈ s, isSeparator c = true) : Run false s :=
  ⟨hne, fun c hc => not_isWord_of_isSeparator (h c hc)⟩

theorem separators_of_gap (h : someGap.Words s) : s ≠ [] ∧ ∀ c ∈ s, isSeparator c = true :=
  ⟨h.ne_nil rfl, Words.all h fun c hc => by
    simp_all [isSeparator, someGap, many1, oneOf, avoids]⟩

theorem separators_of_range (h : range.Words s) : s ≠ [] ∧ ∀ c ∈ s, isSeparator c = true :=
  ⟨h.ne_nil rfl, Words.all h fun c hc => by
    simp_all [isSeparator, range, gap, many, dash, oneOf, avoids, avoids_append]⟩

-- -----------------------------------------------------------------------------------------
-- What is rewritten
-- -----------------------------------------------------------------------------------------

/-- A comma between a month and a year goes. -/
inductive Comma : List Text → List Text → Prop
  | mk : months.Words m → someGap.Words s → year.Words y → Comma [m, ',' :: s, y] [m, [' '], y]

/-- The apostrophe of a decade goes. -/
inductive Apostrophe : List Text → List Text → Prop
  | mk : century.Words c → decade.Words d →
      Apostrophe [c ++ d, ['\''], ['s']] [c ++ d ++ ['s']]

/-- A range of days in front of a month. -/
inductive DaysFirst : List Text → List Text → Prop
  | mk : day.Words d → range.Words h → day.Words d' → someGap.Words s → months.Words m →
      DaysFirst [d, h, d', s, m] [d, ['–'], d', [' '], m]

/-- A range of days behind a month. -/
inductive MonthFirst : List Text → List Text → Prop
  | mk : months.Words m → someGap.Words s → day.Words d → range.Words h → day.Words d' →
      MonthFirst [m, s, d, h, d'] [m, [' '], d, ['–'], d']

def commaItems : Shape := [.group 1 months, .out (lit ","), .out someGap, .group 2 year]

def apostropheItems : Shape := [.group 1 century, .group 2 decade, .out (lit "'s")]

def daysFirstItems : Shape :=
  [.group 1 day, .out gap, .out dash, .out gap, .group 2 day, .out someGap, .group 3 months]

def monthFirstItems : Shape :=
  [.group 1 months, .out someGap, .group 2 day, .out gap, .out dash, .out gap, .group 3 day]

def withoutComma (m : Match) : Text := m.group 1 ++ " ".toList ++ m.group 2

def withoutApostrophe (m : Match) : Text := m.group 1 ++ m.group 2 ++ "s".toList

def daysThenMonth (m : Match) : Text :=
  m.group 1 ++ "–".toList ++ m.group 2 ++ " ".toList ++ m.group 3

def monthThenDays (m : Match) : Text :=
  m.group 1 ++ " ".toList ++ m.group 2 ++ "–".toList ++ m.group 3

theorem run_dash : Run false ['–'] := run_of_separators (by simp) (by decide)

theorem run_space : Run false [' '] := run_of_separators (by simp) (by decide)

theorem run_comma (h : someGap.Words s) : Run false (',' :: s) :=
  run_of_separators (by simp) (List.forall_mem_cons.mpr ⟨by decide, (separators_of_gap h).2⟩)

theorem run_gap (h : someGap.Words s) : Run false s :=
  run_of_separators (separators_of_gap h).1 (separators_of_gap h).2

theorem run_range (h : range.Words s) : Run false s :=
  run_of_separators (separators_of_range h).1 (separators_of_range h).2

theorem words_range_iff : range.Words h ↔
    ∃ a c b, h = a ++ (c ++ b) ∧ gap.Words a ∧ dash.Words c ∧ gap.Words b := by
  rw [range, words_append rfl rfl]
  constructor
  · rintro ⟨_, b, rfl, hfront, hb⟩
    obtain ⟨a, c, rfl, ha, hc⟩ := (words_append rfl rfl).mp hfront
    exact ⟨a, c, b, by simp, ha, hc, hb⟩
  · rintro ⟨a, c, b, rfl, ha, hc, hb⟩
    exact ⟨a ++ c, b, by simp, (words_append rfl rfl).mpr ⟨a, c, rfl, ha, hc⟩, hb⟩

theorem respells_comma : Respells commaItems withoutComma Comma where
  plain := rfl
  reads h := by
    obtain ⟨⟩ | ⟨hm, ⟨⟩ | ⟨hc, ⟨⟩ | ⟨hs, ⟨⟩ | ⟨hy, ⟨⟩⟩⟩⟩⟩ := h
    obtain ⟨_, hc⟩ := hc
    obtain ⟨rfl, -⟩ := forms_ofText.mp hc
    refine ⟨_, _, .mk hm hs hy, by simp, fun m hgs => ?_⟩
    rw [withoutComma, m.group_eq_of_texts hgs (by decide) rfl, m.group_eq_of_texts hgs (by decide) rfl]
    simp
  spells h := by
    obtain @⟨m, s, y, hm, hs, hy⟩ := h
    exact ⟨[m, [','], s, y], .cons hm (.cons ⟨[], forms_ofText.mpr ⟨rfl, rfl⟩⟩
      (.cons hs (.cons hy .nil))), by simp⟩
  clause h := by
    obtain ⟨hm, hs, hy⟩ := h
    have hyear := Clause.single (digits_of_year hy).run
    exact ⟨.cons (run_of_month hm) (run_comma hs) hyear,
      .cons (run_of_month hm) run_space hyear⟩

theorem Digits.append (h : Digits s) (h' : Digits s') : Digits (s ++ s') :=
  ⟨by simp [h.1], fun c hc => (List.mem_append.mp hc).elim (h.2 c) (h'.2 c)⟩

theorem run_plural (h : Digits s) : Run true (s ++ ['s']) := by
  refine ⟨by simp, fun c hc => ?_⟩
  rcases List.mem_append.mp hc with hc | hc
  · exact h.run.2 c hc
  · rw [List.mem_singleton.mp hc]
    decide

theorem respells_apostrophe : Respells apostropheItems withoutApostrophe Apostrophe where
  plain := rfl
  reads h := by
    obtain ⟨⟩ | ⟨hc, ⟨⟩ | ⟨hd, ⟨⟩ | ⟨hs, ⟨⟩⟩⟩⟩ := h
    obtain ⟨_, hs⟩ := hs
    obtain ⟨rfl, -⟩ := forms_ofText.mp hs
    refine ⟨_, _, .mk hc hd, by simp, fun m hgs => ?_⟩
    rw [withoutApostrophe, m.group_eq_of_texts hgs (by decide) rfl,
      m.group_eq_of_texts hgs (by decide) rfl]
    simp
  spells h := by
    obtain @⟨c, d, hc, hd⟩ := h
    exact ⟨[c, d, ['\'', 's']], .cons hc (.cons hd (.cons ⟨[], forms_ofText.mpr ⟨rfl, rfl⟩⟩ .nil)),
      by simp⟩
  clause h := by
    obtain ⟨hc, hd⟩ := h
    have hdigits := (digits_of_century hc).append (digits_of_decade hd)
    exact ⟨.cons hdigits.run (run_of_separators (by simp) (by decide))
      (.single ⟨by simp, by decide⟩), .single (run_plural hdigits)⟩

theorem respells_daysFirst : Respells daysFirstItems daysThenMonth DaysFirst where
  plain := rfl
  reads h := by
    obtain ⟨⟩ | ⟨hd, ⟨⟩ | ⟨ha, ⟨⟩ | ⟨hc, ⟨⟩ | ⟨hb, ⟨⟩ | ⟨hd', ⟨⟩ | ⟨hs, ⟨⟩ | ⟨hm, ⟨⟩⟩⟩⟩⟩⟩⟩⟩ := h
    refine ⟨_, _, .mk hd (words_range_iff.mpr ⟨_, _, _, rfl, ha, hc, hb⟩) hd' hs hm, by simp,
      fun m hgs => ?_⟩
    rw [daysThenMonth, m.group_eq_of_texts hgs (by decide) rfl, m.group_eq_of_texts hgs (by decide) rfl,
      m.group_eq_of_texts hgs (by decide) rfl]
    simp
  spells h := by
    obtain @⟨d, h, d', s, m, hd, hh, hd', hs, hm⟩ := h
    obtain ⟨a, c, b, rfl, ha, hc, hb⟩ := words_range_iff.mp hh
    exact ⟨[d, a, c, b, d', s, m], .cons hd (.cons ha (.cons hc (.cons hb (.cons hd' (.cons hs
      (.cons hm .nil)))))), by simp⟩
  clause h := by
    obtain ⟨hd, hh, hd', hs, hm⟩ := h
    have hmonth := Clause.single (run_of_month hm)
    exact ⟨.cons (digits_of_day hd).run (run_range hh) (.cons (digits_of_day hd').run (run_gap hs)
        hmonth),
      .cons (digits_of_day hd).run run_dash (.cons (digits_of_day hd').run run_space hmonth)⟩

theorem respells_monthFirst : Respells monthFirstItems monthThenDays MonthFirst where
  plain := rfl
  reads h := by
    obtain ⟨⟩ | ⟨hm, ⟨⟩ | ⟨hs, ⟨⟩ | ⟨hd, ⟨⟩ | ⟨ha, ⟨⟩ | ⟨hc, ⟨⟩ | ⟨hb, ⟨⟩ | ⟨hd', ⟨⟩⟩⟩⟩⟩⟩⟩⟩ := h
    refine ⟨_, _, .mk hm hs hd (words_range_iff.mpr ⟨_, _, _, rfl, ha, hc, hb⟩) hd', by simp,
      fun m hgs => ?_⟩
    rw [monthThenDays, m.group_eq_of_texts hgs (by decide) rfl, m.group_eq_of_texts hgs (by decide) rfl,
      m.group_eq_of_texts hgs (by decide) rfl]
    simp
  spells h := by
    obtain @⟨m, s, d, h, d', hm, hs, hd, hh, hd'⟩ := h
    obtain ⟨a, c, b, rfl, ha, hc, hb⟩ := words_range_iff.mp hh
    exact ⟨[m, s, d, a, c, b, d'], .cons hm (.cons hs (.cons hd (.cons ha (.cons hc (.cons hb
      (.cons hd' .nil)))))), by simp⟩
  clause h := by
    obtain ⟨hm, hs, hd, hh, hd'⟩ := h
    have hdays := Clause.single (digits_of_day hd').run
    exact ⟨.cons (run_of_month hm) (run_gap hs) (.cons (digits_of_day hd).run (run_range hh) hdays),
      .cons (run_of_month hm) run_space (.cons (digits_of_day hd).run run_dash hdays)⟩

end Wikitext.Fix.Dates
