import Wikitext.Dump.Timestamp
import Wikitext.Proofs.Text.Basic
import Wikitext.Proofs.Text.Number

/-!
# Written times

`Timestamp.read?_text`: a time in a year of four digits is read as it is written.
-/

namespace Wikitext.Timestamp

open Text (padded)

/-- What is padded to a width that it fills begins and ends with it, whatever follows. -/
theorem trimStart_padded_append (hw : 0 < w) (hn : n < 10 ^ w) (rest : Text) :
    Text.trimStart (padded w n ++ rest) = padded w n ++ rest := by
  refine Text.trimStart_of_not_blank fun c hc => ?_
  have hne : padded w n ≠ [] := fun h => by
    have := Text.length_padded hw hn
    rw [h, List.length_nil] at this
    omega
  rw [List.head?_append_of_ne_nil _ hne] at hc
  exact Text.isBlank_of_isAsciiDigit (Text.isAsciiDigit_of_mem_padded (List.mem_of_mem_head? hc))

theorem readNumber?_padded (hw : 0 < w) (hn : n < 10 ^ w) (rest : Text) :
    readNumber? w (padded w n ++ rest) = some (n, rest) := by
  have hlength := Text.length_padded hw hn
  have htake : (padded w n ++ rest).take w = padded w n := by
    rw [List.take_append_of_le_length hlength.ge, List.take_of_length_le hlength.le]
  have hdigits : (padded w n).takeWhile Chars.isAsciiDigit = padded w n :=
    List.takeWhile_eq_self_iff.mpr fun c hc => Text.isAsciiDigit_of_mem_padded hc
  have hdrop : (padded w n ++ rest).drop (padded w n).length = rest := List.drop_left
  have hne : padded w n ≠ [] := fun h => by
    rw [h, List.length_nil] at hlength
    omega
  simp only [readNumber?, trimStart_padded_append hw hn, htake, hdigits, hdrop,
    Text.numberOfDigits_padded, List.isEmpty_iff, hne, ↓reduceIte]

theorem readYear?_padded (hn : n < 10000) (rest : Text) :
    readYear? (padded 4 n ++ rest) = some ((n : Int), rest) := by
  have hdigit : ∀ c ∈ (padded 4 n ++ rest).head?, Chars.isAsciiDigit c = true := by
    intro c hc
    have hne : padded 4 n ≠ [] := fun h => by
      have := Text.length_padded (by decide : 0 < 4) hn
      simp [h] at this
    rw [List.head?_append_of_ne_nil _ hne] at hc
    exact Text.isAsciiDigit_of_mem_padded (List.mem_of_mem_head? hc)
  have hread := readNumber?_padded (by decide : 0 < 4) hn rest
  unfold readYear?
  rw [trimStart_padded_append (by decide) hn]
  generalize padded 4 n ++ rest = t at hdigit hread
  split
  · exact absurd (hdigit '-' rfl) (by decide)
  · exact absurd (hdigit '+' rfl) (by decide)
  · rw [hread]
    rfl

theorem dropPrefix?_append (p t : Text) : Text.dropPrefix? p (p ++ t) = some t :=
  Text.dropPrefix?_eq_some.mpr rfl

/-- A year of four digits, from 0 to 9999. -/
def HasShortYear (t : Timestamp) : Prop := 0 ≤ t.year ∧ t.year ≤ 9999

instance (t : Timestamp) : Decidable t.HasShortYear :=
  inferInstanceAs (Decidable (0 ≤ t.year ∧ t.year ≤ 9999))

theorem daysInMonth_le (y : Int) (m : Nat) : daysInMonth y m ≤ 31 := by
  unfold daysInMonth
  repeat' split
  all_goals omega

theorem month_lt_of_isCalendarDate (h : isCalendarDate y m d = true) : m < 100 := by
  by_contra hm
  have hdays : daysInMonth y m = 0 := by
    have h2 : m ≠ 2 := by omega
    have h30 : m ≠ 4 ∧ m ≠ 6 ∧ m ≠ 9 ∧ m ≠ 11 := by omega
    have h31 : ¬ m ≤ 12 := by omega
    simp [daysInMonth, h2, h30, h31]
  simp only [isCalendarDate, hdays, Bool.and_eq_true, decide_eq_true_eq] at h
  omega

theorem isValid_bounds {t : Timestamp} (h : t.isValid = true) :
    t.month < 100 ∧ t.day < 100 ∧ t.hour < 100 ∧ t.minute < 100 ∧ t.second < 100 := by
  simp only [isValid, Bool.and_eq_true, decide_eq_true_eq] at h
  obtain ⟨⟨⟨⟨-, hdate⟩, hhour⟩, hminute⟩, hsecond⟩ := h
  have hmonth := month_lt_of_isCalendarDate hdate
  have hdays := daysInMonth_le t.year t.month
  simp only [isCalendarDate, Bool.and_eq_true, decide_eq_true_eq] at hdate
  exact ⟨hmonth, by omega, by omega, by omega, by omega⟩

theorem text_of_hasShortYear {t : Timestamp} (hy : t.HasShortYear) :
    t.text = padded 4 t.year.toNat ++ (marked.afterYear ++ (padded 2 t.month ++ (marked.afterMonth ++
      (padded 2 t.day ++ (marked.afterDay ++ (padded 2 t.hour ++ (marked.afterHour ++
      (padded 2 t.minute ++ (marked.afterMinute ++ (padded 2 t.second ++ marked.afterSecond)))))))))) := by
  obtain ⟨hleast, hmost⟩ := hy
  have habs : t.year.natAbs = t.year.toNat := by omega
  have hleast : ¬ t.year < 0 := by omega
  have hmost : ¬ t.year > 9999 := by omega
  simp only [text, yearText, hleast, hmost, ↓reduceIte, habs, List.append_assoc]

theorem readAs?_text {t : Timestamp} (ht : t.isValid = true) (hy : t.HasShortYear) :
    readAs? marked t.text = some t := by
  obtain ⟨hmonth, hday, hhour, hminute, hsecond⟩ := isValid_bounds ht
  have hyear : t.year.toNat < 10000 := by
    have := hy.2
    omega
  have hyear' : (t.year.toNat : Int) = t.year := Int.toNat_of_nonneg hy.1
  have hend : Text.dropPrefix? marked.afterSecond marked.afterSecond = some [] := rfl
  have hnumber (n : Nat) (hn : n < 100) (rest : Text) :
      readNumber? 2 (padded 2 n ++ rest) = some (n, rest) := readNumber?_padded (by decide) hn rest
  rw [text_of_hasShortYear hy, readAs?]
  simp only [bind, Option.bind_some, readYear?_padded hyear, dropPrefix?_append, hnumber _ hmonth,
    hnumber _ hday, hnumber _ hhour, hnumber _ hminute, hnumber _ hsecond, hend, hyear', ht,
    List.isEmpty_nil, Bool.and_self, ↓reduceIte]

theorem trim_text {t : Timestamp} (hy : t.HasShortYear) : Text.trim t.text = t.text := by
  have hmark {mark : Text} (h : mark.all (fun c => !Chars.isBlank c) = true) :
      ∀ c ∈ mark, Chars.isBlank c = false := by
    simpa using h
  refine Text.trim_of_not_blank ?_
  rw [text_of_hasShortYear hy]
  simp only [List.forall_mem_append]
  exact ⟨Text.not_blank_padded _ _, hmark rfl, Text.not_blank_padded _ _, hmark rfl,
    Text.not_blank_padded _ _, hmark rfl, Text.not_blank_padded _ _, hmark rfl,
    Text.not_blank_padded _ _, hmark rfl, Text.not_blank_padded _ _, hmark rfl⟩

theorem text_ne_nil (t : Timestamp) : t.text ≠ [] := by
  simp [text, marked]

theorem read?_text {t : Timestamp} (ht : t.isValid = true) (hy : t.HasShortYear) :
    read? t.text = some t := by
  simp [read?, trim_text hy, readAs?_text ht hy]

end Wikitext.Timestamp
