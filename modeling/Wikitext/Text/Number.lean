import Wikitext.Chars.Basic
import Wikitext.Text.Basic

/-!
# Numbers

A number is written in ASCII digits. Zeros may stand in front when it is read;
when it is written they only fill up a given width.
-/

namespace Wikitext.Text

-- -----------------------------------------------------------------------------------------
-- Reading
-- -----------------------------------------------------------------------------------------

/-- The number with the given digits; whatever is no digit of the base counts as zero. -/
def numberOfDigits (base : Nat) (digits : Text) : Nat :=
  digits.foldl (fun n c => base * n + (Chars.digitValue? base c).getD 0) 0

/-- The number that one or more digits make up. -/
def number? (base : Nat) (t : Text) : Option Nat :=
  if !t.isEmpty && t.all fun c => (Chars.digitValue? base c).isSome then
    some (numberOfDigits base t)
  else none

/-- The decimal number, which may have a sign. -/
def signedNumber? : Text → Option Int
  | '-' :: t => (number? 10 t).map fun n => -(n : Int)
  | '+' :: t => (number? 10 t).map (↑·)
  | t => (number? 10 t).map (↑·)

/-- The decimal number if it lies between two bounds. -/
def boundedNumber? (least most : Int) (t : Text) : Option Int :=
  (signedNumber? t).filter fun n => least ≤ n && n ≤ most

-- -----------------------------------------------------------------------------------------
-- Writing
-- -----------------------------------------------------------------------------------------

/-- The decimal digits of `n`. -/
def ofNat (n : Nat) : Text := Nat.toDigits 10 n

/-- The decimal digits of `n`, filled up with zeros to the given width. -/
def padded (width n : Nat) : Text :=
  let digits := ofNat n
  List.replicate (width - digits.length) '0' ++ digits

-- -----------------------------------------------------------------------------------------
-- Written numbers are read again
-- -----------------------------------------------------------------------------------------

theorem digitValue?_of_isAsciiDigit {c : Char} (h : Chars.isAsciiDigit c = true) :
    Chars.digitValue? 10 c = some (c.toNat - '0'.toNat) := by
  have hle : c.toNat ≤ 57 := by
    simp only [Chars.isAsciiDigit, Bool.and_eq_true, decide_eq_true_eq] at h
    exact h.2
  have hlt : c.toNat - 48 < 10 := by omega
  simp [Chars.digitValue?, Chars.hexValue?, h, hlt]

theorem numberOfDigits_eq {digits : Text} (h : ∀ d ∈ digits, Chars.isAsciiDigit d = true) :
    numberOfDigits 10 digits = Nat.ofDigitChars 10 digits 0 := by
  have hfrom : ∀ n, digits.foldl (fun n c => 10 * n + (Chars.digitValue? 10 c).getD 0) n =
      Nat.ofDigitChars 10 digits n := by
    induction digits with
    | nil => exact fun _ => rfl
    | cons d digits ih =>
      intro n
      rw [List.foldl_cons, digitValue?_of_isAsciiDigit (h d (by simp)), Option.getD_some,
        Nat.ofDigitChars_cons]
      exact ih (fun d hd => h d (by simp [hd])) _
  exact hfrom 0

theorem isAsciiDigit_of_mem_ofNat (h : d ∈ ofNat n) : Chars.isAsciiDigit d = true := by
  have hd : d.isDigit = true := Nat.isDigit_of_mem_toDigits (by decide) (by decide) h
  simpa [Chars.isAsciiDigit, Char.isDigit, Char.le_def, UInt32.le_iff_toNat_le] using hd

theorem numberOfDigits_ofNat (n : Nat) : numberOfDigits 10 (ofNat n) = n := by
  rw [numberOfDigits_eq fun _ => isAsciiDigit_of_mem_ofNat]
  exact Nat.ofDigitChars_ten_toDigits

theorem ofNat_ne_nil (n : Nat) : ofNat n ≠ [] := Nat.toDigits_ne_nil

end Wikitext.Text
