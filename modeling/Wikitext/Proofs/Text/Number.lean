import Wikitext.Proofs.Text.Basic
import Wikitext.Text.Number
import Mathlib.Data.Nat.Digits.Defs

/-!
# Written numbers

An integer in decimal digits, with a sign if it is negative, is read as that integer, also between
bounds that it keeps. A number is less than the power of ten for its digits. Filled up with zeros it
has the width asked for, if it is small enough, and is read as the number without them.
-/

namespace Wikitext.Text

open Chars (isBlank isAsciiDigit digitValue?)

-- -----------------------------------------------------------------------------------------
-- Digits
-- -----------------------------------------------------------------------------------------

theorem isBlank_of_isAsciiDigit (h : isAsciiDigit c = true) : isBlank c = false := by
  have hc : '0'.toNat ≤ c.toNat ∧ c.toNat ≤ '9'.toNat := by
    simpa [isAsciiDigit, Char.le_def, UInt32.le_iff_toNat_le] using h
  have h0 : '0'.toNat = 48 := rfl
  have h9 : '9'.toNat = 57 := rfl
  simp only [isBlank, Bool.or_eq_false_iff, Bool.and_eq_false_iff, decide_eq_false_iff_not,
    beq_eq_false_iff_ne]
  omega

theorem isAsciiDigit_of_mem_padded (h : c ∈ padded w n) : isAsciiDigit c = true := by
  simp only [padded, List.mem_append, List.mem_replicate] at h
  obtain ⟨-, rfl⟩ | h := h
  · decide
  · exact isAsciiDigit_of_mem_ofNat h

theorem not_blank_padded (w n : Nat) : ∀ c ∈ padded w n, isBlank c = false :=
  fun _ hc => isBlank_of_isAsciiDigit (isAsciiDigit_of_mem_padded hc)

theorem length_padded (hw : 0 < w) (h : n < 10 ^ w) : (padded w n).length = w := by
  have hle : (ofNat n).length ≤ w := Nat.toDigits_length 10 n w hw h
  simp only [padded, List.length_append, List.length_replicate]
  omega

theorem numberOfDigits_zero_cons (t : Text) : numberOfDigits 10 ('0' :: t) = numberOfDigits 10 t := rfl

theorem numberOfDigits_padded (w n : Nat) : numberOfDigits 10 (padded w n) = n := by
  simp only [padded]
  induction w - (ofNat n).length with
  | zero => exact numberOfDigits_ofNat n
  | succ k ih => exact (numberOfDigits_zero_cons _).trans ih

theorem number?_of_digits (hne : t ≠ []) (ht : ∀ d ∈ t, isAsciiDigit d = true) :
    number? 10 t = some (numberOfDigits 10 t) := by
  have hall : t.all (fun c => (digitValue? 10 c).isSome) = true := by
    rw [List.all_eq_true]
    intro c hc
    rw [digitValue?_of_isAsciiDigit (ht c hc)]
    rfl
  simp [number?, hall, hne]

theorem number?_padded (w n : Nat) : number? 10 (padded w n) = some n := by
  have hne : padded w n ≠ [] := by simp [padded, ofNat_ne_nil]
  rw [number?_of_digits hne fun _ => isAsciiDigit_of_mem_padded, numberOfDigits_padded]

theorem digitValue?_lt (h : digitValue? 10 c = some n) : n < 10 := by
  simpa using (Option.filter_eq_some_iff.mp h).2

theorem numberOfDigits_concat (t : Text) (c : Char) :
    numberOfDigits 10 (t ++ [c]) = 10 * numberOfDigits 10 t + (digitValue? 10 c).getD 0 := by
  simp [numberOfDigits]

theorem numberOfDigits_lt (t : Text) : numberOfDigits 10 t < 10 ^ t.length := by
  induction t using List.reverseRecOn with
  | nil => decide
  | append_singleton t c ih =>
    have hdigit : (digitValue? 10 c).getD 0 < 10 := by
      cases hc : digitValue? 10 c with
      | none => decide
      | some n => exact digitValue?_lt hc
    rw [numberOfDigits_concat, List.length_append, List.length_singleton, pow_succ]
    omega

theorem number?_lt (h : number? 10 t = some n) : n < 10 ^ t.length := by
  unfold number? at h
  split at h
  · cases h
    exact numberOfDigits_lt t
  · cases h

-- -----------------------------------------------------------------------------------------
-- Integers
-- -----------------------------------------------------------------------------------------

/-- The decimal digits of `n`, after a sign if it is negative. -/
def ofInt (n : Int) : Text := if n < 0 then '-' :: ofNat n.natAbs else ofNat n.natAbs

theorem number?_ofNat (n : Nat) : number? 10 (ofNat n) = some n := by
  rw [number?_of_digits (ofNat_ne_nil n) fun _ => isAsciiDigit_of_mem_ofNat, numberOfDigits_ofNat]

theorem signedNumber?_ofNat (n : Nat) : signedNumber? (ofNat n) = some (n : Int) := by
  have hdigit : ∀ c ∈ ofNat n, isAsciiDigit c = true := fun _ => isAsciiDigit_of_mem_ofNat
  have hread := number?_ofNat n
  generalize ofNat n = t at hdigit hread
  unfold signedNumber?
  split
  · exact absurd (hdigit '-' List.mem_cons_self) (by decide)
  · exact absurd (hdigit '+' List.mem_cons_self) (by decide)
  · rw [hread]
    rfl

theorem signedNumber?_ofInt (n : Int) : signedNumber? (ofInt n) = some n := by
  by_cases hn : n < 0
  · have habs : -(n.natAbs : Int) = n := by omega
    simp only [ofInt, hn, ↓reduceIte, signedNumber?, number?_ofNat]
    exact congrArg some habs
  · simp only [ofInt, hn, ↓reduceIte, signedNumber?_ofNat]
    congr 1
    omega

theorem boundedNumber?_ofInt (hleast : least ≤ n) (hmost : n ≤ most) :
    boundedNumber? least most (ofInt n) = some n := by
  simp [boundedNumber?, signedNumber?_ofInt, hleast, hmost]

theorem ofInt_ne_nil (n : Int) : ofInt n ≠ [] := by
  unfold ofInt
  split
  · exact List.cons_ne_nil _ _
  · exact ofNat_ne_nil _

theorem eq_or_isAsciiDigit_of_mem_ofInt (h : c ∈ ofInt n) : c = '-' ∨ isAsciiDigit c = true := by
  have hc : c = '-' ∨ c ∈ ofNat n.natAbs := by
    unfold ofInt at h
    split at h
    · exact List.mem_cons.mp h
    · exact .inr h
  exact hc.imp_right isAsciiDigit_of_mem_ofNat

theorem trim_ofInt (n : Int) : trim (ofInt n) = ofInt n := by
  refine trim_of_not_blank fun c hc => ?_
  obtain rfl | hc := eq_or_isAsciiDigit_of_mem_ofInt hc
  · rfl
  · exact isBlank_of_isAsciiDigit hc

end Wikitext.Text
