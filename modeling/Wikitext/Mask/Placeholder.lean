import Wikitext.Text.Number

/-!
# Placeholders

A placeholder stands in a text for a stretch that was taken out of it. It
carries the number of the stretch between corner brackets; the broad mask
writes a letter before the number, so that the two kinds of mask never read
each other's placeholders.
-/

namespace Wikitext.Mask

inductive Kind
  | plain
  | broad
  deriving DecidableEq, Repr

def Kind.tag : Kind → Text
  | .plain => []
  | .broad => ['M']

def opening : Text := List.replicate 4 '⌊'

def closing : Text := List.replicate 4 '⌋'

def placeholder (kind : Kind) (index : Nat) : Text :=
  opening ++ kind.tag ++ Text.ofNat index ++ closing

/-- The number of the placeholder at the start of a text, and the text after it. Any digits
are read, also with leading zeros. -/
def readPlaceholder? (kind : Kind) (t : Text) : Option (Nat × Text) := do
  let t ← Text.dropPrefix? (opening ++ kind.tag) t
  let digits := t.takeWhile Chars.isAsciiDigit
  let rest ← Text.dropPrefix? closing (t.dropWhile Chars.isAsciiDigit)
  if digits.isEmpty then none else some (Text.numberOfDigits 10 digits, rest)

theorem length_dropPrefix? {p t rest : Text} (h : Text.dropPrefix? p t = some rest) :
    t.length = p.length + rest.length := by
  rw [Text.dropPrefix?_eq_some.mp h, List.length_append]

theorem length_readPlaceholder? {kind : Kind} {t rest : Text} {i : Nat}
    (h : readPlaceholder? kind t = some (i, rest)) : rest.length < t.length := by
  simp only [readPlaceholder?, Option.bind_eq_bind, Option.bind_eq_some_iff] at h
  obtain ⟨u, hu, v, hv, h⟩ := h
  have h₁ := length_dropPrefix? hu
  have h₂ := length_dropPrefix? hv
  have h₃ : (u.dropWhile Chars.isAsciiDigit).length ≤ u.length :=
    (List.dropWhile_suffix _).length_le
  simp only [opening, closing, List.length_append, List.length_replicate] at h₁ h₂
  split at h
  · cases h
  · simp only [Option.some.injEq, Prod.mk.injEq] at h
    obtain ⟨-, rfl⟩ := h
    omega

/-- A text with its placeholders read. -/
inductive Part
  | char (c : Char)
  | placeholder (index : Nat)
  deriving DecidableEq, Repr

/-- The placeholders of a text, found from left to right, among its other characters. -/
def parts (kind : Kind) : Text → List Part
  | [] => []
  | c :: cs =>
    match _h : readPlaceholder? kind (c :: cs) with
    | some (i, rest) => .placeholder i :: parts kind rest
    | none => .char c :: parts kind cs
termination_by t => t.length
decreasing_by
  · exact length_readPlaceholder? _h
  · simp

def hasPlaceholder (kind : Kind) (t : Text) : Bool :=
  (parts kind t).any fun
    | .placeholder _ => true
    | .char _ => false

end Wikitext.Mask
