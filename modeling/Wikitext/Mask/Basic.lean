import Wikitext.Mask.Placeholder
import Wikitext.Region

/-!
# Masks

Before a risky change, the regions that it must not touch are swapped for
placeholders, and afterwards the regions are put back. Later passes of hiding
run over text that is already masked, so a hidden stretch may itself hold
placeholders of earlier ones. Every stretch has to be found exactly once when
the text is restored; otherwise restoring fails, and no text is lost in
silence.
-/

namespace Wikitext

inductive MaskError
  | alreadyHidden
  | markerInText
  | unknownPlaceholder (index : Nat)
  | duplicatePlaceholder (index : Nat)
  | placeholderMismatch (expected found : Nat)
  deriving DecidableEq, Repr

def MaskError.message : MaskError → String
  | .alreadyHidden => "text is already masked, add the hidden spans back first"
  | .markerInText => "text already contains masking placeholders"
  | .unknownPlaceholder index =>
    "placeholder " ++ toString index ++ " does not refer to a hidden span"
  | .duplicatePlaceholder index => "placeholder " ++ toString index ++ " occurs more than once"
  | .placeholderMismatch expected found =>
    "expected " ++ toString expected ++ " placeholders in the text, found " ++ toString found

namespace Mask

-- -----------------------------------------------------------------------------------------
-- Hiding
-- -----------------------------------------------------------------------------------------

/-- A text and the stretches taken out of it; the placeholder with number `i` stands for
stretch `i`. -/
structure Hidden where
  text : Text
  spans : Array Text

namespace Hidden

/-- Hides every match of a pattern. -/
def hide (kind : Kind) (r : Regex) (h : Hidden) : Hidden :=
  let (text, spans) := r.replaceWith
    (fun m spans => (placeholder kind spans.size, spans.push m.text)) h.spans h.text
  { text, spans }

def hideIf (kind : Kind) (r : Regex) (wanted : Bool) (h : Hidden) : Hidden :=
  if wanted then h.hide kind r else h

/-- Hides templates from the inside out. A pass that hides one leaves fewer braces. -/
def hideTemplates (kind : Kind) (h : Hidden) : Hidden :=
  let next := h.hide kind Region.innermostTemplate
  if _h : next.text.count '\x7b' < h.text.count '\x7b' then next.hideTemplates kind else next
termination_by h.text.count '\x7b'

end Hidden

-- -----------------------------------------------------------------------------------------
-- Restoring
-- -----------------------------------------------------------------------------------------

/-- The largest number in 64 bits. A placeholder with a larger one names no stretch, and is
reported with this one. -/
def largestIndex : Nat := 18446744073709551615

/-- What the placeholder with number `i` stands for. -/
def named (kind : Kind) (spans : Array Text) (i : Nat) : List Part :=
  (spans[i]?.map (parts kind)).getD []

/-- The parts that there can still be to walk over. -/
def toWalk (kind : Kind) (spans : Array Text) (ps : List Part) (missing : List Nat) : List Part :=
  ps ++ missing.flatMap (named kind spans)

theorem toWalk_placeholder (h : spans[i]? = some span) (hm : i ∈ missing) (ps : List Part) :
    (toWalk kind spans (parts kind span ++ ps) (missing.erase i)).length <
      (toWalk kind spans (.placeholder i :: ps) missing).length := by
  have hn : named kind spans i = parts kind span := by simp [named, h]
  have hp := ((List.perm_cons_erase hm).flatMap_right (named kind spans)).length_eq
  rw [List.flatMap_cons, hn, List.length_append] at hp
  simp only [toWalk, List.length_append, List.length_cons]
  omega

/-- Puts the stretches back, in one walk from left to right that enters a stretch where its
placeholder stands. `missing` holds the numbers that were not met yet. -/
def expand (kind : Kind) (spans : Array Text) :
    List Part → (missing : List Nat) → Except MaskError (Text × List Nat)
  | [], missing => .ok ([], missing)
  | .char c :: rest, missing => do
    let (text, missing) ← expand kind spans rest missing
    return (c :: text, missing)
  | .placeholder i :: rest, missing =>
    match _hs : spans[i]? with
    | none => .error (.unknownPlaceholder (min i largestIndex))
    | some span =>
      if _h : i ∈ missing then
        expand kind spans (parts kind span ++ rest) (missing.erase i)
      else .error (.duplicatePlaceholder i)
termination_by ps missing => (toWalk kind spans ps missing).length
decreasing_by
  · simp [toWalk]
  · exact toWalk_placeholder _hs _h rest

def restore (kind : Kind) (spans : Array Text) (t : Text) : Except MaskError Text := do
  let (text, missing) ← expand kind spans (parts kind t) (List.range spans.size)
  if missing.isEmpty then return text
  else throw (.placeholderMismatch spans.size (spans.size - missing.length))

/-- What the plain mask hides besides comments and unformatted elements. -/
structure Options where
  externalLinks : Bool := false
  images : Bool := true
  refs : Bool := false
  deriving DecidableEq, Repr

end Mask

/-- The plain mask is for the fixes, the broad one hides templates, headings and links as
well. Each holds the stretches of at most one text at a time. -/
structure Mask where
  options : Mask.Options
  /-- What counts as an image on this wiki. -/
  images : Regex
  plain : Array Text := #[]
  broad : Array Text := #[]

namespace Mask

def ofProfile (p : Profile) (options : Options) : Mask := { options, images := Region.images p }

def isHiding (m : Mask) : Bool := !m.plain.isEmpty

/-- Forgets every hidden stretch. -/
def reset (m : Mask) : Mask := { m with plain := #[], broad := #[] }

/-- Why a text cannot be masked now. -/
def refusal? (kind : Kind) (spans : Array Text) (t : Text) : Option MaskError :=
  if !spans.isEmpty then some .alreadyHidden
  else if hasPlaceholder kind t then some .markerInText
  else none

def hide (m : Mask) (t : Text) : Except MaskError (Text × Mask) :=
  match refusal? .plain m.plain t with
  | some e => .error e
  | none =>
    let start : Hidden := { text := t, spans := #[] }
    let h := start.hide .plain Region.unformatted
      |>.hideIf .plain Region.references m.options.refs
      |>.hideIf .plain m.images m.options.images
      |>.hideIf .plain Region.externalLinks m.options.externalLinks
    .ok (h.text, { m with plain := h.spans })

/-- The restored text. The stretches are forgotten, also when they cannot be put back. -/
def addBack (m : Mask) (t : Text) : Except MaskError Text × Mask :=
  (restore .plain m.plain t, { m with plain := #[] })

/-- With `onlyTargets` the text of a piped link stays visible. -/
def hideMore (m : Mask) (onlyTargets : Bool) (t : Text) : Except MaskError (Text × Mask) :=
  match refusal? .broad m.broad t with
  | some e => .error e
  | none =>
    let start : Hidden := { text := t, spans := #[] }
    let h := start.hide .broad Region.unformatted
      |>.hide .broad Region.references
      |>.hideTemplates .broad
      |>.hide .broad m.images
      |>.hide .broad Region.externalLinks
      |>.hide .broad Region.headings
      |>.hide .broad (if onlyTargets then Region.linkTargets else Region.links)
    .ok (h.text, { m with broad := h.spans })

def addBackMore (m : Mask) (t : Text) : Except MaskError Text × Mask :=
  (restore .broad m.broad t, { m with broad := #[] })

end Mask

end Wikitext
