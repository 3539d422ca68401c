import Wikitext.Json.Basic
import Wikitext.Rule.Basic

/-!
# Reading rules

A list of rules is an array of objects. Fields that are missing have their
default values and unknown ones are passed over, but no field may come twice. A
rule may also be an array of the values of its fields in their order.
-/

namespace Wikitext.Rule

abbrev SetField := Rule → Json.Value → Option Rule

def setText (set : Rule → Text → Rule) : SetField
  | r, .string (some t) => some (set r t)
  | _, _ => none

def setBool (set : Rule → Bool → Rule) : SetField
  | r, .bool b => some (set r b)
  | _, _ => none

/-- The fields in their order. -/
def fields : List (Text × SetField) := [
  ("find".toList, setText fun r t => { r with find := t }),
  ("replace".toList, setText fun r t => { r with replace := t }),
  ("case_sensitive".toList, setBool fun r b => { r with caseSensitive := b }),
  ("is_regex".toList, setBool fun r b => { r with isRegex := b }),
  ("multiline".toList, setBool fun r b => { r with multiline := b }),
  ("singleline".toList, setBool fun r b => { r with singleline := b }),
  ("minor".toList, setBool fun r b => { r with minor := b }),
  ("after_fixes".toList, setBool fun r b => { r with afterFixes := b }),
  ("enabled".toList, setBool fun r b => { r with enabled := b }),
  ("comment".toList, setText fun r t => { r with comment := t })]

/-- Sets the fields by name. `seen` holds those that are set already. -/
def ofFields? (r : Rule) (seen : List Text) : List (Option Text × Json.Value) → Option Rule
  | [] => some r
  | (none, _) :: _ => none
  | (some name, v) :: rest =>
    match fields.lookup name with
    | none => ofFields? r seen rest
    | some set =>
      if seen.contains name then none
      else do ofFields? (← set r v) (name :: seen) rest

/-- Sets the fields in their order. -/
def ofItems? (r : Rule) : List (Text × SetField) → List Json.Value → Option Rule
  | _, [] => some r
  | [], _ :: _ => none
  | (_, set) :: sets, v :: vs => do ofItems? (← set r v) sets vs

def ofJson? : Json.Value → Option Rule
  | .object given => ofFields? {} [] given
  | .array items => ofItems? {} fields items
  | _ => none

/-- The rules that a text lists. -/
def readList? (t : Text) : Option (List Rule) := do
  match ← Json.read? t with
  | .array items => items.mapM ofJson?
  | _ => none

end Wikitext.Rule
