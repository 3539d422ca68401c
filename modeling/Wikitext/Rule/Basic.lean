import Wikitext.Keyword
import Wikitext.Pattern.Backtrack
import Wikitext.Pattern.Expansion

/-!
# Rules

A rule says what to find and what to put in its place. Both may hold keywords
that stand for parts of the title of the page. Every match is replaced, but the
first one alone decides whether the rule counts as a change.
-/

namespace Wikitext

structure Rule where
  find : Text := []
  replace : Text := []
  caseSensitive : Bool := false
  /-- Whether `find` is a pattern and `replace` may refer to its groups. -/
  isRegex : Bool := false
  /-- Line starts and ends count as starts and ends. -/
  multiline : Bool := false
  /-- A dot stands for line breaks too. -/
  singleline : Bool := false
  /-- A minor rule never makes a change a major one. -/
  minor : Bool := false
  afterFixes : Bool := false
  enabled : Bool := true
  comment : Text := []
  deriving DecidableEq, Repr

/-- Rules run before or after the general fixes. -/
inductive Phase
  | beforeFixes
  | afterFixes
  deriving DecidableEq, Repr

inductive RuleError
  | invalidPattern (index : Nat) (pattern : Text)
  | matching (index : Nat)
  deriving DecidableEq, Repr

namespace RuleError

def index : RuleError → Nat
  | .invalidPattern index _ => index
  | .matching index => index

def message : RuleError → String
  | .invalidPattern index pattern =>
    "rule " ++ toString index ++ " has an invalid pattern \x60" ++ String.ofList pattern ++ "\x60: "
  | .matching index => "rule " ++ toString index ++ " failed while matching: "

end RuleError

/-- What a rule did to a text. -/
structure RuleEffect where
  text : Text
  /-- The first match and what was put in its place. -/
  first : Option (Text × Text) := none
  count : Nat := 0
  deriving DecidableEq, Repr

namespace Rule

def runsIn (r : Rule) (phase : Phase) : Bool :=
  r.enabled && !r.find.isEmpty && r.afterFixes == (phase == .afterFixes)

/-- The flags of the pattern in their written form. -/
def flags (r : Rule) : Text :=
  let letters := [(!r.caseSensitive, 'i'), (r.multiline, 'm'), (r.singleline, 's')]
  match (letters.filter (·.1)).map (·.2) with
  | [] => []
  | set => "(?".toList ++ set ++ ")".toList

/-- The pattern that the rule searches on the page `title`. -/
def writtenPattern (r : Rule) (p : Profile) (title : Text) : Text :=
  let find := Keyword.expand p title r.isRegex r.find
  r.flags ++ (if r.isRegex then find else Pattern.escape Pattern.reservedExtended find)

def template (r : Rule) (p : Profile) (title : Text) : Text :=
  let replace := Keyword.expand p title false r.replace
  if r.isRegex then Template.unambiguous replace else Template.literally replace

/-- The text with every match replaced by the expanded template. -/
def replaceMatches (e : Expression) (template : Text) (pieces : List Piece) : RuleEffect :=
  let effect := pieces.foldl
    (fun (e', parts) piece =>
      match piece with
      | .kept t => (e', t :: parts)
      | .hit m =>
        let new := Template.expand (Template.groupText e.names m) template
        ({ e' with first := e'.first.or (some (m.text, new)), count := e'.count + 1 },
          new :: parts))
    (({ text := [] } : RuleEffect), ([] : List Text))
  { effect.1 with text := effect.2.reverse.flatten }

/-- Runs the rule with number `index`. -/
def run (r : Rule) (p : Profile) (index : Nat) (title t : Text) : Except RuleError RuleEffect :=
  match Expression.read (r.writtenPattern p title) with
  | .error _ => .error (.invalidPattern index r.find)
  | .ok e =>
    match e.pieces? t with
    | none => .error (.matching index)
    | some pieces => .ok (replaceMatches e (r.template p title) pieces)

end Rule

end Wikitext
