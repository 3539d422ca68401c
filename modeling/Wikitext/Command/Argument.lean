import Wikitext.Text.Number

/-!
# Arguments

A command takes a fixed number of files and options, some of them with a value.
Options may stand before, between and after the files; after `--` all arguments
are files. The arguments are checked one by one, so the first fault counts, and
whoever asks for help before a fault gets it.
-/

namespace Wikitext

/-- What an argument looks like. -/
inductive Argument
  | long (name : Text) (value : Option Text)
  | short (letters : Text)
  | divider
  | plain (t : Text)
  deriving DecidableEq, Repr

/-- A lone `-` is no option. -/
def Argument.ofText : Text → Argument
  | ['-', '-'] => .divider
  | '-' :: '-' :: t =>
    match Text.splitFirst? '=' t with
    | some (name, value) => .long name (some value)
    | none => .long t none
  | '-' :: c :: t => .short (c :: t)
  | t => .plain t

inductive UsageError
  | noCommand
  | unknownCommand (name : Text)
  | unknownOption (option : Text)
  | repeatedOption (option : Text)
  | missingValue (option : Text)
  | unwantedValue (option value : Text)
  | badValue (option value : Text)
  | missingFile (name : Text)
  | extraFile (file : Text)
  deriving DecidableEq, Repr

def UsageError.message (e : UsageError) : String :=
  let shown (t : Text) : String := "'" ++ String.ofList t ++ "'"
  match e with
  | .noCommand => "a command is missing"
  | .unknownCommand name => "there is no command " ++ shown name
  | .unknownOption option => "there is no option " ++ shown option
  | .repeatedOption option => "the option " ++ shown option ++ " is given twice"
  | .missingValue option => "the option " ++ shown option ++ " needs a value"
  | .unwantedValue option value =>
    "the option " ++ shown option ++ " takes no value such as " ++ shown value
  | .badValue option value => shown value ++ " is no value for the option " ++ shown option
  | .missingFile name => "the file " ++ String.ofList name ++ " is missing"
  | .extraFile file => "nothing is to be done with " ++ shown file

/-- What ends the reading of arguments before their end. -/
inductive Interruption
  | help
  | fault (e : UsageError)
  deriving DecidableEq, Repr

inductive ValueKind
  | text
  | path
  | count
  deriving DecidableEq, Repr

/-- The number that a value gives if a machine word can hold it; a plus sign may stand before
it. -/
def ValueKind.count? : Text → Option Nat
  | '-' :: _ => none
  | t => (Text.boundedNumber? 0 18446744073709551615 t).map Int.toNat

def ValueKind.accepts : ValueKind → Text → Bool
  | .text, _ => true
  | .path, t => !t.isEmpty
  | .count, t => (count? t).isSome

/-- What a command takes. -/
structure Signature where
  files : List Text
  flags : List Text := []
  values : List (Text × ValueKind) := []

/-- What a command was given. -/
structure Arguments where
  files : List Text := []
  flags : List Text := []
  values : List (Text × Text) := []
  deriving DecidableEq, Repr

namespace Arguments

def hasFlag (a : Arguments) (name : String) : Bool := a.flags.contains name.toList

def value? (a : Arguments) (name : String) : Option Text := a.values.lookup name.toList

def addFile (s : Signature) (a : Arguments) (file : Text) : Except Interruption Arguments :=
  match s.files[a.files.length]? with
  | none => .error (.fault (.extraFile file))
  | some name =>
    if ValueKind.path.accepts file then .ok { a with files := a.files ++ [file] }
    else .error (.fault (.missingFile name))

def addFlag (a : Arguments) (name : Text) : Except Interruption Arguments :=
  if a.flags.contains name then .error (.fault (.repeatedOption name))
  else .ok { a with flags := name :: a.flags }

def addValue (a : Arguments) (name : Text) (kind : ValueKind) (value : Text) :
    Except Interruption Arguments :=
  if !kind.accepts value then .error (.fault (.badValue name value))
  else if (a.values.lookup name).isSome then .error (.fault (.repeatedOption name))
  else .ok { a with values := (name, value) :: a.values }

/-- What the next argument is read as. -/
inductive Expected
  | anything
  | value (name : Text) (kind : ValueKind)
  | file

def long (s : Signature) (a : Arguments) (name : Text) (value : Option Text) :
    Except Interruption (Arguments × Expected) :=
  match s.values.lookup name, value with
  | some kind, some value => do return (← a.addValue name kind value, .anything)
  | some kind, none => .ok (a, .value name kind)
  | none, value =>
    if name != "help".toList && !s.flags.contains name then
      .error (.fault (.unknownOption name))
    else match value with
      | some value => .error (.fault (.unwantedValue name value))
      | none =>
        if name == "help".toList then .error .help
        else do return (← a.addFlag name, .anything)

def step (s : Signature) : Arguments × Expected → Text → Except Interruption (Arguments × Expected)
  | (a, .file), t => do return (← a.addFile s t, .file)
  | (a, .value name kind), t =>
    match Argument.ofText t with
    | .plain value => do return (← a.addValue name kind value, .anything)
    | _ => .error (.fault (.missingValue name))
  | (a, .anything), t =>
    match Argument.ofText t with
    | .plain file => do return (← a.addFile s file, .anything)
    | .divider => .ok (a, .file)
    | .long name value => a.long s name value
    | .short letters =>
      if letters.head? == some 'h' then .error .help else .error (.fault (.unknownOption t))

/-- The arguments, if they are as they have to be. -/
def read (s : Signature) (args : List Text) : Except Interruption Arguments := do
  let (a, expected) ← args.foldlM (step s) ({}, .anything)
  if let .value name _ := expected then throw (.fault (.missingValue name))
  match s.files[a.files.length]? with
  | some name => throw (.fault (.missingFile name))
  | none => return a

end Arguments

end Wikitext
