import Wikitext.Article.Fixes
import Wikitext.Command.Argument

/-!
# Commands

Three commands work on files: one fixes a text, one scans a dump, one compares
two texts. Two more say something about the program.
-/

namespace Wikitext

/-- What decides how pages are processed. Without a path there is the English Wikipedia or no
rule. -/
structure JobArguments where
  profile : Option Text := none
  rules : Option Text := none
  options : FixOptions := {}

/-- The name of a command. -/
inductive Topic
  | fix
  | scan
  | diff
  | help
  deriving DecidableEq, Repr

/-- Files are given by their paths. -/
inductive Command
  /-- Process one text; without a title it gets that of its file. -/
  | fix (file : Text) (title : Option Text) (job : JobArguments)
  /-- Process the pages of a dump. -/
  | scan (file : Text) (allNamespaces : Bool) (job : JobArguments)
  /-- Show what changed from one text to another. -/
  | diff (before after : Text) (context : Nat) (html : Bool)
  /-- Explain a command, or the program as a whole. -/
  | help (topic : Option Topic)
  | version

namespace Command

def jobFlags : List Text :=
  ["replace-reference-tags", "restrict-defaultsort-addition", "no-mos-compliance-fixes"].map
    String.toList

def jobValues : List (Text × ValueKind) :=
  [("profile".toList, .path), ("rules".toList, .path)]

def fixSignature : Signature where
  files := ["INPUT_FILE".toList]
  flags := jobFlags
  values := ("title".toList, .text) :: jobValues

def scanSignature : Signature where
  files := ["DUMP_FILE".toList]
  flags := "all-namespaces".toList :: jobFlags
  values := jobValues

def diffSignature : Signature where
  files := ["OLD_FILE".toList, "NEW_FILE".toList]
  flags := ["html".toList]
  values := [("context".toList, .count)]

/-- How many unchanged lines are shown around a change. -/
def defaultContext : Nat := 2

def jobArguments (a : Arguments) : JobArguments where
  profile := a.value? "profile"
  rules := a.value? "rules"
  options := {
    replaceReferenceTags := a.hasFlag "replace-reference-tags"
    restrictDefaultSort := a.hasFlag "restrict-defaultsort-addition"
    noStyleFixes := a.hasFlag "no-mos-compliance-fixes" }

def file (a : Arguments) (i : Nat) : Text := a.files.getD i []

/-- Reads the arguments of a command, where asking for help is no fault. -/
def withArguments (topic : Topic) (s : Signature) (make : Arguments → Command)
    (args : List Text) : Except UsageError Command :=
  match Arguments.read s args with
  | .ok a => .ok (make a)
  | .error .help => .ok (.help (some topic))
  | .error (.fault e) => .error e

def topic? (name : Text) : Option Topic :=
  [("fix".toList, Topic.fix), ("scan".toList, .scan), ("diff".toList, .diff),
    ("help".toList, .help)].lookup name

def helpOn : List Text → Except UsageError Command
  | [] => .ok (.help none)
  | [name] =>
    match topic? name with
    | some topic => .ok (.help (some topic))
    | none => .error (.unknownCommand name)
  | _ :: extra :: _ => .error (.unknownCommand extra)

/-- The command that the arguments after the name of one describe. -/
def ofTopic (args : List Text) : Topic → Except UsageError Command
  | .fix =>
    withArguments .fix fixSignature
      (fun a => .fix (file a 0) (a.value? "title") (jobArguments a)) args
  | .scan =>
    withArguments .scan scanSignature
      (fun a => .scan (file a 0) (a.hasFlag "all-namespaces") (jobArguments a)) args
  | .diff =>
    withArguments .diff diffSignature
      (fun a =>
        .diff (file a 0) (file a 1)
          (((a.value? "context").bind ValueKind.count?).getD defaultContext) (a.hasFlag "html"))
      args
  | .help => helpOn args

/-- The command that arguments describe. -/
def read : List Text → Except UsageError Command
  | [] => .error .noCommand
  | arg :: args =>
    match Argument.ofText arg with
    | .plain name =>
      match topic? name with
      | some topic => ofTopic args topic
      | none => .error (.unknownCommand name)
    | .short ('h' :: _) => .ok (.help none)
    | .short ('V' :: _) => .ok .version
    | .long name none =>
      if name == "help".toList then .ok (.help none)
      else if name == "version".toList then .ok .version
      else .error (.unknownOption arg)
    | .long .. | .short _ => .error (.unknownOption arg)
    | .divider => .error .noCommand

-- -----------------------------------------------------------------------------------------
-- What the program says of itself
-- -----------------------------------------------------------------------------------------

def versionLine : String := "wikifunctions 0.1.0\n"

/-- Lines of two columns, of which the first has the given width. -/
def columns (width : Nat) (rows : List (String × String)) : List String :=
  rows.map fun (name, meaning) =>
    "  " ++ name ++ String.ofList (List.replicate (width - name.length) ' ') ++ "  " ++ meaning

def commandRows : List (String × String) := [
  ("fix", "Run the pipeline over one wikitext file and print the result"),
  ("scan", "Run the pipeline over an XML dump, one JSON line per changed page"),
  ("diff", "Show the line diff between two files"),
  ("help", "Print this message or the help of the given subcommand(s)")]

def jobRows : List (String × String) := [
  ("    --profile <PROFILE>", "Wiki profile (TOML); English Wikipedia when omitted"),
  ("    --rules <RULES>", "Find-and-replace rules (JSON array)"),
  ("    --replace-reference-tags", "Replace a lone `<references />` by the reflist template"),
  ("    --restrict-defaultsort-addition", "Only add DEFAULTSORT to biographies"),
  ("    --no-mos-compliance-fixes", "Skip dash, non-breaking space and date ordinal fixes")]

def helpRow : String × String := ("-h, --help", "Print help")

/-- The help on one command: what it does, how it is called, its files and its options. -/
def page (about usage : String) (files : List String) (options : List (String × String)) :
    List String :=
  [about, "", "Usage: wikifunctions " ++ usage, "", "Arguments:"] ++
    files.map (fun f => "  " ++ f ++ "  ") ++ ["", "Options:"] ++
    columns ((options.map fun o => o.1.length).foldl max 0) options

def helpLines : Option Topic → List String
  | none =>
    ["Wikitext general fixes, find-and-replace rules and an LCS line/word diff for " ++
        "semi-automated MediaWiki editing.",
      "", "Usage: wikifunctions <COMMAND>", "", "Commands:"] ++
      columns 4 commandRows ++ ["", "Options:"] ++
      columns 13 [helpRow, ("-V, --version", "Print version")]
  | some .fix =>
    page "Run the pipeline over one wikitext file and print the result"
      "fix [OPTIONS] <INPUT_FILE>" ["<INPUT_FILE>"]
      (("    --title <TITLE>", "Article title; defaults to the file stem") :: jobRows ++ [helpRow])
  | some .scan =>
    page "Run the pipeline over an XML dump, one JSON line per changed page"
      "scan [OPTIONS] <DUMP_FILE>" ["<DUMP_FILE>"]
      (("    --all-namespaces", "Also process pages outside the main namespace") :: jobRows ++
        [helpRow])
  | some .diff =>
    page "Show the line diff between two files"
      "diff [OPTIONS] <OLD_FILE> <NEW_FILE>" ["<OLD_FILE>", "<NEW_FILE>"]
      [("    --context <CONTEXT>", "[default: 2]"),
        ("    --html", "Print an HTML table body instead of unified-style text"), helpRow]
  | some .help =>
    ["Print this message or the help of the given subcommand(s)", "",
      "Usage: wikifunctions help [COMMAND]...", "", "Arguments:"] ++
      columns 12 [("[COMMAND]...", "Print help for the subcommand(s)")]

def helpText (topic : Option Topic) : String := String.join ((helpLines topic).map (· ++ "\n"))

end Command

end Wikitext
