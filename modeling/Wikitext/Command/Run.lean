import Wikitext.Command.Basic
import Wikitext.Command.Scan
import Wikitext.Diff.Html
import Wikitext.Diff.Row
import Wikitext.Profile.Reader
import Wikitext.Rule.Reader

/-!
# Running commands

A run depends on the world only through the files that it reads. How a file is
read is an argument, so that a run over given contents is a plain value.
-/

namespace Wikitext

inductive RunError
  | usage (e : UsageError)
  | unreadable (path : Text)
  | unopenable (path : Text)
  | config (e : ConfigError)
  | job (e : JobError)
  | dump (e : DumpError)

def RunError.message : RunError → String
  | .usage e => e.message
  | .unreadable path => "failed to read " ++ String.ofList path
  | .unopenable path => "failed to open " ++ String.ofList path
  | .config e => e.message
  | .job e => e.message
  | .dump e => e.message

/-- What a run puts out. -/
structure Report where
  output : Text := []
  /-- Remarks that do not belong to the output. -/
  notes : Text := []
  failure : Option RunError := none

def Report.exitCode (o : Report) : UInt32 :=
  match o.failure with
  | none => 0
  | some (.usage _) => 2
  | some _ => 1

def Report.ofExcept : Except RunError Report → Report
  | .ok o => o
  | .error e => { failure := some e }

/-- The last part of a path, which no `.` is and no `..`. -/
def fileName (path : Text) : Text :=
  match ((Text.splitOn '/' path).filter fun part => part != [] && part != ['.']).getLast? with
  | none | some ['.', '.'] => []
  | some part => part

/-- The file name up to its last dot. A dot at its start does not count. -/
def fileStem (path : Text) : Text :=
  let name := fileName path
  match Text.splitLast? '.' name with
  | none | some ([], _) => name
  | some (stem, _) => stem

def titleOfPath (path : Text) : Text :=
  (fileStem path).map fun c => if c == '_' then ' ' else c

namespace Command

variable {m : Type → Type} [Monad m] (read : Text → m (Option Bytes))

def readText (path : Text) (e : RunError) : ExceptT RunError m Text := do
  match (← read path).bind Text.ofBytes? with
  | some t => return t
  | none => throw e

/-- Also checks the pattern of stub names. -/
def loadVocabulary (path : Option Text) : ExceptT RunError m Vocabulary := do
  let profile ← match path with
    | none => pure Profile.englishWikipedia
    | some path =>
      let t ← readText read path (.config (.unreadable path))
      match Profile.read? t with
      | some p => pure p
      | none => throw (.config (.badProfile path))
  match Vocabulary.ofProfile profile with
  | .ok v => return v
  | .error e => throw (.config e)

def loadRules (path : Option Text) : ExceptT RunError m (List Rule) := do
  match path with
  | none => return []
  | some path =>
    let t ← readText read path (.config (.unreadable path))
    match Rule.readList? t with
    | some rules => return rules
    | none => throw (.config (.badRules path))

def loadJob (a : JobArguments) (skip : SkipOptions) : ExceptT RunError m Job := do
  let vocabulary ← loadVocabulary read a.profile
  let rules ← loadRules read a.rules
  return { vocabulary, rules := { profile := vocabulary.profile, rules }, options := a.options,
           skip }

def noteLine (label : String) (t : Text) : Text := label.toList ++ ": ".toList ++ t ++ ['\n']

def bracketWarning (b : UnbalancedBracket) : Text :=
  "unbalanced bracket at byte ".toList ++ Text.ofNat b.position ++ " (length ".toList ++
    Text.ofNat b.length ++ [')']

/-- What there is to say of a page that was processed. -/
def notesOn (p : Processed) : Text :=
  let warnings := (p.unbalancedBracket.map bracketWarning).toList ++
    p.ruleErrors.map fun e => e.message.toList
  warnings.flatMap (noteLine "warning") ++ noteLine "summary" p.summary

def runFix (file : Text) (title : Option Text) (a : JobArguments) : ExceptT RunError m Report := do
  let t ← readText read file (.unreadable file)
  let job ← loadJob read a {}
  match job.process (title.getD (titleOfPath file)) t with
  | .ok p => return { output := p.text, notes := notesOn p }
  | .error e => throw (.job e)

def runScan (file : Text) (allNamespaces : Bool) (a : JobArguments) :
    ExceptT RunError m Report := do
  let job ← loadJob read a { noChange := true }
  match ← read file with
  | none => throw (.unopenable file)
  | some bytes =>
    match Dump.read false bytes with
    | .error e => throw (.dump e)
    | .ok dump =>
      let reports := job.scan allNamespaces dump.pages
      return { output := reports.flatMap fun r => r.line ++ ['\n']
               failure := dump.stoppedBy.map .dump }

def runDiff (before after : Text) (context : Nat) (html : Bool) : ExceptT RunError m Report := do
  let left ← readText read before (.unreadable before)
  let right ← readText read after (.unreadable after)
  let d := TextDiff.ofTexts left right context
  return { output := if html then d.html else d.plain }

def run : Command → ExceptT RunError m Report
  | .fix file title a => runFix read file title a
  | .scan file allNamespaces a => runScan read file allNamespaces a
  | .diff before after context html => runDiff read before after context html
  | .help topic => return { output := (helpText topic).toList }
  | .version => return { output := versionLine.toList }

/-- Runs the command that arguments describe. -/
def runArguments (args : List Text) : m Report :=
  match Command.read args with
  | .ok command => Report.ofExcept <$> (run read command).run
  | .error e => return { failure := some (.usage e) }

end Command

end Wikitext
