import LoopScript.CommandLine
import LoopScript.Sample
import LoopScript.Source

/-! A whole run of the program, from its arguments to what it prints. All sources are loaded before
any is reported, and a source that fails does not stop the ones behind it. -/
namespace LoopScript

structure Outcome where
  stdout : String
  exitCode : Nat
  /-- Why the run stopped before it had printed anything. -/
  fatal : Option String := none
  deriving DecidableEq, Repr

def inlineName : String := "<inline>"

/-- Text on the command line wins over a path. -/
def Input.sources (disk : Disk) (input : Input) : Except ReadError (List Source) :=
  match input.path, input.source with
  | _, some text => .ok [⟨inlineName, text⟩]
  | some path, none => Source.readAny disk path
  | none, none => .ok []

namespace Outcome

def ofReports (reports : List (String × Bool)) : Outcome :=
  ⟨String.join (reports.map (·.1)), if reports.all (·.2) then 0 else 1, none⟩

def ofReadError (error : ReadError) : Outcome := ⟨"", 1, some ("Error: " ++ error.message)⟩

end Outcome

def listSource (format : Format) (source : Source) : String × Bool :=
  let result := (tokenize source.content).mapError Failure.lexical
  (Report.listing source.name result format, result.isOk)

def checkSource (rule : Rule) (format : Format) (source : Source) : String × Bool :=
  let result := rule.validateWhole source.content
  (Report.verdict source.name rule result format, result.isOk)

def runBatch (disk : Disk) (input : Input) (report : Source → String × Bool) : Outcome :=
  match input.sources disk with
  | .error error => .ofReadError error
  | .ok sources => .ofReports (sources.map report)

def Command.run (disk : Disk) : Command → Outcome
  | tokens input format => runBatch disk input (listSource format)
  | check input rule format => runBatch disk input (checkSource rule format)
  | demo => .ofReports (Sample.all.map fun s => (s.report, s.asExpected))

def versionLine : String := "lexcheck 0.1.0\n"

/-- The words of a notice are left out, the version apart. -/
def UsageNotice.outcome (notice : UsageNotice) : Outcome :=
  ⟨if notice = .versionRequested then versionLine else "", notice.exitCode, none⟩

def runProgram (reader : ArgumentReader) (disk : Disk) (arguments : List String) : Outcome :=
  match Invocation.parse reader arguments with
  | .error notice => notice.outcome
  | .ok invocation => invocation.command.run disk

end LoopScript
