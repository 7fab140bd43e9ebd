import LoopScript.Report

/-! The command line: what commands and options there are, and what an invocation makes of the
values that have been given. How values are read off the arguments is left to a reader. -/
namespace LoopScript

structure Input where
  path : Option String
  source : Option String
  deriving DecidableEq, Repr

inductive Command
  | tokens (input : Input) (format : Format)
  | check (input : Input) (rule : Rule) (format : Format)
  | demo
  deriving DecidableEq, Repr

structure Invocation where
  verbose : Bool
  command : Command
  deriving DecidableEq, Repr

/-- What ends the reading of a command line that is not an invocation. -/
inductive UsageNotice
  | helpRequested
  | versionRequested
  | nothingGiven
  | missingCommand
  | unknownCommand
  | unknownArgument
  /-- An option without its value, or a value that it cannot have. -/
  | invalidValue
  | unexpectedValue
  /-- An option twice, or two inputs. -/
  | conflict
  | missingInput
  deriving DecidableEq, Repr

def UsageNotice.exitCode : UsageNotice → Nat
  | helpRequested | versionRequested => 0
  | _ => 2

inductive CommandName
  | tokens
  | check
  | demo
  deriving DecidableEq, Repr

def CommandName.ofName? : String → Option CommandName
  | "tokens" => some .tokens
  | "check" => some .check
  | "demo" => some .demo
  | _ => none

def CommandName.text : CommandName → String
  | tokens => "tokens"
  | check => "check"
  | demo => "demo"

/-- What takes a value. A path is the only one without an option. -/
inductive Slot
  | path
  | source
  | rule
  | format
  deriving DecidableEq, Repr

inductive Flag
  | verbose
  | help
  | version
  | value (slot : Slot)
  deriving DecidableEq, Repr

namespace Flag

def long? : Flag → Option String
  | verbose => some "verbose"
  | help => some "help"
  | version => some "version"
  | value .source => some "source"
  | value .rule => some "rule"
  | value .format => some "format"
  | value .path => none

def short? : Flag → Option Char
  | verbose => some 'v'
  | help => some 'h'
  | version => some 'V'
  | value .source => some 'e'
  | value .rule => some 'r'
  | value .format => none
  | value .path => none

def front : List Flag := [verbose, help, version]

end Flag

def CommandName.flags : CommandName → List Flag
  | tokens => [.verbose, .help, .value .source, .value .format]
  | check => [.verbose, .help, .value .source, .value .rule, .value .format]
  | demo => [.verbose, .help]

def CommandName.takesPath : CommandName → Bool
  | tokens => true
  | check => true
  | demo => false

/-- Values that are declared together. -/
structure Group where
  members : List Slot
  required : Bool
  /-- More than one of them may be given. -/
  multiple : Bool
  deriving DecidableEq, Repr

def Input.group : Group := ⟨[.path, .source], true, false⟩

def CommandName.groups : CommandName → List Group
  | tokens | check => [Input.group]
  | demo => []

structure Values where
  path : Option String := none
  source : Option String := none
  rule : Option Rule := none
  format : Option Format := none
  deriving DecidableEq, Repr

/-- A value as it is written. -/
def Values.text (v : Values) : Slot → Option String
  | .path => v.path
  | .source => v.source
  | .rule => v.rule.map Rule.name
  | .format => v.format.map Format.name

structure Matches extends Values where
  command : CommandName
  verbose : Bool
  deriving DecidableEq, Repr

def Matches.input (m : Matches) : Input := ⟨m.path, m.source⟩

def Matches.invocation (m : Matches) : Invocation where
  verbose := m.verbose
  command :=
    match m.command with
    | .tokens => .tokens m.input (m.format.getD .text)
    | .check => .check m.input (m.rule.getD .whileStatement) (m.format.getD .text)
    | .demo => .demo

/-- Reads the arguments of the program, its own name apart. -/
abbrev ArgumentReader := List String → Except UsageNotice Matches

def Invocation.parse (reader : ArgumentReader) (arguments : List String) :
    Except UsageNotice Invocation :=
  (reader arguments).map Matches.invocation

end LoopScript
