import LoopScript.CommandLine

/-! A reader of arguments to run the program with. What is proved of command lines holds of every
reader that keeps the same rules. An option takes its value from its own argument, or from the next
one unless that begins with a dash. Such a value is only read when the next option or path comes, or
the end, so a fault in the form of an argument comes before a fault in a value in front of it. -/
namespace LoopScript

inductive Word
  /-- Two dashes. What follows is plain. -/
  | terminator
  | long (name : String) (value : Option String)
  | cluster (letters : List Char)
  | plain (text : String)
  deriving DecidableEq, Repr

/-- A dash alone is plain. -/
def Word.ofArgument (argument : String) : Word :=
  match argument.toList with
  | ['-', '-'] => terminator
  | '-' :: '-' :: rest =>
    long (String.ofList (rest.takeWhile (· ≠ '=')))
      ((rest.dropWhile (· ≠ '=')).tail?.map String.ofList)
  | '-' :: c :: cs => cluster (c :: cs)
  | _ => plain argument

/-- What the arguments up to some point have given. -/
structure Given extends Values where
  verbose : Bool := false
  /-- An option that waits for its value, or a value that has not been read. -/
  pending : Option (Slot × Option String) := none
  deriving DecidableEq, Repr

namespace Given

/-- Reads a value. A second one for the same option is refused before it is read. -/
def store (g : Given) : Slot → String → Except UsageNotice Given
  | .path, text =>
    if text.isEmpty then .error .invalidValue else .ok { g with path := some text }
  | .source, text =>
    if g.source.isSome then .error .conflict else .ok { g with source := some text }
  | .rule, text =>
    if g.rule.isSome then .error .conflict
    else match Rule.ofName? text with
      | some rule => .ok { g with rule := some rule }
      | none => .error .invalidValue
  | .format, text =>
    if g.format.isSome then .error .conflict
    else match Format.ofName? text with
      | some format => .ok { g with format := some format }
      | none => .error .invalidValue

def flush (g : Given) : Except UsageNotice Given :=
  match g.pending with
  | none => .ok g
  | some (_, none) => .error .invalidValue
  | some (slot, some text) => { g with pending := none }.store slot text

def attach (g : Given) (slot : Slot) (text : String) : Except UsageNotice Given := do
  (← g.flush).store slot text

def await (g : Given) (slot : Slot) : Except UsageNotice Given := do
  return { (← g.flush) with pending := some (slot, none) }

def setVerbose (g : Given) : Except UsageNotice Given := do
  let g ← g.flush
  if g.verbose then .error .conflict else .ok { g with verbose := true }

/-- Help and the version are given at once, if what is pending can be read. -/
def interrupt (g : Given) (notice : UsageNotice) : Except UsageNotice Given := do
  let _ ← g.flush
  .error notice

def long (flags : List Flag) (name : String) (value : Option String) (g : Given) :
    Except UsageNotice Given :=
  match flags.find? (·.long? = some name), value with
  | none, _ => .error .unknownArgument
  | some (.value slot), some text => g.attach slot text
  | some (.value slot), none => g.await slot
  | some _, some _ => .error .unexpectedValue
  | some .verbose, none => g.setVerbose
  | some .help, none => g.interrupt .helpRequested
  | some .version, none => g.interrupt .versionRequested

/-- The letters up to the first that takes a value. What follows that one is its value, behind an
equals sign or not. -/
def cluster (flags : List Flag) : List Char → Given → Except UsageNotice Given
  | [], g => .ok g
  | c :: cs, g =>
    match flags.find? (·.short? = some c) with
    | none => .error .unknownArgument
    | some .verbose => do cluster flags cs (← g.setVerbose)
    | some .help => g.interrupt .helpRequested
    | some .version => g.interrupt .versionRequested
    | some (.value slot) =>
      match cs with
      | [] => g.await slot
      | '=' :: text => g.attach slot (String.ofList text)
      | text => g.attach slot (String.ofList text)

def hasPath (g : Given) : Bool := g.path.isSome || g.pending.any (·.1 = .path)

def positional (takesPath : Bool) (g : Given) (text : String) : Except UsageNotice Given :=
  if takesPath && !g.hasPath then do
    return { (← g.flush) with pending := some (.path, some text) }
  else .error .unknownArgument

def plain (takesPath : Bool) (g : Given) (text : String) : Except UsageNotice Given :=
  match g.pending with
  | some (slot, none) => .ok { g with pending := some (slot, some text) }
  | _ => g.positional takesPath text

def read (name : CommandName) : List String → Given → Except UsageNotice Given
  | [], g => g.flush
  | argument :: arguments, g =>
    match Word.ofArgument argument with
    | .terminator => do (← arguments.foldlM (positional name.takesPath) g).flush
    | .long option value => do read name arguments (← g.long name.flags option value)
    | .cluster letters => do read name arguments (← g.cluster name.flags letters)
    | .plain text => do read name arguments (← g.plain name.takesPath text)

end Given

def Group.check (group : Group) (v : Values) : Except UsageNotice Unit :=
  let given := group.members.filter fun slot => (v.text slot).isSome
  if group.required && given.isEmpty then .error .missingInput
  else if !group.multiple && 1 < given.length then .error .conflict
  else .ok ()

namespace ArgumentReader

def ofCommand (front : Given) (name : CommandName) (arguments : List String) :
    Except UsageNotice Matches := do
  let given ← Given.read name arguments {}
  name.groups.forM (·.check given.toValues)
  return { given.toValues with command := name, verbose := front.verbose || given.verbose }

/-- Help on one command, and on nothing below it. -/
def help : List String → UsageNotice
  | [] => .helpRequested
  | [name] =>
    if (CommandName.ofName? name).isSome || name = "help" then .helpRequested else .unknownCommand
  | _ => .unknownCommand

def withoutCommand (front : Given) : UsageNotice :=
  if front.verbose then .missingCommand else .nothingGiven

/-- A command does not stand behind the terminator. -/
def misplaced (argument : String) : UsageNotice :=
  if (CommandName.ofName? argument).isSome || argument = "help" then .unknownArgument
  else .unknownCommand

def readFrom (front : Given) : ArgumentReader
  | [] => .error (withoutCommand front)
  | argument :: arguments =>
    match CommandName.ofName? argument with
    | some name => ofCommand front name arguments
    | none =>
      if argument = "help" then .error (help arguments)
      else match Word.ofArgument argument with
        | .terminator => .error ((arguments.head?.map misplaced).getD (withoutCommand front))
        | .long option value => do readFrom (← front.long Flag.front option value) arguments
        | .cluster letters => do readFrom (← front.cluster Flag.front letters) arguments
        | .plain _ => .error .unknownCommand

def standard : ArgumentReader := readFrom {}

end ArgumentReader

end LoopScript
