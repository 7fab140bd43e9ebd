import LoopScript.ArgumentReader
import LoopScript.Program

/-! The program as it is run. It looks up the one path that the arguments can name and the scripts
below it, and prints what the run comes to. -/
namespace LoopScript

/-- The number of an error comes with either sign. -/
def errorNumber (code : UInt32) : Nat := min code.toNat (-code).toNat

/-- Other errors of the operating system end the program. -/
def ReadFault.ofError? : IO.Error → Option ReadFault
  | .noFileOrDirectory _ _ _ => some .notFound
  | .inappropriateType _ code _ =>
    if errorNumber code = 20 then some .notADirectory else some .isADirectory
  | .invalidArgument _ code _ => if errorNumber code = 36 then some .nameTooLong else none
  | _ => none

/-- What is said of one path. -/
structure Sight where
  kind? : Option FileKind
  names : Except ReadFault (List String)
  contents : Except ReadFault ByteArray

def Disk.ofSights (sights : List (String × Sight)) : Disk where
  kind? path := (sights.lookup path).bind (·.kind?)
  names path := ((sights.lookup path).map (·.names)).getD (.error .notFound)
  contents path := ((sights.lookup path).map (·.contents)).getD (.error .notFound)

def attempt {α : Type} (action : IO α) : IO (Except ReadFault α) := do
  try
    return .ok (← action)
  catch error =>
    match ReadFault.ofError? error with
    | some fault => return .error fault
    | none => throw error

def kindAt (path : String) : IO (Option FileKind) := do
  try
    match (← (System.mkFilePath [path]).metadata).type with
    | .file => return some .file
    | .dir => return some .directory
    | _ => return some .other
  catch _ => return none

def Sight.take (path : String) : IO Sight := do
  let kind? ← kindAt path
  if kind? = some .directory then
    let names ← attempt do
      return ((← (System.mkFilePath [path]).readDir).map (·.fileName)).toList
    return ⟨kind?, names, .error .isADirectory⟩
  else
    return ⟨kind?, .error .notADirectory, ← attempt (IO.FS.readBinFile path)⟩

/-- A path, and what stands below it if it is a directory. -/
def Disk.lookUp (path : String) : IO Disk := do
  let sight ← Sight.take path
  let mut sights := [(path, sight)]
  for name in sight.names.toOption.getD [] do
    if Source.isScriptName name then
      let script := Source.join path name
      if (← kindAt script) = some .file then
        sights := (script, ← Sight.take script) :: sights
  return .ofSights sights

def Command.path? : Command → Option String
  | tokens input _ => input.path
  | check input _ _ => input.path
  | demo => none

def perform (arguments : List String) : IO UInt32 := do
  let reader := ArgumentReader.standard
  let path := (Invocation.parse reader arguments).toOption.bind (·.command.path?)
  let outcome := runProgram reader (← Disk.lookUp (path.getD "")) arguments
  IO.print outcome.stdout
  if let some message := outcome.fatal then IO.eprintln message
  return outcome.exitCode.toUInt32

end LoopScript

def main (arguments : List String) : IO UInt32 := LoopScript.perform arguments
