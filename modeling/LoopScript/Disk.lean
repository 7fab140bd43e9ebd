import LoopScript.ReadError

/-! What the operating system says of paths. All that the program learns of files and directories
comes from these three questions. -/
namespace LoopScript

inductive FileKind
  | file
  | directory
  | other
  deriving DecidableEq, Repr

structure Disk where
  /-- What is at the end of a path, if the path can be followed. -/
  kind? : String → Option FileKind
  /-- The names in a directory, in no particular order. -/
  names : String → Except ReadFault (List String)
  contents : String → Except ReadFault ByteArray

/-- A disk with the same file at every path. -/
def Disk.filled (contents : ByteArray) : Disk :=
  ⟨fun _ => some .file, fun _ => .error .notADirectory, fun _ => .ok contents⟩

end LoopScript
