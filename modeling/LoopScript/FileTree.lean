import LoopScript.ReadError

/-! Files and directories, and what a path leads to. -/
namespace LoopScript

inductive FileTree
  | file (contents : ByteArray)
  /-- Entries have distinct names, and come in no particular order. -/
  | directory (entries : List (String × FileTree))

namespace FileTree

/-- Bytes in the longest name of an entry. -/
def maxName : Nat := 255

/-- Bytes in the longest path. -/
def maxPath : Nat := 4095

def components (path : String) : List String := (path.toList.splitOn '/').map String.ofList

/-- Follows components from a directory whose parents are known, the nearest one first. The root is
its own parent. A component that is empty or a dot stays where it is, but only a directory has
components at all, so a path to a file does not end in a slash. -/
def walk : List FileTree → FileTree → List String → Except ReadFault FileTree
  | _, here, [] => .ok here
  | _, .file _, _ :: _ => .error .notADirectory
  | parents, .directory entries, name :: names =>
    if name = "" ∨ name = "." then walk parents (.directory entries) names
    else if name = ".." then
      match parents with
      | [] => walk [] (.directory entries) names
      | parent :: parents => walk parents parent names
    else if maxName < name.utf8ByteSize then .error .nameTooLong
    else
      match entries.lookup name with
      | none => .error .notFound
      | some child => walk (.directory entries :: parents) child names

end FileTree

end LoopScript
