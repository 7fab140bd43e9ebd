import LoopScript.Disk
import LoopScript.FileTree

/-! A disk with a file tree on it, and a directory of the tree to work in. A path that begins with a
slash starts from the root, any other from the working directory. -/
namespace LoopScript

structure FileSystem where
  root : FileTree
  /-- The names from the root down to the working directory. -/
  workingDirectory : List String

namespace FileSystem

def start (fs : FileSystem) (path : String) : List String :=
  if path.toList.head? = some '/' then [] else fs.workingDirectory

def find (fs : FileSystem) (path : String) : Except ReadFault FileTree :=
  if path.toList.contains '\x00' then .error .nulInPath
  else if path.isEmpty then .error .notFound
  else if FileTree.maxPath < path.utf8ByteSize then .error .nameTooLong
  else FileTree.walk [] fs.root (fs.start path ++ FileTree.components path)

def disk (fs : FileSystem) : Disk where
  kind? path :=
    match fs.find path with
    | .ok (.file _) => some .file
    | .ok (.directory _) => some .directory
    | .error _ => none
  names path :=
    match fs.find path with
    | .ok (.directory entries) => .ok (entries.map (·.1))
    | .ok (.file _) => .error .notADirectory
    | .error fault => .error fault
  contents path :=
    match fs.find path with
    | .ok (.file contents) => .ok contents
    | .ok (.directory _) => .error .isADirectory
    | .error fault => .error fault

end FileSystem

end LoopScript
