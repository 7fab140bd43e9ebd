import LoopScript.Disk

/-! Named source texts, read from a file or from all the script files of a directory. -/
namespace LoopScript

structure Source where
  name : String
  content : String
  deriving DecidableEq, Repr

namespace Source

/-- A script file's name has something in front of the extension. -/
def isScriptName (name : String) : Bool :=
  ['.', 'j', 's'].isSuffixOf name.toList && 3 < name.toList.length

def join (directory name : String) : String :=
  if directory.toList.getLast? = some '/' then directory ++ name else directory ++ "/" ++ name

/-- An entry whose path cannot be followed is taken for no file, and passed over. -/
def isScriptIn (disk : Disk) (directory name : String) : Bool :=
  isScriptName name && disk.kind? (join directory name) = some .file

def ofFile (path : String) (contents : ByteArray) : Except ReadError Source :=
  match String.fromUTF8? contents with
  | some content => .ok ⟨path, content⟩
  | none => .error ⟨path, .notUtf8⟩

/-- Names are compared byte by byte. -/
def nameBytes (name : String) : List UInt8 := name.toUTF8.data.toList

def scripts (disk : Disk) (directory : String) (names : List String) : List String :=
  (names.filter (isScriptIn disk directory)).mergeSort fun a b => nameBytes a ≤ nameBytes b

def readOne (disk : Disk) (path : String) : Except ReadError Source := do
  ofFile path (← (disk.contents path).mapError (⟨path, ·⟩))

/-- All script files of a directory by name, or the first of them that cannot be read. -/
def readScripts (disk : Disk) (path : String) : Except ReadError (List Source) := do
  let names ← (disk.names path).mapError (⟨path, ·⟩)
  (scripts disk path names).mapM fun name => readOne disk (join path name)

def readAny (disk : Disk) (path : String) : Except ReadError (List Source) :=
  if disk.kind? path = some .directory then readScripts disk path
  else (readOne disk path).map ([·])

end Source

end LoopScript
