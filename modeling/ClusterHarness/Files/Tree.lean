import ClusterHarness.Files.Path
import ClusterHarness.Text.Quoted
import ClusterHarness.Text.Utf8

/-!
File trees. A tree holds the files and directories below its home directory; a file's parent
directories are there too, and so are the directories above the home. To the file system a name is its
bytes. Looking up a path walks it part by part, and each step can fail.
-/

namespace ClusterHarness

inductive FileContent where
  | directory
  | bytes (content : Bytes)
  deriving DecidableEq, Repr

structure FileTree where
  home : Path
  entries : List (List Bytes × FileContent)

inductive FileProblem where
  | missing
  | notADirectory
  | isADirectory
  | nameTooLong
  deriving DecidableEq, Repr

def FileProblem.number : FileProblem → Nat
  | .missing => 2
  | .notADirectory => 20
  | .isADirectory => 21
  | .nameTooLong => 36

def FileProblem.reason : FileProblem → Text
  | .missing => "No such file or directory"
  | .notADirectory => "Not a directory"
  | .isADirectory => "Is a directory"
  | .nameTooLong => "File name too long"

/-- Why a path is none to the file system. -/
inductive PathFault where
  | unwritable (e : Utf8.Unwritable)
  | zeroByte
  deriving DecidableEq, Repr

def PathFault.message : PathFault → Text
  | .unwritable e => e.message
  | .zeroByte => "embedded null byte"

/-- Why a file cannot be opened. -/
inductive OpenError where
  | system (problem : FileProblem) (path : Path)
  | path (fault : PathFault)
  deriving DecidableEq, Repr

/-- The problem without the path. -/
def FileProblem.message (p : FileProblem) : Text :=
  "[Errno " ++ Text.ofNat p.number ++ "] " ++ p.reason

def OpenError.message : OpenError → Text
  | .system problem place => problem.message ++ ": " ++ place.toText.quoted
  | .path fault => fault.message

namespace FileTree

/-- The most bytes of a name. -/
def maxName : Nat := 255

/-- The most bytes of a path. -/
def maxPath : Nat := 4095

/-- What stands at a place below the home directory. -/
def at? (tree : FileTree) (place : List Bytes) : Option FileContent :=
  match tree.entries.find? fun e => e.1 = place with
  | some e => some e.2
  | none =>
    if place = [] ∨ tree.entries.any fun e => place.isPrefixOf e.1 then some .directory else none

/-- The directory that holds a place, none being a directory above the home. -/
def parent (place : Option (List Bytes)) : Option (List Bytes) :=
  match place with
  | none | some [] => none
  | some (part :: parts) => some (part :: parts).dropLast

/-- The name that leads to the directory above. -/
def doubleDot : Bytes := [0x2E, 0x2E]

/-- Walks the parts of a path from a place, at which `current` stands. Above the home directory there
is nothing but directories. -/
def walk (tree : FileTree) (place : Option (List Bytes)) (current : FileContent) :
    List Bytes → Except FileProblem FileContent
  | [] => .ok current
  | part :: parts =>
    match current with
    | .bytes _ => .error .notADirectory
    | .directory =>
      if part = doubleDot then walk tree (parent place) .directory parts
      else if maxName < part.length then .error .nameTooLong
      else
        let below := place.map (· ++ [part])
        match below.bind tree.at? with
        | none => .error .missing
        | some next => walk tree below next parts

/-- A path with its parts as the file system has them. -/
structure Located where
  path : Path
  parts : List Bytes
  size : Nat

/-- A surrogate is found before a zero byte. -/
def locate (p : Path) : Except PathFault Located :=
  match Utf8.writeName p.toText with
  | .error e => .error (.unwritable e)
  | .ok bytes =>
    if bytes.elem 0 then .error .zeroByte
    else .ok ⟨p, (p.parts.filterMap fun part => (Utf8.writeName part).toOption), bytes.length⟩

/-- Walks a path from the root, from the home directory if it leads there, or from where it starts. -/
def walkFrom (tree : FileTree) (l : Located) : Except FileProblem FileContent :=
  if maxPath < l.size then .error .nameTooLong
  else if l.path.startsWith tree.home then
    tree.walk (some []) .directory (l.parts.drop tree.home.parts.length)
  else if l.path.isAbsolute then tree.walk none .directory l.parts
  else tree.walk (some []) .directory l.parts

/-- What stands at a path. -/
def find (tree : FileTree) (p : Path) : Except OpenError FileContent :=
  match locate p with
  | .error fault => .error (.path fault)
  | .ok l => (tree.walkFrom l).mapError fun problem => .system problem p

/-- The bytes of a file. -/
def readBytes (tree : FileTree) (p : Path) : Except OpenError Bytes :=
  match tree.find p with
  | .error e => .error e
  | .ok .directory => .error (.system .isADirectory p)
  | .ok (.bytes content) => .ok content

/-- Whether a path is a file; a name that is too long is an error even here. -/
def isFile (tree : FileTree) (p : Path) : Except OpenError Bool :=
  match tree.find p with
  | .ok (.bytes _) => .ok true
  | .ok .directory => .ok false
  | .error (.system .nameTooLong p) => .error (.system .nameTooLong p)
  | .error _ => .ok false

/-- The path seen from the root of the file system. -/
def absolute (tree : FileTree) (p : Path) : Path := tree.home.join p

end FileTree

end ClusterHarness
