import ClusterHarness.Text.Basic

/-!
Paths in normal form: empty components and single dots are left out, a double dot stays. Two leading
slashes are kept apart from one; the empty path is a dot.
-/

namespace ClusterHarness

structure Path where
  /-- The number of leading slashes: none, one or two. -/
  slashes : Fin 3
  parts : List Text
  deriving DecidableEq, Repr

namespace Path

def separator : Text := "/"

def dot : Text := "."

def slashCount (t : Text) : Fin 3 :=
  match (t.takeWhile (· = CodePoint.ofChar '/')).length with
  | 0 => 0
  | 2 => 2
  | _ => 1

def ofText (t : Text) : Path :=
  ⟨slashCount t, (t.splitOn separator).filter fun part => !part.isEmpty && part != dot⟩

def isAbsolute (p : Path) : Bool := p.slashes != 0

def toText (p : Path) : Text :=
  let body := Text.join separator p.parts
  if !p.isAbsolute && p.parts.isEmpty then dot
  else List.replicate p.slashes.val (CodePoint.ofChar '/') ++ body

/-- A path seen from a directory; an absolute path stays as it is. -/
def join (dir p : Path) : Path := if p.isAbsolute then p else ⟨dir.slashes, dir.parts ++ p.parts⟩

def child (dir : Path) (name : Text) : Path := dir.join (ofText name)

/-- Whether a path starts with the root and all parts of another. -/
def startsWith (p dir : Path) : Bool := p.slashes == dir.slashes && dir.parts.isPrefixOf p.parts

end Path

end ClusterHarness
