import QuotedLiteral.Notice.Header
import QuotedLiteral.Text.Encoding

/-!
# Source trees

A tree is the list of its files and directories, each under its path from the
root.  Only source files outside the skipped directories are checked.
-/

namespace QuotedLiteral

/-- The names of the directories from the root, and the name in the last of them. -/
structure TreePath where
  directories : List Text
  name : Text
deriving DecidableEq

namespace TreePath

def separator : CodePoint :=
  CodePoint.ofChar '/'

def toText (p : TreePath) : Text :=
  Text.join [separator] (p.directories ++ [p.name])

/-- Empty names and single dots name nothing. -/
def ofText? (t : Text) : Option TreePath :=
  let names := (t.splitOn separator).filter fun name => name ≠ [] && name ≠ Text.ofString "."
  names.getLast?.map fun name => ⟨names.dropLast, name⟩

/-- From the last dot of the name on, unless that dot is the first or the last character. -/
def suffix (p : TreePath) : Text :=
  let isNoDot (c : CodePoint) : Bool := c ≠ '.'
  let extension := p.name.reverse.takeWhile isNoDot
  match p.name.reverse.dropWhile isNoDot with
  | [] => []
  | [_] => []
  | dot :: _ :: _ => if extension = [] then [] else dot :: extension.reverse

def isSkippedDirectory (name : Text) : Bool :=
  name = Text.ofString "build" || name = Text.ofString "dist"
    || name = Text.ofString "__pycache__" || name = Text.ofString "venv"
    || (Text.ofString ".egg-info").isSuffixOf name
    || (Text.ofString ".").isPrefixOf name && name ≠ Text.ofString ".github"

def isSkipped (p : TreePath) : Bool :=
  p.directories.any isSkippedDirectory

end TreePath

inductive TreeNode where
  | file (bytes : List UInt8)
  | directory
deriving DecidableEq

structure TreeEntry where
  path : TreePath
  node : TreeNode
deriving DecidableEq

namespace TreeEntry

def content? (e : TreeEntry) : Option Text :=
  match e.node with
  | .file bytes => some (Utf8.decode bytes).normalizeNewlines
  | .directory => none

/-- A source file is told by its suffix; a file without one, by its first line. -/
def isSource (e : TreeEntry) : Bool :=
  match e.content? with
  | none => false
  | some content =>
      e.path.suffix = Text.ofString ".py" || e.path.suffix = Text.ofString ".sh"
        || e.path.suffix = [] && Notice.isShellScript content

def isChecked (e : TreeEntry) : Bool :=
  !e.path.isSkipped && e.isSource

def lacksNotice (e : TreeEntry) : Bool :=
  match e.content? with
  | none => false
  | some content => !Notice.isPresent content

end TreeEntry

/-- A later entry takes the place of an earlier one under the same path. -/
def Tree.ofEntries : List TreeEntry → List TreeEntry
  | [] => []
  | e :: rest =>
      let later := ofEntries rest
      if later.any fun other => other.path = e.path then later else e :: later

end QuotedLiteral
