import RecordPattern.Text.Split

namespace RecordPattern.Files

-- A path without empty parts and single dots. Its root is empty unless the path is absolute.
structure Path where
  root : String
  parts : List String
  deriving DecidableEq, Repr

namespace Path

-- Two slashes at the start are a root of their own; any other number of them is one slash.
def rootOf (text : List Char) : String :=
  match (text.takeWhile (· = '/')).length with
  | 0 => ""
  | 2 => "//"
  | _ => "/"

def ofText (text : String) : Path where
  root := rootOf text.toList
  parts := ((Text.splitOn '/' text.toList).map String.ofList).filter fun part =>
    part ≠ "" && part ≠ "."

-- A path as it is written; the empty path is a dot.
def text (path : Path) : String :=
  if path.root.isEmpty && path.parts.isEmpty then "."
  else path.root ++ "/".intercalate path.parts

-- The last part of a path.
def name (path : Path) : String :=
  (path.parts.getLast?).getD ""

def parent (path : Path) : Path :=
  { path with parts := path.parts.dropLast }

-- Whether the last part names an entry of a directory.
def isNamed (path : Path) : Bool :=
  path.name ≠ "" && path.name ≠ ".."

-- A text with a null character in it is no path for the system.
def hasNull (path : Path) : Bool :=
  path.text.toList.contains '\x00'

end Path

end RecordPattern.Files
