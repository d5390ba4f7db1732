import Liveness.Config.Load

/-! # A directory tree held in memory -/

namespace Liveness

/-- The files below a working directory, and directories there that may be empty, by their paths. -/
structure FileTree where
  /-- The absolute path of the working directory. -/
  root : String
  files : List (String × ByteArray) := []
  directories : List String := []

namespace FileTree

/-- Where walking along a path leads. -/
inductive Place where
  | directory (path : List String)
  | file (bytes : ByteArray)
  | missing
  /-- The way leads through a file. -/
  | blocked
  /-- The way leads above the working directory. -/
  | above
  /-- The name of a part is too long. -/
  | overlong

/-- The parts of a path between its slashes, without those that say nothing. -/
def parts (path : String) : List String :=
  (path.splitOn "/").filter fun p => p != "" && p != "."

def file? (t : FileTree) (path : List String) : Option ByteArray :=
  (t.files.find? fun f => parts f.1 == path).map (·.2)

/-- A directory is listed, or lies on the way to something. -/
def isDirectory (t : FileTree) (path : List String) : Bool :=
  t.directories.any (fun d => path.isPrefixOf (parts d)) ||
    t.files.any fun f => path.isPrefixOf (parts f.1) && path.length < (parts f.1).length

/-- The most bytes that a name can have. -/
def longestName : Nat := 255

/-- The most bytes that a path can have. -/
def longestPath : Nat := 4095

/-- One part of a path, taken from the place reached so far. -/
def step (t : FileTree) : Place → String → Place
  | .file _, _ => .blocked
  | .directory path, part =>
    if part = "" || part = "." then .directory path
    else if part = ".." then
      if path.isEmpty then .above else .directory path.dropLast
    else if longestName < part.utf8ByteSize then .overlong
    else
      let path := path ++ [part]
      match t.file? path with
      | some bytes => .file bytes
      | none => if t.isDirectory path then .directory path else .missing
  | .above, part => if longestName < part.utf8ByteSize then .overlong else .above
  | place, _ => place

/-- The path from the working directory, unless it leads elsewhere from the start. -/
def relative? (t : FileTree) (path : List String) : Option (List String) :=
  let root := t.root.splitOn "/"
  if root.isPrefixOf path then some (path.drop root.length)
  else if path.head? == some "" then none
  else some path

/-- Directories that every system has at its top. -/
def systemDirectories : List String :=
  ["bin", "boot", "dev", "etc", "home", "lib", "media", "mnt", "opt", "proc", "root", "run", "sbin",
    "srv", "sys", "tmp", "usr", "var"]

/-- What is outside of the tree at the end of a path from a known directory. Only the top is known. -/
def outside : List String → List String → FileText
  | _, [] => .unreadable
  | place, part :: path =>
    if part = ".." then outside place.dropLast path
    else if longestName < part.utf8ByteSize then .unreadable
    else if place.isEmpty && systemDirectories.contains part then outside [part] path
    else .missing

/-- Reads the text at a path. -/
def read (t : FileTree) (path : String) : FileText :=
  if path.isEmpty then .missing
  else if longestPath < path.utf8ByteSize then .unreadable
  else
    match t.relative? (path.splitOn "/") with
    | none => outside [] (parts path)
    | some ps =>
      match ps.foldl t.step (.directory []) with
      | .file bytes => FileText.ofBytes bytes
      | .missing => .missing
      | .directory _ | .blocked | .overlong => .unreadable
      | .above => if (parts path).getLast? == some ".." then .unreadable else .missing

end FileTree

end Liveness
