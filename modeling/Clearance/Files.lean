/-! Files as they are seen from a working directory: what stands at a path, or why nothing can be
read there. -/
namespace Clearance

inductive ReadFailure where
  | notFound
  | isDirectory
  | notDirectory
  | nameTooLong
  | notText
  | zeroInPath
  | other (text : String)
  deriving DecidableEq, Repr

def ReadFailure.message : ReadFailure → String
  | .notFound => "No such file or directory (os error 2)"
  | .isDirectory => "Is a directory (os error 21)"
  | .notDirectory => "Not a directory (os error 20)"
  | .nameTooLong => "File name too long (os error 36)"
  | .notText => "stream did not contain valid UTF-8"
  | .zeroInPath => "file name contained an unexpected NUL byte"
  | .other text => text

/-- What a path leads to. Something may stand there that cannot be read. -/
inductive Entry where
  | file (bytes : ByteArray)
  | directory
  | unreadable (reason : ReadFailure)
  | absent (reason : ReadFailure)

abbrev Files := String → Entry

namespace Files

def pathExists (files : Files) (path : String) : Bool :=
  match files path with
  | .absent _ => false
  | _ => true

/-- The text of a file. -/
def readText (files : Files) (path : String) : Except ReadFailure String :=
  match files path with
  | .file bytes =>
    match String.fromUTF8? bytes with
    | some text => .ok text
    | none => .error .notText
  | .directory => .error .isDirectory
  | .unreadable reason => .error reason
  | .absent reason => .error reason

def none : Files := fun _ => .absent .notFound

end Files

/-! ## Trees -/

/-- A directory tree by its nodes. A key is the way from the root; a node without bytes is a
directory, and so is everything on the way to a node or to the working directory. -/
structure FileTree where
  nodes : List (List String × Option ByteArray)
  workingDirectory : List String

namespace FileTree

def empty (workingDirectory : List String) : FileTree := ⟨[], workingDirectory⟩

def entryAt (tree : FileTree) (place : List String) : Entry :=
  match tree.nodes.find? (·.1 == place) with
  | some (_, some bytes) => .file bytes
  | _ =>
    if place.isPrefixOf tree.workingDirectory || tree.nodes.any (place.isPrefixOf ·.1) then
      .directory
    else .absent .notFound

/-- Bytes in the name of a single node, and in a whole path with its end mark. -/
def nameLimit : Nat := 255
def pathLimit : Nat := 4095

/-- Follows the parts of a path. The parent of the root is the root. -/
def walk (tree : FileTree) : List String → List String → Entry
  | place, [] => tree.entryAt place
  | place, part :: rest =>
    match tree.entryAt place with
    | .directory =>
      if part = "" ∨ part = "." then walk tree place rest
      else if part = ".." then walk tree place.dropLast rest
      else if nameLimit < part.utf8ByteSize then .absent .nameTooLong
      else walk tree (place ++ [part]) rest
    | .file _ | .unreadable _ => .absent .notDirectory
    | .absent reason => .absent reason

def parts (path : String) : List String := path.splitOn "/"

def start (tree : FileTree) (path : String) : List String :=
  if path.startsWith "/" then [] else tree.workingDirectory

def files (tree : FileTree) : Files := fun path =>
  if path.isEmpty then .absent .notFound
  else if path.contains '\x00' then .absent .zeroInPath
  else if pathLimit < path.utf8ByteSize then .absent .nameTooLong
  else tree.walk (tree.start path) (parts path)

/-- The place that a path names, whether something stands there or not. -/
def placeOf (tree : FileTree) (path : String) : List String :=
  (parts path).foldl
    (fun place part =>
      if part = "" ∨ part = "." then place
      else if part = ".." then place.dropLast
      else place ++ [part])
    (tree.start path)

/-- Puts a node at a path; the directories on the way come with it. -/
def add (tree : FileTree) (path : String) (bytes : Option ByteArray) : FileTree :=
  { tree with nodes := (tree.placeOf path, bytes) :: tree.nodes }

end FileTree

end Clearance
