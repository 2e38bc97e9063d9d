import TexCensus.Files.Tree

/-!
# Paths

A path is a text with slashes between its parts. It is resolved part by part, from the working
folder or, if it begins with a slash, from the outermost one: an empty part and `.` stay, `..` goes
back up, and a name goes down. Each of them needs to stand in a folder.

Files are a value, so a run of the program is a function from the files before it to the files
after it.
-/

namespace TexCensus

/-- A path as it is written. -/
abbrev Path := Text

/-- Why a file could not be read as text. -/
inductive ReadFault where
  /-- The path has the character that ends names inside the operating system. -/
  | nulInPath
  /-- The path or a name in it is too long. -/
  | nameTooLong
  /-- There is nothing of that name. -/
  | notFound
  /-- The path leads through something that is no folder. -/
  | notAFolder
  /-- The path leads to a folder. -/
  | isAFolder
  /-- The contents are not UTF-8. -/
  | notText
deriving DecidableEq, Repr

/-- The fault in the words of the operating system. -/
def ReadFault.message : ReadFault → Text
  | nulInPath => "file name contained an unexpected NUL byte".toList
  | nameTooLong => "File name too long (os error 36)".toList
  | notFound => "No such file or directory (os error 2)".toList
  | notAFolder => "Not a directory (os error 20)".toList
  | isAFolder => "Is a directory (os error 21)".toList
  | notText => "stream did not contain valid UTF-8".toList

namespace Path

/-- How many bytes a path can have. -/
def maxPathLength : Nat :=
  4095

/-- How many bytes a name can have. -/
def maxNameLength : Nat :=
  255

/-- What is wrong with a path by itself, whatever files there are. -/
def fault? (path : Path) : Option ReadFault :=
  if path.contains '\x00' then some .nulInPath
  else if path = [] then some .notFound
  else if maxPathLength < (Utf8.encode path).length then some .nameTooLong
  else none

/-- Whether a name has more bytes than a name can have. -/
def isTooLong (name : Text) : Bool :=
  maxNameLength < (Utf8.encode name).length

/-- The parts of a path between slashes. -/
def parts (path : Path) : List Text :=
  splitOn '/' path

/-- Whether a path begins at the root of all files. -/
def isAbsolute (path : Path) : Bool :=
  path.head? = some '/'

/-- Whether a part of a path leads nowhere. -/
def stays (part : Text) : Bool :=
  part = [] || part = ['.']

/-- Drops the parts at the end that lead nowhere. -/
def dropStays (parts : List Text) : List Text :=
  (parts.reverse.dropWhile stays).reverse

/-- The path of the folder that a path leads into, given that the path ends with a name. It is
empty if the path is that name alone. -/
def parent (path : Path) : Path :=
  match path.parts.dropLast with
  | [] => []
  | first :: others => joinWith ['/'] (first :: dropStays others)

/-- A relative path seen from a folder. -/
def inFolder (folder path : Path) : Path :=
  if folder = [] || folder.getLast? = some '/' then folder ++ path else folder ++ '/' :: path

end Path

/-! ## Files -/

/-- The files that a program sees. -/
structure Files where
  /-- The outermost folder. -/
  root : FileTree
  /-- Where relative paths begin. -/
  working : Location := []
deriving Inhabited

namespace Files

/-- The way to a node from the outermost folder: the nodes on it by name, the last one first. -/
abbrev Trail := List (Text × FileTree)

/-- The node at the end of a trail. -/
def nodeAt (files : Files) : Trail → FileTree
  | [] => files.root
  | (_, node) :: _ => node

/-- The location at the end of a trail. -/
def locationOf (trail : Trail) : Location :=
  (trail.map Prod.fst).reverse

/-- Follows one part of a path. There is no way up from the outermost folder. -/
def follow (files : Files) (trail : Trail) (part : Text) : Except ReadFault Trail :=
  match files.nodeAt trail with
  | .file _ => .error .notAFolder
  | .folder entries =>
    if Path.stays part then .ok trail
    else if part = ['.', '.'] then .ok trail.tail
    else if Path.isTooLong part then .error .nameTooLong
    else match List.lookup part entries with
      | some node => .ok ((part, node) :: trail)
      | none => .error .notFound

/-- Follows the parts of a path. -/
def followAll (files : Files) (absolute : Bool) (parts : List Text) : Except ReadFault Trail :=
  ((if absolute then [] else files.working) ++ parts).foldlM files.follow []

/-- Follows a path. -/
def walk (files : Files) (path : Path) : Except ReadFault Trail :=
  match Path.fault? path with
  | some fault => .error fault
  | none => files.followAll (Path.isAbsolute path) (Path.parts path)

/-- The node at a path. -/
def node (files : Files) (path : Path) : Except ReadFault FileTree := do
  return files.nodeAt (← files.walk path)

/-- The contents of the file at a path, if there is a file. -/
def bytesAt? (files : Files) (path : Path) : Option Bytes :=
  match files.node path with
  | .ok (.file bytes) => some bytes
  | _ => none

/-- The text of the file at a path. -/
def readText (files : Files) (path : Path) : Except ReadFault Text := do
  match ← files.node path with
  | .folder _ => throw .isAFolder
  | .file bytes =>
    match Utf8.decode bytes with
    | .ok t => return t
    | .error _ => throw .notText

/-- Where a file at a path would be created, if it can be: its folder has to be there, its name has
to be short enough, and no folder may have its name. -/
def creatable? (files : Files) (path : Path) : Option Location := do
  let name ← (Path.parts path).getLast?
  -- A path that ends with a slash or with dots names no file.
  if Path.stays name || name = ['.', '.'] then none
  else if (Path.fault? path).isSome || Path.isTooLong name then none
  else
    let trail ← (files.followAll (Path.isAbsolute path) (Path.parts path).dropLast).toOption
    match files.nodeAt trail with
    | .file _ => none
    | .folder entries =>
      match List.lookup name entries with
      | some (.folder _) => none
      | _ => some (locationOf trail ++ [name])

/-- The files after one was created at a path, if it can be. -/
def create? (files : Files) (path : Path) (bytes : Bytes) : Option Files := do
  let location ← files.creatable? path
  return { files with root := FileTree.put (.file bytes) location files.root }

end Files

end TexCensus
