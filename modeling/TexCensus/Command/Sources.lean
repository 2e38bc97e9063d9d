import TexCensus.Files.Path

/-!
# Sources

The input of a run is a file, which is taken whatever its name, or a folder, in which all files
named `….tex` are sources at any depth. Sources are in the order of their locations.
-/

namespace TexCensus.Command

/-- A text to be analysed, as bytes. -/
structure Source where
  /-- The name of its record. -/
  name : Text
  /-- Its contents. -/
  bytes : Bytes
deriving DecidableEq, Repr

/-- What follows the last dot of a file name, if something stands before that dot. -/
def extension? (name : Text) : Option Text :=
  match (splitOn '.' name).reverse with
  | [] | [_] | [_, []] => none
  | last :: _ => some last

/-- Whether a file at a location is a source. -/
def isSource (location : Location) : Bool :=
  location.getLast?.bind extension? = some "tex".toList

/-- The sources in a tree, named by their locations. -/
def sourcesIn (tree : FileTree) : List Source :=
  (tree.files.filter fun (location, _) => isSource location).map fun (location, bytes) =>
    { name := joinWith ['/'] location, bytes }

/-- Why the sources could not be loaded. -/
inductive LoadFault where
  /-- A folder could not be looked into. -/
  | walk (cause : ReadFault)
  /-- A source could not be read. -/
  | read (path : Path) (cause : ReadFault)
deriving DecidableEq, Repr

/-- Why a folder in the tree that an input leads to cannot be looked into. Folders are opened by
their paths, so one can be out of reach because the path of the input is long already. -/
def walkFault? (input : Path) (tree : FileTree) : Option LoadFault :=
  tree.folders.findSome? fun location =>
    (Path.fault? (location.foldl Path.inFolder input)).map .walk

/-- Why the first source that cannot be read cannot, given where the input is. -/
def readFault? (input : Path) (sources : List Source) : Option LoadFault :=
  sources.findSome? fun source =>
    let path := Path.inFolder input source.name
    (Path.fault? path).map (.read path)

/-- The sources that an input leads to. A folder is walked through before any file in it is
read. -/
def sourcesAt (files : Files) (input : Path) : Except LoadFault (List Source) :=
  match files.node input with
  | .error cause => .error (.walk cause)
  | .ok (.file bytes) => .ok [{ name := input, bytes }]
  | .ok tree =>
    match walkFault? input tree <|> readFault? input (sourcesIn tree) with
    | some fault => .error fault
    | none => .ok (sourcesIn tree)

/-- The sources one after another with a line feed between neighbours. -/
def combined (sources : List Source) : Bytes :=
  List.intercalate (Utf8.encode ['\n']) (sources.map Source.bytes)

/-- How many bytes sources have, each by itself. -/
def byteCount (sources : List Source) : Nat :=
  sources.foldr (fun source n => source.bytes.length + n) 0

end TexCensus.Command
