import TexCensus.Text.Utf8

/-!
# File trees

A tree is a file or a folder with files and folders in it, to any depth. A location is the list of
names that leads from the outermost folder to a node. Paths, which may go up again and repeat
slashes, are resolved to locations in `TexCensus.Files.Path`.
-/

namespace TexCensus

/-- A file or a folder. -/
inductive FileTree where
  /-- A file with its contents. -/
  | file (bytes : Bytes)
  /-- A folder with what is in it by name. -/
  | folder (entries : List (Text × FileTree))
deriving Repr

/-- Where something is in a tree: the names on the way from the outermost folder. -/
abbrev Location := List Text

namespace FileTree

/-- A folder with nothing in it. -/
def empty : FileTree :=
  folder []

instance : Inhabited FileTree := ⟨empty⟩

/-- Puts a node under a name, in the place of an older one of that name. -/
def setEntry (name : Text) (node : FileTree) : List (Text × FileTree) → List (Text × FileTree)
  | [] => [(name, node)]
  | entry :: rest =>
    if entry.1 = name then (name, node) :: rest else entry :: setEntry name node rest

/-- Puts a node at a location. Folders that are missing on the way are made, and files that are in
the way give place to them. -/
def put (node : FileTree) : Location → FileTree → FileTree
  | [], _ => node
  | name :: rest, folder entries =>
    folder (setEntry name (put node rest ((List.lookup name entries).getD empty)) entries)
  | name :: rest, file _ => folder [(name, put node rest empty)]

/-- The node at a location. -/
def at? (tree : FileTree) : Location → Option FileTree
  | [] => some tree
  | name :: rest =>
    match tree with
    | file _ => none
    | folder entries => do at? (← List.lookup name entries) rest

/-! ## All files -/

/-- Whether a name comes before another one or is that one: names are in the order of their code
points, and a name comes before those that go on behind it. -/
def nameLE : Text → Text → Bool
  | [], _ => true
  | _ :: _, [] => false
  | c :: a, d :: b => c < d || (c = d && nameLE a b)

/-- All files of a tree with their locations, those in a folder in the order of their names; what
is in a folder comes where its name comes. -/
def files (tree : FileTree) : List (Location × Bytes) :=
  match tree with
  | file bytes => [([], bytes)]
  | folder entries =>
    let below := entries.map fun entry => (entry.1, entry.2.files)
    (below.mergeSort fun a b => nameLE a.1 b.1).flatMap fun (name, inside) =>
      inside.map fun (location, bytes) => (name :: location, bytes)
termination_by tree
decreasing_by
  have := List.sizeOf_lt_of_mem ‹entry ∈ entries›
  cases entry
  simp at this ⊢; omega

/-- The locations of all folders in a tree, the outermost one first. -/
def folders (tree : FileTree) : List Location :=
  match tree with
  | file _ => []
  | folder entries =>
    [] :: entries.flatMap fun entry => entry.2.folders.map (entry.1 :: ·)
termination_by tree
decreasing_by
  have := List.sizeOf_lt_of_mem ‹entry ∈ entries›
  cases entry
  simp at this ⊢; omega

end FileTree

end TexCensus
