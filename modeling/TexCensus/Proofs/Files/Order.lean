import Mathlib.Data.List.Sort
import TexCensus.Proofs.Files.Tree
import TexCensus.Proofs.Text.Utf8Order

/-!
# The order of all files

Where no two nodes in a folder have the same name (`FileTree.NamesDistinct`), `FileTree.files` has
exactly the files that stand at some location (`FileTree.mem_files_iff`). It only sorts what is in one
folder by its name; that all files are in the order of their locations (`FileTree.pairwise_files`)
goes by induction on the tree, since locations are compared by their first names first.
-/

namespace TexCensus

/-! ## The order of locations -/

/-- Whether a location comes before another one: they are compared name by name, and names byte by
byte. -/
def Precedes (a b : Location) : Prop :=
  a.map Utf8.encode < b.map Utf8.encode

theorem precedes_cons_of_lt {name other : Text} (h : name < other) (a b : Location) :
    Precedes (name :: a) (other :: b) :=
  List.cons_lt_cons_iff.2 (.inl (Utf8.encode_lt_encode h))

theorem precedes_cons_self_iff {name : Text} {a b : Location} :
    Precedes (name :: a) (name :: b) ↔ Precedes a b := by
  unfold Precedes
  rw [List.map_cons, List.map_cons, List.cons_lt_cons_iff]
  simp [List.lt_irrefl]

theorem precedes_append_iff (parent : Location) {a b : Location} :
    Precedes (parent ++ a) (parent ++ b) ↔ Precedes a b := by
  induction parent with
  | nil => rfl
  | cons name parent ih => rw [List.cons_append, List.cons_append, precedes_cons_self_iff, ih]

theorem Precedes.irrefl (a : Location) : ¬Precedes a a :=
  List.lt_irrefl _

theorem Precedes.asymm {a b : Location} (h : Precedes a b) : ¬Precedes b a :=
  List.lt_asymm h

/-- A name comes before those that go on behind it. -/
theorem lt_append_of_ne_nil {stem ending : Text} (h : ending ≠ []) : stem < stem ++ ending := by
  induction stem with
  | nil =>
    obtain ⟨c, rest, rfl⟩ := List.exists_cons_of_ne_nil h
    exact List.nil_lt_cons _ _
  | cons c stem ih => exact List.cons_lt_cons_iff.2 (.inr ⟨rfl, ih⟩)

namespace FileTree

theorem nameLE_iff {a b : Text} : nameLE a b = true ↔ ¬b < a := by
  induction a generalizing b with
  | nil => simp [nameLE, List.not_lt_nil]
  | cons c a ih =>
    cases b with
    | nil => simp [nameLE, List.nil_lt_cons]
    | cons d b =>
      rw [List.cons_lt_cons_iff, nameLE, Bool.or_eq_true, Bool.and_eq_true, ih, decide_eq_true_iff,
        decide_eq_true_iff]
      rcases lt_trichotomy c d with h | rfl | h
      · simp [h, h.asymm, h.ne']
      · simp
      · simp [h, h.asymm, h.ne']

/-! ## Names that are not used twice -/

/-- In no folder do two nodes have the same name. -/
inductive NamesDistinct : FileTree → Prop
  /-- There are no names in a file. -/
  | file (bytes : Bytes) : NamesDistinct (file bytes)
  /-- The names in a folder are different, and so are those in what is in it. -/
  | folder {entries : List (Text × FileTree)} (hnodup : (entries.map Prod.fst).Nodup)
      (hbelow : ∀ entry ∈ entries, NamesDistinct entry.2) : NamesDistinct (folder entries)

variable {tree node : FileTree} {entries : List (Text × FileTree)} {name : Text}

theorem lookup_eq_some_iff_mem (hnodup : (entries.map Prod.fst).Nodup) :
    List.lookup name entries = some node ↔ (name, node) ∈ entries := by
  induction entries with
  | nil => simp
  | cons entry rest ih =>
    obtain ⟨other, inside⟩ := entry
    rw [List.map_cons, List.nodup_cons] at hnodup
    rw [lookup_cons_eq, List.mem_cons]
    by_cases h : name = other
    · subst h
      have hrest : (name, node) ∉ rest := fun hmem => hnodup.1 (List.mem_map.2 ⟨_, hmem, rfl⟩)
      simp [hrest, eq_comm]
    · simp [h, ih hnodup.2]

/-- In what order the nodes in a folder are makes no difference for what stands where. -/
theorem at?_folder_of_perm {others : List (Text × FileTree)}
    (hnodup : (entries.map Prod.fst).Nodup) (h : entries.Perm others) {location : Location}
    (hlocation : location ≠ []) : (folder others).at? location = (folder entries).at? location := by
  obtain ⟨name, rest, rfl⟩ := List.exists_cons_of_ne_nil hlocation
  rw [at?_folder_cons, at?_folder_cons]
  congr 1
  refine Option.ext fun node => ?_
  rw [lookup_eq_some_iff_mem hnodup, lookup_eq_some_iff_mem ((h.map Prod.fst).nodup_iff.1 hnodup),
    h.mem_iff]

/-! ## All files and folders of a tree -/

theorem mem_files_folder_iff {location : Location} {bytes : Bytes} :
    (location, bytes) ∈ (folder entries).files
      ↔ ∃ entry ∈ entries, ∃ rest, location = entry.1 :: rest ∧ (rest, bytes) ∈ entry.2.files := by
  rw [files]
  simp only [List.mem_flatMap, List.mem_mergeSort, List.mem_map]
  constructor
  · rintro ⟨_, ⟨entry, hentry, rfl⟩, ⟨rest, bytes⟩, hmem, ⟨⟩⟩
    exact ⟨entry, hentry, rest, rfl, hmem⟩
  · rintro ⟨entry, hentry, rest, rfl, hmem⟩
    exact ⟨_, ⟨entry, hentry, rfl⟩, (rest, bytes), hmem, rfl⟩

/-- **All files of a tree are the files that stand at some location.** -/
theorem mem_files_iff (h : tree.NamesDistinct) {location : Location} {bytes : Bytes} :
    (location, bytes) ∈ tree.files ↔ tree.at? location = some (.file bytes) := by
  induction h generalizing location with
  | file inside =>
    rw [files]
    cases location with
    | nil => simp [at?, eq_comm]
    | cons name rest => simp [at?_file_cons]
  | @folder entries hnodup _ ih =>
    rw [mem_files_folder_iff]
    cases location with
    | nil => simp [at?]
    | cons name rest =>
      rw [at?_folder_cons, Option.bind_eq_some_iff]
      constructor
      · rintro ⟨entry, hentry, _, ⟨⟩, hmem⟩
        exact ⟨entry.2, (lookup_eq_some_iff_mem hnodup).2 hentry, (ih entry hentry).1 hmem⟩
      · rintro ⟨node, hlookup, hnode⟩
        have hentry := (lookup_eq_some_iff_mem hnodup).1 hlookup
        exact ⟨(name, node), hentry, rest, rfl, (ih _ hentry).2 hnode⟩

theorem mem_folders_folder_iff {location : Location} :
    location ∈ (folder entries).folders
      ↔ location = [] ∨ ∃ entry ∈ entries, ∃ rest ∈ entry.2.folders, location = entry.1 :: rest := by
  rw [folders]
  simp [eq_comm]

/-- All folders of a tree are the folders that stand at some location. -/
theorem mem_folders_iff (h : tree.NamesDistinct) {location : Location} :
    location ∈ tree.folders ↔ tree.kindAt? location = some .folder := by
  induction h generalizing location with
  | file bytes =>
    rw [folders]
    cases location <;> simp [kindAt?, at?, kind]
  | @folder entries hnodup _ ih =>
    rw [mem_folders_folder_iff]
    cases location with
    | nil => simp [kindAt?, at?, kind]
    | cons name rest =>
      rw [kindAt?, at?_folder_cons, Option.map_bind, Option.bind_eq_some_iff]
      constructor
      · rintro (⟨⟨⟩⟩ | ⟨entry, hentry, _, hmem, ⟨⟩⟩)
        exact ⟨entry.2, (lookup_eq_some_iff_mem hnodup).2 hentry, (ih entry hentry).1 hmem⟩
      · rintro ⟨node, hlookup, hnode⟩
        have hentry := (lookup_eq_some_iff_mem hnodup).1 hlookup
        exact .inr ⟨(name, node), hentry, rest, (ih _ hentry).2 hnode, rfl⟩

/-- Nodes with different names are in the strict order of their names once they are sorted. -/
theorem pairwise_mergeSort_nameLE {α : Type} (named : List (Text × α))
    (hnodup : (named.map Prod.fst).Nodup) :
    (named.mergeSort fun a b => nameLE a.1 b.1).Pairwise fun a b => a.1 < b.1 := by
  have hsorted : (named.mergeSort fun a b => nameLE a.1 b.1).Pairwise
      fun a b => nameLE a.1 b.1 = true := by
    refine List.pairwise_mergeSort ?_ ?_ named
    · intro a b c hab hbc
      rw [nameLE_iff, not_lt] at hab hbc ⊢
      exact le_trans hab hbc
    · intro a b
      rw [Bool.or_eq_true, nameLE_iff, nameLE_iff, not_lt, not_lt]
      exact le_total a.1 b.1
  have hdistinct : (named.mergeSort fun a b => nameLE a.1 b.1).Pairwise fun a b => a.1 ≠ b.1 :=
    List.pairwise_map.1 (((List.mergeSort_perm named _).map Prod.fst).nodup_iff.2 hnodup)
  exact hsorted.imp₂ (fun a b hle hne => lt_of_le_of_ne (not_lt.1 (nameLE_iff.1 hle)) hne) hdistinct

/-- **All files of a tree are in the order of their locations,** each once. -/
theorem pairwise_files (h : tree.NamesDistinct) :
    tree.files.Pairwise fun a b => Precedes a.1 b.1 := by
  induction h with
  | file bytes =>
    rw [files]
    exact List.pairwise_singleton _ _
  | @folder entries hnodup _ ih =>
    rw [files, List.pairwise_flatMap]
    constructor
    · -- Files below one entry differ behind its name only.
      rintro ⟨name, inside⟩ hmem
      obtain ⟨entry, hentry, ⟨⟩⟩ := List.mem_map.1 (List.mem_mergeSort.1 hmem)
      exact List.pairwise_map.2 ((ih entry hentry).imp precedes_cons_self_iff.2)
    · -- Of files below two entries the names of the entries say which comes first.
      have hnames : ((entries.map fun entry => (entry.1, entry.2.files)).map Prod.fst).Nodup := by
        rw [List.map_map]
        exact hnodup
      refine (pairwise_mergeSort_nameLE _ hnames).imp ?_
      intro a b hlt x hx y hy
      obtain ⟨below, -, rfl⟩ := List.mem_map.1 hx
      obtain ⟨beside, -, rfl⟩ := List.mem_map.1 hy
      exact precedes_cons_of_lt hlt _ _

end FileTree

end TexCensus
