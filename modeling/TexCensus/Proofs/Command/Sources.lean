import TexCensus.Command.Sources
import TexCensus.Proofs.Files.Order
import TexCensus.Proofs.Text.Lines

/-!
# Which files are sources

The sources of a run whose input is a folder are the files below it with the extension `tex`, each
once, in the order of their locations (`Command.isListing_texFiles`). A list of files with these
two properties is determined by which files there are (`Command.IsListing.eq_of_sameTexFiles`), so
the sources do not depend on the order in which a folder has its entries. They are loaded if all
folders and sources can be opened by their paths (`Command.sourcesAt_eq_ok_iff`).
`Command.sourcesAt_folder` puts this together.
-/

namespace TexCensus.Command

variable {files : Files} {input : Path} {tree other : FileTree} {entries : List (Text × FileTree)}

/-! ## Extensions -/

/-- A location of a file whose extension is `tex`: its last name goes on with `.tex` behind
something. -/
def IsTex (location : Location) : Prop :=
  ∃ folder stem, stem ≠ [] ∧ location = folder ++ [stem ++ ".tex".toList]

/-- The extension is what follows the last dot, and something stands before that. -/
theorem extension?_eq_some_iff {name ext : Text} :
    extension? name = some ext
      ↔ ∃ before, before ≠ [] ∧ before ≠ [[]] ∧ splitOn '.' name = before ++ [ext] := by
  obtain h | ⟨before, last, h⟩ := List.eq_nil_or_concat' (splitOn '.' name)
  · exact absurd h (splitOn_ne_nil _ _)
  have hlast : (∃ parts, parts ≠ [] ∧ parts ≠ [[]] ∧ before ++ [last] = parts ++ [ext])
      ↔ before ≠ [] ∧ before ≠ [[]] ∧ last = ext := by
    constructor
    · rintro ⟨parts, hne, hnil, heq⟩
      obtain ⟨hbefore, hend⟩ := List.append_inj' heq rfl
      exact ⟨hbefore ▸ hne, hbefore ▸ hnil, List.singleton_inj.1 hend⟩
    · rintro ⟨hne, hnil, rfl⟩
      exact ⟨before, hne, hnil, rfl⟩
  rw [h, hlast, extension?, h, List.reverse_append, ← List.reverse_reverse before]
  generalize before.reverse = parts
  rw [List.reverse_reverse]
  match parts with
  | [] => simp
  | [[]] => simp
  | [c :: part] => simp
  | part :: next :: parts => simp [List.append_eq_singleton_iff]

/-- Something is left of the parts of a name when they are joined again, unless it was empty. -/
theorem joinWith_dot_eq_nil_iff {parts : List Text} :
    joinWith ['.'] parts = [] ↔ parts = [] ∨ parts = [[]] := by
  match parts with
  | [] => simp
  | [part] => simp
  | part :: next :: parts => simp [joinWith_cons_cons]

/-- **The extension of a name is `tex` if it ends with `.tex`,** unless that is all of it. -/
theorem extension?_eq_tex_iff {name : Text} :
    extension? name = some "tex".toList ↔ ∃ stem, stem ≠ [] ∧ name = stem ++ ".tex".toList := by
  rw [extension?_eq_some_iff]
  constructor
  · rintro ⟨before, hne, hnil, hsplit⟩
    refine ⟨joinWith ['.'] before, mt joinWith_dot_eq_nil_iff.1 (not_or.2 ⟨hne, hnil⟩), ?_⟩
    rw [← joinWith_splitOn '.' name, hsplit, joinWith_append _ hne (by simp), joinWith_singleton,
      List.append_assoc]
    rfl
  · rintro ⟨stem, hstem, rfl⟩
    refine ⟨splitOn '.' stem, splitOn_ne_nil _ _, ?_, splitOn_append '.' stem "tex".toList⟩
    intro hnil
    rw [← joinWith_splitOn '.' stem, hnil, joinWith_singleton] at hstem
    exact hstem rfl

theorem isSource_iff {location : Location} : isSource location = true ↔ IsTex location := by
  unfold isSource IsTex
  rw [decide_eq_true_iff, Option.bind_eq_some_iff]
  constructor
  · rintro ⟨name, hlast, hname⟩
    obtain ⟨folder, rfl⟩ := List.getLast?_eq_some_iff.1 hlast
    obtain ⟨stem, hstem, rfl⟩ := extension?_eq_tex_iff.1 hname
    exact ⟨folder, stem, hstem, rfl⟩
  · rintro ⟨folder, stem, hstem, rfl⟩
    exact ⟨_, List.getLast?_concat, extension?_eq_tex_iff.2 ⟨stem, hstem, rfl⟩⟩

/-! ## The files that are sources -/

/-- A list has the files of a tree with the extension `tex`, wherever they stand, in the order of
their locations. -/
structure IsListing (tree : FileTree) (found : List (Location × Bytes)) : Prop where
  /-- What is listed is what stands in the tree. -/
  mem_iff : ∀ location bytes, (location, bytes) ∈ found
    ↔ tree.at? location = some (.file bytes) ∧ IsTex location
  /-- The locations increase, so that none is listed twice. -/
  increasing : found.Pairwise fun a b => Precedes a.1 b.1

/-- The same files have the extension `tex`, with the same contents at the same locations. -/
def SameTexFiles (tree other : FileTree) : Prop :=
  ∀ location bytes, IsTex location →
    (tree.at? location = some (.file bytes) ↔ other.at? location = some (.file bytes))

/-- The files of a tree with the extension `tex`. -/
def texFiles (tree : FileTree) : List (Location × Bytes) :=
  tree.files.filter fun (location, _) => isSource location

/-- The source that a file is, named by its location. -/
def Source.ofFile (file : Location × Bytes) : Source where
  name := joinWith ['/'] file.1
  bytes := file.2

theorem sourcesIn_eq (tree : FileTree) : sourcesIn tree = (texFiles tree).map Source.ofFile := rfl

theorem isListing_texFiles (h : tree.NamesDistinct) : IsListing tree (texFiles tree) where
  mem_iff location bytes := by
    rw [texFiles, List.mem_filter, FileTree.mem_files_iff h, isSource_iff]
  increasing := (FileTree.pairwise_files h).filter _

variable {found others : List (Location × Bytes)}

theorem IsListing.nodup (h : IsListing tree found) : found.Nodup := by
  refine h.increasing.imp ?_
  rintro a _ hlt rfl
  exact Precedes.irrefl _ hlt

/-- **A listing is determined by what there is to list.** -/
theorem IsListing.eq_of_sameTexFiles (h : IsListing tree found) (hother : IsListing other others)
    (hsame : SameTexFiles tree other) : found = others := by
  have hmem : ∀ file, file ∈ found ↔ file ∈ others := by
    rintro ⟨location, bytes⟩
    rw [h.mem_iff, hother.mem_iff]
    exact and_congr_left (hsame location bytes)
  refine ((List.perm_ext_iff_of_nodup h.nodup hother.nodup).2 hmem).eq_of_pairwise ?_ h.increasing
    hother.increasing
  intro a b _ _ hab hba
  exact absurd hba hab.asymm

/-- **The sources depend on nothing but the files with the extension `tex`.** -/
theorem sourcesIn_eq_of_sameTexFiles (h : tree.NamesDistinct) (hother : other.NamesDistinct)
    (hsame : SameTexFiles tree other) : sourcesIn tree = sourcesIn other := by
  rw [sourcesIn_eq, sourcesIn_eq,
    (isListing_texFiles h).eq_of_sameTexFiles (isListing_texFiles hother) hsame]

/-- Of two listed files the one whose location comes first is listed first. -/
theorem IsListing.sublist_of_precedes (h : IsListing tree found) {a b : Location × Bytes}
    (ha : a ∈ found) (hb : b ∈ found) (hab : Precedes a.1 b.1) : [a, b].Sublist found := by
  -- Cut at `a`, the list can have `b` neither before the cut nor at it.
  obtain ⟨before, after, rfl⟩ := List.append_of_mem ha
  have hpairs := List.pairwise_append.1 h.increasing
  rcases List.mem_append.1 hb with hbefore | hrest
  · exact absurd (hpairs.2.2 b hbefore a List.mem_cons_self) hab.asymm
  · rcases List.mem_cons.1 hrest with rfl | hafter
    · exact absurd hab (Precedes.irrefl _)
    · have htail : [a, b].Sublist (a :: after) := (List.singleton_sublist.2 hafter).cons_cons a
      exact htail.trans (List.sublist_append_right _ _)

/-- **What is in a folder comes before the file named like the folder with `.tex` behind it.** -/
theorem precedes_of_below (parent : Location) (name : Text) (below : Location) :
    Precedes (parent ++ name :: below) (parent ++ [name ++ ".tex".toList]) :=
  (precedes_append_iff parent).2 (precedes_cons_of_lt (lt_append_of_ne_nil (by decide)) _ _)

/-! ## Loading -/

/-- All folders and sources of a tree can be opened by their paths, which go on behind that of the
input. -/
structure Openable (input : Path) (tree : FileTree) : Prop where
  /-- The paths of folders have one name after the other. -/
  folder : ∀ location, tree.kindAt? location = some .folder →
    Path.fault? (location.foldl Path.inFolder input) = none
  /-- The path of a source ends with the name of its record. -/
  source : ∀ location bytes, tree.at? location = some (.file bytes) → IsTex location →
    Path.fault? (Path.inFolder input (joinWith ['/'] location)) = none

theorem walkFault?_eq_none_iff (h : tree.NamesDistinct) :
    walkFault? input tree = none ↔ ∀ location, tree.kindAt? location = some .folder →
      Path.fault? (location.foldl Path.inFolder input) = none := by
  simp [walkFault?, FileTree.mem_folders_iff h]

theorem readFault?_eq_none_iff (h : tree.NamesDistinct) :
    readFault? input (sourcesIn tree) = none
      ↔ ∀ location bytes, tree.at? location = some (.file bytes) → IsTex location →
        Path.fault? (Path.inFolder input (joinWith ['/'] location)) = none := by
  rw [readFault?, sourcesIn_eq, List.findSome?_map, List.findSome?_eq_none_iff, Prod.forall]
  simp [(isListing_texFiles h).mem_iff, Source.ofFile]

theorem openable_iff (h : tree.NamesDistinct) :
    Openable input tree
      ↔ walkFault? input tree = none ∧ readFault? input (sourcesIn tree) = none := by
  rw [walkFault?_eq_none_iff h, readFault?_eq_none_iff h]
  exact ⟨fun hopen => ⟨hopen.folder, hopen.source⟩, fun hpaths => ⟨hpaths.1, hpaths.2⟩⟩

/-- A folder gives its sources if no folder and no source in it is out of reach. -/
theorem sourcesAt_of_folder (hnode : files.node input = .ok (.folder entries))
    (hwalk : walkFault? input (.folder entries) = none)
    (hread : readFault? input (sourcesIn (.folder entries)) = none) :
    sourcesAt files input = .ok (sourcesIn (.folder entries)) := by
  unfold sourcesAt
  rw [hnode]
  simp only [hwalk, hread]
  rfl

/-- **A folder gives its sources if all folders and sources in it can be opened,** and nothing
otherwise. -/
theorem sourcesAt_eq_ok_iff (hnode : files.node input = .ok (.folder entries))
    (h : (FileTree.folder entries).NamesDistinct) {sources : List Source} :
    sourcesAt files input = .ok sources
      ↔ Openable input (.folder entries) ∧ sources = sourcesIn (.folder entries) := by
  rw [openable_iff h]
  constructor
  · intro hsources
    unfold sourcesAt at hsources
    rw [hnode] at hsources
    simp only at hsources
    split at hsources
    · cases hsources
    · next hnone =>
      cases hsources
      exact ⟨(Option.orElse_eq_none _ _).1 hnone, rfl⟩
  · rintro ⟨⟨hwalk, hread⟩, rfl⟩
    exact sourcesAt_of_folder hnode hwalk hread

/-- **The sources in a folder are its files with the extension `tex` in the order of their
locations.** Each such file at any depth is a source, none is one twice, and nothing else is a
source; what is in a folder comes before a file named like that folder with `.tex` behind it. The
sources are loaded if all folders and sources can be opened by their paths. Whatever else is in
them and in whatever order their entries are, two folders with the same such files give the same
sources, and so the same combined text and the same records in the same order. -/
theorem sourcesAt_folder (hnode : files.node input = .ok (.folder entries))
    (h : (FileTree.folder entries).NamesDistinct) :
    ∃ found, IsListing (.folder entries) found
      ∧ (∀ sources, sourcesAt files input = .ok sources
          ↔ Openable input (.folder entries) ∧ sources = found.map Source.ofFile)
      ∧ (∀ parent name below inside beside, (parent ++ name :: below, inside) ∈ found →
          (parent ++ [name ++ ".tex".toList], beside) ∈ found →
          [(parent ++ name :: below, inside), (parent ++ [name ++ ".tex".toList], beside)].Sublist
            found)
      ∧ (∀ (elsewhere : Files) (input' : Path) (others : List (Text × FileTree)),
          elsewhere.node input' = .ok (.folder others) → (FileTree.folder others).NamesDistinct →
          SameTexFiles (.folder entries) (.folder others) →
          ∀ sources sources', sourcesAt files input = .ok sources →
            sourcesAt elsewhere input' = .ok sources' → sources' = sources) := by
  have hlisting := isListing_texFiles h
  refine ⟨texFiles (.folder entries), hlisting, fun sources => sourcesAt_eq_ok_iff hnode h, ?_, ?_⟩
  · intro parent name below inside beside hinside hbeside
    exact hlisting.sublist_of_precedes hinside hbeside (precedes_of_below parent name below)
  · intro elsewhere input' others hnode' h' hsame sources sources' hsources hsources'
    obtain ⟨-, rfl⟩ := (sourcesAt_eq_ok_iff hnode h).1 hsources
    obtain ⟨-, rfl⟩ := (sourcesAt_eq_ok_iff hnode' h').1 hsources'
    exact (sourcesIn_eq_of_sameTexFiles h h' hsame).symm

/-- A folder next to files whose names begin like its own, and a folder that is named like a source.
The same entries the other way round give the same sources. -/
theorem sourcesAt_folder_of_similar_names :
    let entries : List (Text × FileTree) := [
      ("a".toList, .folder [("x.tex".toList, .file [0x31])]), ("a-b.tex".toList, .file [0x32]),
      ("a.tex".toList, .file [0x33]),
      ("x.tex".toList, .folder [(".tex".toList, .file [0x34]), ("b.tex".toList, .file [0x35])])]
    let files : Files := { root := .folder [
      ("book".toList, .folder entries), ("copy".toList, .folder entries.reverse)] }
    ∃ sources, sourcesAt files "book".toList = .ok sources
      ∧ sourcesAt files "copy".toList = .ok sources
      ∧ sources.map Source.name = [
          "a/x.tex".toList, "a-b.tex".toList, "a.tex".toList, "x.tex/b.tex".toList] := by
  intro entries files
  have hnode : files.node "book".toList = .ok (.folder entries) := rfl
  have hnode' : files.node "copy".toList = .ok (.folder entries.reverse) := rfl
  have hnodup : (entries.map Prod.fst).Nodup := by decide
  have hbelow : ∀ entry ∈ entries, entry.2.NamesDistinct := by
    simp only [entries, List.forall_mem_cons, List.not_mem_nil, false_implies, implies_true,
      and_true]
    exact ⟨.folder (by decide) (by simp [FileTree.NamesDistinct.file]), .file _, .file _,
      .folder (by decide) (by simp [FileTree.NamesDistinct.file])⟩
  have h : (FileTree.folder entries).NamesDistinct := .folder hnodup hbelow
  have h' : (FileTree.folder entries.reverse).NamesDistinct :=
    .folder (by simpa using hnodup) fun entry hentry => hbelow entry (List.mem_reverse.1 hentry)
  have hsame : SameTexFiles (.folder entries) (.folder entries.reverse) := by
    rintro location bytes ⟨folder, stem, -, rfl⟩
    rw [FileTree.at?_folder_of_perm hnodup (List.reverse_perm entries).symm (by simp)]
  have hin : sourcesIn (.folder entries) = [
      { name := "a/x.tex".toList, bytes := [0x31] }, { name := "a-b.tex".toList, bytes := [0x32] },
      { name := "a.tex".toList, bytes := [0x33] },
      { name := "x.tex/b.tex".toList, bytes := [0x35] }] := by
    unfold sourcesIn entries
    simp only [FileTree.files, List.map_cons, List.map_nil]
    rw [List.mergeSort_of_pairwise (by decide), List.mergeSort_of_pairwise (by decide),
      List.mergeSort_of_pairwise (by decide)]
    decide
  have hwalk : walkFault? "book".toList (.folder entries) = none := by
    unfold walkFault? entries
    simp only [FileTree.folders, List.flatMap_cons, List.flatMap_nil, List.map_nil]
    decide
  have hwalk' : walkFault? "copy".toList (.folder entries.reverse) = none := by
    unfold walkFault? entries
    simp only [List.reverse_cons, List.reverse_nil, List.nil_append, List.cons_append,
      FileTree.folders, List.flatMap_cons, List.flatMap_nil, List.map_nil]
    decide
  have hread' : readFault? "copy".toList (sourcesIn (.folder entries.reverse)) = none := by
    rw [← sourcesIn_eq_of_sameTexFiles h h' hsame, hin]
    decide
  have hsources := sourcesAt_of_folder hnode hwalk (by rw [hin]; decide)
  have hsources' := sourcesAt_of_folder hnode' hwalk' hread'
  obtain ⟨_, -, -, -, hsingle⟩ := sourcesAt_folder hnode h
  refine ⟨_, hsources, ?_, by rw [hin]; rfl⟩
  rw [← hsingle files _ _ hnode' h' hsame _ _ hsources hsources']
  exact hsources'

end TexCensus.Command
