import FxmlCodegen.Discovery.Volume
import FxmlCodegen.Proofs.EventTrees
import FxmlCodegen.Proofs.LossyText
import Mathlib.Data.List.Forall2

/-!
# Documents are found in the order of their paths

To walk a folder is to walk its entries in the order of their names. So the
files come in the order of their paths, compared name by name
(`pairwise_files`), which is not the order of the paths as bytes: `a/z.fxml`
stands before `a-b.fxml`, though `-` is less than `/`.

Of these files the ones with the extension are read. The extension is what
follows the last dot, and since `fxml` has none, a document is a file whose
name is something and then `.fxml` (`isDocumentName_iff`); that something
names the document, so its include key is the file name again, as it is
shown. Folders may have such names too, which makes no difference to what
is below them.

The tree is one that can be on disk (`WellNamed`). `documents_inPathOrder`
puts the parts together. A name that is not UTF-8 cannot be the key of its
document, and a link behind forty others cannot be followed
(`misnamed_and_unreached`).
-/

namespace FxmlCodegen

/-! ## The files of a tree -/

namespace FileTree

/-- There is a file with this content at the end of the names. -/
inductive HasFile : FileTree → List FileName → ByteArray → Prop
  | here {content : ByteArray} : HasFile (.file content) [] content
  | inside {entries : List (FileName × FileTree)} {name : FileName} {tree : FileTree}
      {path : List FileName} {content : ByteArray} :
      (name, tree) ∈ entries → HasFile tree path content →
      HasFile (.folder entries) (name :: path) content

/-- Bytes that can be the name of a file: one step of a path. -/
def IsName (name : FileName) : Prop := name ≠ [] ∧ slash ∉ name

instance (name : FileName) : Decidable (IsName name) := inferInstanceAs (Decidable (_ ∧ _))

/-- A tree that can be on disk: its entries have names, and no two in one
folder have the same. -/
inductive WellNamed : FileTree → Prop
  | file {content : ByteArray} : WellNamed (.file content)
  | folder {entries : List (FileName × FileTree)} :
      (∀ entry ∈ entries, IsName entry.1) → (entries.map (·.1)).Nodup →
      (∀ entry ∈ entries, WellNamed entry.2) → WellNamed (.folder entries)

/-- The entries of a folder in the order of their names. -/
def byName (entries : List (FileName × FileTree)) : List (FileName × FileTree) :=
  entries.mergeSort fun a b => decide (a.1 ≤ b.1)

theorem byName_perm (entries : List (FileName × FileTree)) : (byName entries).Perm entries :=
  List.mergeSort_perm entries _

theorem pairwise_byName {entries : List (FileName × FileTree)} (hnodup : (entries.map (·.1)).Nodup) :
    (byName entries).Pairwise fun a b => a.1 < b.1 := by
  have hle : (byName entries).Pairwise fun a b => decide (a.1 ≤ b.1) = true := by
    refine List.pairwise_mergeSort (fun a b c hab hbc => ?_) (fun a b => ?_) entries
    · exact decide_eq_true (List.le_trans (of_decide_eq_true hab) (of_decide_eq_true hbc))
    · simpa using List.le_total a.1 b.1
  have hne : (byName entries).Pairwise fun a b => a.1 ≠ b.1 := by
    rw [← ((byName_perm entries).map (·.1)).nodup_iff, List.nodup_iff_pairwise_ne] at hnodup
    exact List.pairwise_map.mp hnodup
  refine (hle.and hne).imp fun {a b} h => ?_
  rw [← List.not_le]
  exact fun hba => h.2 (List.le_antisymm (of_decide_eq_true h.1) hba)

/-- There is only one order in which the names increase. -/
theorem byName_eq {entries sorted : List (FileName × FileTree)} (hperm : sorted.Perm entries)
    (hsorted : sorted.Pairwise fun a b => a.1 < b.1) : byName entries = sorted := by
  have hnodup : (entries.map (·.1)).Nodup := by
    rw [← (hperm.map (·.1)).nodup_iff, List.nodup_iff_pairwise_ne, List.pairwise_map]
    refine hsorted.imp fun {a b} hlt heq => ?_
    rw [heq] at hlt
    exact List.lt_irrefl b.1 hlt
  refine List.Perm.eq_of_pairwise ?_ (pairwise_byName hnodup) hsorted
    ((byName_perm entries).trans hperm.symm)
  intro a b _ _ hab hba
  exact (List.lt_asymm hab hba).elim

theorem entryFiles_eq_map (entries : List (FileName × FileTree)) :
    entryFiles entries = entries.map fun entry => (entry.1, entry.2.files) := by
  induction entries with
  | nil => rw [entryFiles, List.map_nil]
  | cons entry entries ih =>
      obtain ⟨name, tree⟩ := entry
      rw [entryFiles, ih, List.map_cons]

theorem files_folder (entries : List (FileName × FileTree)) :
    (folder entries).files = (byName entries).flatMap fun entry =>
      entry.2.files.map fun file => (entry.1 :: file.1, file.2) := by
  have hsort : (entries.map fun entry => (entry.1, entry.2.files)).mergeSort
        (fun a b => decide (a.1 ≤ b.1))
      = (byName entries).map fun entry => (entry.1, entry.2.files) := by
    refine (List.map_mergeSort fun _ _ _ _ => ?_).symm
    rfl
  rw [files, entryFiles_eq_map, hsort, List.flatMap_map]

theorem files_file (content : ByteArray) : (file content).files = [([], content)] := by
  rw [files]

theorem mem_files_folder {entries : List (FileName × FileTree)} {path : List FileName}
    {content : ByteArray} :
    (path, content) ∈ (folder entries).files ↔ ∃ name tree rest, (name, tree) ∈ entries
      ∧ (rest, content) ∈ tree.files ∧ path = name :: rest := by
  simp only [files_folder, List.mem_flatMap, (byName_perm entries).mem_iff, List.mem_map]
  constructor
  · rintro ⟨⟨name, tree⟩, hentry, ⟨rest, _⟩, hfile, ⟨⟩⟩
    exact ⟨name, tree, rest, hentry, hfile, rfl⟩
  · rintro ⟨name, tree, rest, hentry, hfile, rfl⟩
    exact ⟨(name, tree), hentry, (rest, content), hfile, rfl⟩

theorem mem_files {path : List FileName} {content : ByteArray} {tree : FileTree} :
    (path, content) ∈ tree.files ↔ tree.HasFile path content := by
  -- The path gets shorter on the way down, so it carries the induction.
  induction path generalizing tree with
  | nil =>
      cases tree with
      | file content' =>
          rw [files_file, List.mem_singleton]
          constructor
          · rintro ⟨⟩
            exact .here
          · rintro ⟨⟩
            rfl
      | folder entries =>
          rw [mem_files_folder]
          constructor
          · rintro ⟨_, _, _, -, -, hpath⟩
            cases hpath
          · rintro ⟨⟩
  | cons name path ih =>
      cases tree with
      | file content' =>
          rw [files_file, List.mem_singleton]
          constructor
          · rintro ⟨⟩
          · rintro ⟨⟩
      | folder entries =>
          rw [mem_files_folder]
          constructor
          · rintro ⟨_, tree, _, hentry, hfile, ⟨⟩⟩
            exact .inside hentry (ih.mp hfile)
          · rintro (_ | ⟨hentry, hfile⟩)
            exact ⟨name, _, path, hentry, ih.mpr hfile, rfl⟩

theorem pairwise_files {tree : FileTree} (h : tree.WellNamed) :
    tree.files.Pairwise fun a b => a.1 < b.1 := by
  induction h with
  | file =>
      rw [files_file]
      exact List.pairwise_singleton _ _
  | folder _ hnodup _ ih =>
      -- Below one entry the paths share their first name, below two they differ in it.
      rw [files_folder, List.pairwise_flatMap]
      constructor
      · intro entry hentry
        rw [List.pairwise_map]
        exact (ih entry ((byName_perm _).mem_iff.mp hentry)).imp .cons
      · refine (pairwise_byName hnodup).imp fun {a b} hlt x hx y hy => ?_
        obtain ⟨_, -, rfl⟩ := List.mem_map.mp hx
        obtain ⟨_, -, rfl⟩ := List.mem_map.mp hy
        exact .rel hlt

theorem HasFile.isName {tree : FileTree} {path : List FileName} {content : ByteArray}
    (hfile : tree.HasFile path content) (h : tree.WellNamed) : ∀ name ∈ path, IsName name := by
  induction hfile with
  | here =>
      intro name hname
      cases hname
  | inside hentry _ ih =>
      obtain _ | ⟨hnames, -, hbelow⟩ := h
      rw [List.forall_mem_cons]
      exact ⟨hnames _ hentry, ih (hbelow _ hentry)⟩

/-! ## File names -/

theorem cutExtension_eq_fxml {name stem : FileName} :
    cutExtension name = some (stem, Text.bytes "fxml")
      ↔ stem ≠ [] ∧ name = stem ++ Text.bytes ".fxml" := by
  have hcut : Text.cutLastList dot name = some (stem, Text.bytes "fxml")
      ↔ name = stem ++ Text.bytes ".fxml" := by
    rw [Text.cutLastList_eq_some]
    exact and_iff_left (by decide)
  rw [← hcut]
  unfold cutExtension
  constructor
  · intro h
    split at h
    · cases h
    · rename_i hne hsome
      split at h
      · cases h
      · cases h
        exact ⟨hne, hsome⟩
    · cases h
  · rintro ⟨hne, hsome⟩
    have hdots : name ≠ [dot, dot] := by
      rintro rfl
      have hlength := congrArg List.length (hcut.mp hsome)
      rw [List.length_append, show (Text.bytes ".fxml").length = 5 by decide] at hlength
      simp at hlength
    rw [hsome]
    split
    · rename_i heq
      cases heq
      exact (hne rfl).elim
    · rename_i heq
      cases heq
      exact if_neg hdots
    · rename_i heq
      cases heq

theorem isDocumentName_iff {name : FileName} :
    isDocumentName name = true ↔ ∃ stem, stem ≠ [] ∧ name = stem ++ Text.bytes ".fxml" := by
  simp only [← cutExtension_eq_fxml]
  rw [isDocumentName, beq_iff_eq, Option.map_eq_some_iff]
  constructor
  · rintro ⟨⟨stem, _⟩, hcut, rfl⟩
    exact ⟨stem, hcut⟩
  · rintro ⟨stem, hcut⟩
    exact ⟨_, hcut, rfl⟩

theorem stem_append {name : FileName} (h : name ≠ []) : stem (name ++ Text.bytes ".fxml") = name := by
  rw [stem, cutExtension_eq_fxml.mpr ⟨h, rfl⟩]
  rfl

end FileTree

/-! ## Paths -/

namespace Discovery

open FileTree (IsName HasFile WellNamed slash)

/-- The names along a path. -/
def components (path : List UInt8) : List FileName := (Text.splitList slash path).filter (· ≠ [])

/-- The path comes before the other, name by name, each name by its
bytes. -/
def Precedes (path path' : List UInt8) : Prop := components path < components path'

instance (path path' : List UInt8) : Decidable (Precedes path path') :=
  inferInstanceAs (Decidable (_ < _))

theorem components_append (path path' : List UInt8) :
    components (path ++ slash :: path') = components path ++ components path' := by
  rw [components, Text.splitList_append, List.filter_append]
  rfl

theorem components_of_isName {name : FileName} (h : IsName name) : components name = [name] := by
  rw [components, Text.splitList_of_not_mem h.2, List.filter_singleton, decide_eq_true h.1, cond_true]

theorem components_joinPath {name : FileName} (h : IsName name) (path : List UInt8) :
    components (joinPath path name) = components path ++ [name] := by
  rw [joinPath, ← components_of_isName h]
  split
  · rename_i hlast
    obtain ⟨bs, rfl⟩ := List.getLast?_eq_some_iff.mp hlast
    have hempty : components [] = [] := rfl
    rw [← List.append_cons, components_append, components_append, hempty, List.append_nil]
  · exact components_append path name

theorem components_fullPath {path : List FileName} (h : ∀ name ∈ path, IsName name)
    (top : List UInt8) : components (fullPath top path) = components top ++ path := by
  induction path generalizing top with
  | nil => exact (List.append_nil _).symm
  | cons name path ih =>
      rw [List.forall_mem_cons] at h
      show components (fullPath (joinPath top name) path) = _
      rw [ih h.2, components_joinPath h.1, List.append_assoc, List.singleton_append]

theorem precedes_fullPath {path path' : List FileName} (h : ∀ name ∈ path, IsName name)
    (h' : ∀ name ∈ path', IsName name) (hlt : path < path') (top : List UInt8) :
    Precedes (fullPath top path) (fullPath top path') := by
  rw [Precedes, components_fullPath h, components_fullPath h']
  exact List.append_left_lt hlt

-- As bytes the two stand the other way round.
example : Precedes (Text.bytes "views/a/z.fxml") (Text.bytes "views/a-b.fxml")
    ∧ Text.bytes "views/a-b.fxml" < Text.bytes "views/a/z.fxml" := by
  decide

/-! ## Finding -/

/-- The name of the file at a path. -/
def fileName? (path : List UInt8) : Option FileName := (components path).getLast?

/-- The name of the file ends in `.fxml` and does not begin there. -/
def IsDocumentPath (path : List UInt8) : Prop :=
  ∃ stem, stem ≠ [] ∧ fileName? path = some (stem ++ Text.bytes ".fxml")

/-- Below `top`, which is this tree, there is a file with the content at the
path. -/
def FileAt (top : List UInt8) (tree : FileTree) (path : List UInt8) (content : ByteArray) : Prop :=
  ∃ names, tree.HasFile names content ∧ path = fullPath top names

variable {top : List UInt8} {entries : List (FileName × FileTree)} {names : List FileName}
  {content : ByteArray}

theorem mem_documentFiles {tree : FileTree} : (names, content) ∈ tree.documentFiles top
    ↔ tree.HasFile names content ∧ FileTree.isDocumentName (FileTree.fileName top names) = true := by
  rw [FileTree.documentFiles, List.mem_filter, FileTree.mem_files]

theorem fileName?_fullPath (h : (FileTree.folder entries).WellNamed)
    (hfile : (FileTree.folder entries).HasFile names content) :
    fileName? (fullPath top names) = some (FileTree.fileName top names) := by
  rw [fileName?, components_fullPath (hfile.isName h)]
  -- In a folder there is at least one name on the way to a file.
  cases hfile with
  | inside _ _ =>
      rw [List.getLast?_append_of_ne_nil _ (List.cons_ne_nil _ _), FileTree.fileName,
        List.getLastD_eq_getLast?, List.getLast?_cons]
      rfl

theorem mem_documentPaths (h : (FileTree.folder entries).WellNamed) {path : List UInt8} :
    path ∈ documentPaths top (some (.folder entries))
      ↔ IsDocumentPath path ∧ ∃ content, FileAt top (.folder entries) path content := by
  simp only [documentPaths, List.mem_map, Prod.exists, mem_documentFiles, FileTree.isDocumentName_iff]
  constructor
  · rintro ⟨names, content, ⟨hfile, stem, hstem, hname⟩, rfl⟩
    refine ⟨⟨stem, hstem, ?_⟩, content, names, hfile, rfl⟩
    rw [fileName?_fullPath h hfile, hname]
  · rintro ⟨⟨stem, hstem, hname⟩, content, names, hfile, rfl⟩
    rw [fileName?_fullPath h hfile, Option.some_inj] at hname
    exact ⟨names, content, ⟨hfile, stem, hstem, hname⟩, rfl⟩

theorem pairwise_documentPaths (h : (FileTree.folder entries).WellNamed) :
    (documentPaths top (some (.folder entries))).Pairwise Precedes := by
  rw [documentPaths, List.pairwise_map]
  have hfiles := (FileTree.pairwise_files h).sublist
    (List.filter_sublist (p := fun file => FileTree.isDocumentName (FileTree.fileName top file.1)))
  refine hfiles.imp_of_mem fun {file file'} hfile hfile' hlt => ?_
  exact precedes_fullPath ((mem_documentFiles.mp hfile).1.isName h)
    ((mem_documentFiles.mp hfile').1.isName h) hlt top

/-! ## Reading -/

/-- The file at the path is the markup of the document in UTF-8, and others
include the document by the name of the file as it is shown. That is the
name itself if it is UTF-8, and only then. -/
def Reads (top : List UInt8) (tree : FileTree) (path : List UInt8) (d : Document) : Prop :=
  ∃ (source : String) (name : FileName), FileAt top tree path source.toUTF8
    ∧ Document.ofMarkup d.name source = .ok d
    ∧ fileName? path = some name ∧ Text.ShownAs name d.includeKey.toList
    ∧ (Text.bytes d.includeKey = name ↔ ∃ s, Text.bytes s = name)

/-- The file at the path is not UTF-8, or not the markup of a document. -/
inductive Fails (top : List UInt8) (tree : FileTree) (path : List UInt8) : Failure → Prop
  | notUtf8 {content : ByteArray} {shown : String} : FileAt top tree path content →
      (∀ source : String, source.toUTF8 ≠ content) → Text.ShownAs path shown.toList →
      Fails top tree path (.unreadableFile shown .notUtf8)
  | markup {source name : String} {file : FileName} {fault : Markup.Fault} :
      FileAt top tree path source.toUTF8 → fileName? path = some file →
      Text.ShownAs file (name ++ ".fxml").toList → Document.ofMarkup name source = .error fault →
      Fails top tree path (.unreadableMarkup name fault)

/-- What comes of reading the files at the paths: a document for each, or
the failure of the first that fails. -/
inductive ReadInOrder (top : List UInt8) (tree : FileTree) :
    List (List UInt8) → Except Failure (List Document) → Prop
  | all {paths : List (List UInt8)} {ds : List Document} :
      List.Forall₂ (Reads top tree) paths ds → ReadInOrder top tree paths (.ok ds)
  | stops {before after : List (List UInt8)} {path : List UInt8} {failure : Failure} :
      (∀ earlier ∈ before, ∃ d, Reads top tree earlier d) → Fails top tree path failure →
      ReadInOrder top tree (before ++ path :: after) (.error failure)

theorem fromUTF8?_eq_some {content : ByteArray} {source : String} :
    String.fromUTF8? content = some source ↔ source.toUTF8 = content := by
  constructor
  · intro h
    obtain ⟨hvalid, hsource⟩ := Option.dite_none_right_eq_some.mp h
    cases hsource
    rfl
  · rintro rfl
    exact dif_pos source.isValidUTF8

namespace ReadInOrder

variable {tree : FileTree} {path : List UInt8} {paths : List (List UInt8)}

theorem fails {failure : Failure} (hfails : Fails top tree path failure) :
    ReadInOrder top tree (path :: paths) (.error failure) := by
  have hnone : ∀ earlier ∈ ([] : List (List UInt8)), ∃ d, Reads top tree earlier d := by
    intro earlier hmem
    cases hmem
  exact stops hnone hfails

theorem reads {d : Document} {result : Except Failure (List Document)}
    (hreads : Reads top tree path d) (hrest : ReadInOrder top tree paths result) :
    ReadInOrder top tree (path :: paths) (result.map (d :: ·)) := by
  cases hrest with
  | all hall => exact all (.cons hreads hall)
  | stops hbefore hfails =>
      exact stops (List.forall_mem_cons.mpr ⟨⟨d, hreads⟩, hbefore⟩) hfails

end ReadInOrder

theorem name_of_ofMarkup {name source : String} {d : Document}
    (hok : Document.ofMarkup name source = .ok d) : d.name = name := by
  obtain ⟨-, b, -, -, rfl⟩ := Document.ofTrace_eq_ok.mp hok
  rfl

theorem readFile_cases (h : (FileTree.folder entries).WellNamed)
    (hmem : (names, content) ∈ (FileTree.folder entries).documentFiles top) :
    (∃ d, readFile top (names, content) = .ok d
      ∧ Reads top (.folder entries) (fullPath top names) d)
    ∨ ∃ failure, readFile top (names, content) = .error failure
      ∧ Fails top (.folder entries) (fullPath top names) failure := by
  obtain ⟨hfile, hdocument⟩ := mem_documentFiles.mp hmem
  obtain ⟨stem, hstem, hname⟩ := FileTree.isDocumentName_iff.mp hdocument
  have hpath : fileName? (fullPath top names) = some (stem ++ Text.bytes ".fxml") := by
    rw [fileName?_fullPath h hfile, hname]
  have hkey : Text.lossy (stem ++ Text.bytes ".fxml") = Text.lossy stem ++ ".fxml" :=
    Text.lossy_append (by decide : _ = FileTree.dot :: Text.bytes "fxml") (by decide) stem
  have hshown : Text.ShownAs (stem ++ Text.bytes ".fxml") (Text.lossy stem ++ ".fxml").toList :=
    hkey ▸ Text.shownAs_lossy _
  rw [readFile, hname, FileTree.stem_append hstem]
  cases hutf8 : String.fromUTF8? content with
  | none =>
      refine .inr ⟨_, rfl, .notUtf8 ⟨names, hfile, rfl⟩ (fun source hsource => ?_)
        (Text.shownAs_lossy _)⟩
      rw [fromUTF8?_eq_some.mpr hsource] at hutf8
      cases hutf8
  | some source =>
      obtain rfl := fromUTF8?_eq_some.mp hutf8
      simp only [Document.read]
      cases hmarkup : Document.ofMarkup (Text.lossy stem) source with
      | error fault => exact .inr ⟨_, rfl, .markup ⟨names, hfile, rfl⟩ hpath hshown hmarkup⟩
      | ok d =>
          have hd : d.includeKey = Text.lossy (stem ++ Text.bytes ".fxml") := by
            rw [hkey, Document.includeKey, name_of_ofMarkup hmarkup]
          have hmarkup' : Document.ofMarkup d.name source = .ok d := by
            rw [name_of_ofMarkup hmarkup, hmarkup]
          refine .inl ⟨d, rfl, source, _, ⟨names, hfile, rfl⟩, hmarkup', hpath, ?_, ?_⟩
          · rw [hd, hkey]
            exact hshown
          · rw [hd, Text.bytes_lossy_iff]

theorem readInOrder_readFiles (h : (FileTree.folder entries).WellNamed)
    {files : List (List FileName × ByteArray)}
    (hfiles : ∀ file ∈ files, file ∈ (FileTree.folder entries).documentFiles top) :
    ReadInOrder top (.folder entries) (files.map fun file => fullPath top file.1)
      (readFiles top files) := by
  induction files with
  | nil => exact .all .nil
  | cons file files ih =>
      rw [List.forall_mem_cons] at hfiles
      rw [readFiles, List.map_cons]
      rcases readFile_cases h hfiles.1 with ⟨d, hread, hreads⟩ | ⟨failure, hread, hfails⟩
      · have hrest : (do let ds ← readFiles top files; return d :: ds)
            = (readFiles top files).map (d :: ·) := by
          cases readFiles top files <;> rfl
        rw [hread]
        exact hrest ▸ .reads hreads (ih hfiles.2)
      · rw [hread]
        exact .fails hfails

/-- The files found below a directory are those whose names end in the
extension, all of them, at any depth, each once and in the order of their
paths, name by name and byte by byte. They are read in this order, to one
document each that is included by the name of its file as it is shown, or
else up to the first that is not UTF-8 or not the markup of a document, with
the failure of that one. -/
theorem documents_inPathOrder (top : List UInt8) {entries : List (FileName × FileTree)}
    (h : (FileTree.folder entries).WellNamed) :
    let tree := FileTree.folder entries
    let paths := documentPaths top (some tree)
    (∀ path, path ∈ paths ↔ IsDocumentPath path ∧ ∃ content, FileAt top tree path content)
      ∧ paths.Nodup ∧ paths.Pairwise Precedes
      ∧ ReadInOrder top tree paths (documents top (some tree)) := by
  have hsorted : (documentPaths top (some (.folder entries))).Pairwise Precedes :=
    pairwise_documentPaths h
  refine ⟨fun path => mem_documentPaths h, hsorted.imp ?_, hsorted,
    readInOrder_readFiles h fun _ => id⟩
  rintro path _ hlt rfl
  exact List.lt_irrefl _ hlt

/-- A name that is not UTF-8. -/
def misnamed : FileName := 0xFF :: Text.bytes ".fxml"

/-- A folder with the extension in its name, a file whose whole name is the
extension, a file that is not UTF-8, one whose name is not, and a folder in
front of them. -/
def nestedViews : List (FileName × FileTree) := [
  (misnamed, .file "<VBox/>".toUTF8),
  (Text.bytes "note.txt", .file "fxml".toUTF8),
  (Text.bytes "a.fxml", .folder [(Text.bytes "Deep.fxml", .file "<HBox/>".toUTF8)]),
  (Text.bytes "a-b.fxml", .file ⟨#[0xFF]⟩),
  (Text.bytes "a", .folder [(Text.bytes "z.fxml", .file "<VBox/>".toUTF8)]),
  (Text.bytes ".fxml", .file "<VBox/>".toUTF8)]

theorem byName_singleton (entry : FileName × FileTree) : FileTree.byName [entry] = [entry] :=
  FileTree.byName_eq (.refl _) (List.pairwise_singleton _ _)

theorem wellNamed_singleton {name : FileName} (hname : IsName name) (content : ByteArray) :
    (FileTree.folder [(name, .file content)]).WellNamed :=
  .folder (by simpa using hname) (List.pairwise_singleton _ _) (by simpa using .file)

theorem files_nestedViews : (FileTree.folder nestedViews).files
    = [([Text.bytes ".fxml"], "<VBox/>".toUTF8),
      ([Text.bytes "a", Text.bytes "z.fxml"], "<VBox/>".toUTF8),
      ([Text.bytes "a-b.fxml"], ⟨#[0xFF]⟩),
      ([Text.bytes "a.fxml", Text.bytes "Deep.fxml"], "<HBox/>".toUTF8),
      ([Text.bytes "note.txt"], "fxml".toUTF8), ([misnamed], "<VBox/>".toUTF8)] := by
  have hsorted : FileTree.byName nestedViews = nestedViews.reverse :=
    FileTree.byName_eq (List.reverse_perm _) (by decide)
  rw [FileTree.files_folder, hsorted]
  simp [nestedViews, FileTree.files_folder, FileTree.files_file, byName_singleton]

theorem documents_inPathOrder_nestedViews :
    let tree := FileTree.folder nestedViews
    let views := Text.bytes "views"
    let paths := [Text.bytes "views/a/z.fxml", Text.bytes "views/a-b.fxml",
      Text.bytes "views/a.fxml/Deep.fxml", Text.bytes "views/" ++ misnamed]
    tree.WellNamed ∧ documentPaths views (some tree) = paths
      ∧ failure? (documents views (some tree))
        = some (.unreadableFile "views/a-b.fxml" .notUtf8)
      ∧ (∀ path, path ∈ paths ↔ IsDocumentPath path ∧ ∃ content, FileAt views tree path content)
      ∧ paths.Nodup ∧ paths.Pairwise Precedes
      ∧ ReadInOrder views tree paths (documents views (some tree)) := by
  have hnamed : (FileTree.folder nestedViews).WellNamed := by
    refine .folder (by decide) (by decide) ?_
    simp only [nestedViews, List.forall_mem_cons]
    exact ⟨.file, .file, wellNamed_singleton (by decide) _, .file,
      wellNamed_singleton (by decide) _, .file, by simp⟩
  have hpaths : documentPaths (Text.bytes "views") (some (.folder nestedViews))
      = [Text.bytes "views/a/z.fxml", Text.bytes "views/a-b.fxml",
        Text.bytes "views/a.fxml/Deep.fxml", Text.bytes "views/" ++ misnamed] := by
    rw [documentPaths, FileTree.documentFiles, files_nestedViews]
    decide
  refine ⟨hnamed, hpaths, ?_, ?_⟩
  · rw [documents, FileTree.documentFiles, files_nestedViews]
    decide +kernel
  · have hfound := documents_inPathOrder (Text.bytes "views") hnamed
    simp only [hpaths] at hfound
    exact hfound

/-! ## Names that cannot be keys, links that cannot be followed -/

/-- A file whose name is not UTF-8. -/
def misnamedView : FileTree := .folder [(misnamed, .file "<VBox/>".toUTF8)]

/-- The names of links in a row: `l00.fxml`, `l01.fxml` and so on. -/
def linkName (i : Nat) : FileName :=
  Text.bytes "l" ++ [UInt8.ofNat (0x30 + i / 10), UInt8.ofNat (0x30 + i % 10)] ++ Text.bytes ".fxml"

/-- Links to one another in a row, the last one to a file. -/
def linkChain : Entry :=
  .folder <| (List.range 41).map (fun i =>
      (linkName i, .link (if i < 40 then linkName (i + 1) else Text.bytes "t")))
    ++ [(Text.bytes "t", .file "<T/>".toUTF8)]

/-- What is seen of them: the first one takes one link more than a path
may. -/
def linkedViews : List (FileName × FileTree) :=
  (List.range' 1 40).map (fun i => (linkName i, .file "<T/>".toUTF8))
    ++ [(Text.bytes "t", .file "<T/>".toUTF8)]

/-- The document in a file whose name is not UTF-8 is found, but it is not
included by the name of the file. And of a row of links that all lead to one
file, the one that takes more links than a path may is not found. -/
theorem misnamed_and_unreached :
    (misnamedView.WellNamed
      ∧ documentPaths (Text.bytes "views") (some misnamedView) = [Text.bytes "views/" ++ misnamed]
      ∧ (documents (Text.bytes "views") (some misnamedView)).toOption.map (·.map Document.includeKey)
        = some ["\uFFFD.fxml"]
      ∧ Text.bytes "\uFFFD.fxml" ≠ misnamed)
    ∧ (∀ i < 41, (linkChain.follow 41 [] [linkName i]).map (·.loc) = some [Text.bytes "t"])
    ∧ documentPaths (Text.bytes "views") (linkChain.unfold [])
      = (List.range' 1 40).map fun i => Text.bytes "views/" ++ linkName i := by
  have hmisnamed : misnamedView.files = [([misnamed], "<VBox/>".toUTF8)] := by
    rw [misnamedView, FileTree.files_folder, byName_singleton]
    simp [FileTree.files_file]
  have hunfold : linkChain.unfold [] = some (.folder linkedViews) := rfl
  have hsorted : FileTree.byName linkedViews = linkedViews :=
    FileTree.byName_eq (.refl _) (by decide +kernel)
  refine ⟨⟨wellNamed_singleton (by decide) _, ?_, ?_, by decide⟩, by decide +kernel, ?_⟩
  · rw [documentPaths, FileTree.documentFiles, hmisnamed]
    decide
  · show (readFiles _ (misnamedView.documentFiles _)).toOption.map _ = _
    rw [FileTree.documentFiles, hmisnamed]
    decide +kernel
  · rw [hunfold, documentPaths, FileTree.documentFiles, FileTree.files_folder, hsorted]
    decide +kernel

end Discovery

end FxmlCodegen
