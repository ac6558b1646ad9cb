import CompileIndex.Configuration.Browse
import CompileIndex.PathMap

/-!
# The index

An index knows the configuration of every file of a database and, for every registered
workspace folder, the configuration of the folder.  Folders are registered once and for all, in
order; the first one is the primary folder.

* `Index.ofFolders` — the index without files;
* `Index.file?`, `Index.items` — what is known about files;
* `Index.folder?`, `Index.primaryBrowse?` — what is known about folders;
* `Index.same` — equality of what two indexes know.
-/

namespace CompileIndex

/-- Files and folders with their configurations. -/
structure Index where
  files : PathMap FileConfiguration
  folders : PathMap BrowseConfiguration

namespace Index

/-- The index of some folders, without files.  Of equal folders the first is registered. -/
def ofFolders (folders : List Path) : Index :=
  ⟨.empty, .ofKeys .empty folders⟩

instance : Inhabited Index := ⟨ofFolders []⟩

/-- The index with all files forgotten and all folders as they were registered. -/
def clear (index : Index) : Index :=
  ⟨.empty, index.folders.mapValues fun _ browse => browse.clear⟩

/-- The configuration of a file. -/
def file? (index : Index) (file : Path) : Option FileConfiguration :=
  index.files.find? file

/-- Whether a file is known. -/
def contains (index : Index) (file : Path) : Bool :=
  (index.file? file).isSome

/-- The configurations of those of some files that are known, each with the file as it was
asked for. -/
def items (index : Index) (files : List Path) : List FileConfigurationItem :=
  files.filterMap fun file => (index.file? file).map fun c => ⟨file, c⟩

/-- How many files are known. -/
def fileCount (index : Index) : Nat :=
  index.files.size

/-- The registered folders in order. -/
def folderPaths (index : Index) : List Path :=
  index.folders.keys

/-- Whether a folder is registered. -/
def hasFolders (index : Index) : Bool :=
  !index.folderPaths.isEmpty

/-- The folder that was registered first. -/
def primaryFolder? (index : Index) : Option Path :=
  index.folderPaths.head?

/-- The configuration of a registered folder. -/
def folder? (index : Index) (folder : Path) : Option BrowseConfiguration :=
  index.folders.find? folder

/-- The configuration of the primary folder. -/
def primaryBrowse? (index : Index) : Option BrowseConfiguration :=
  index.primaryFolder?.bind index.folder?

/-- Whether two indexes know the same about the same files and folders. -/
def same (a b : Index) : Bool :=
  a.files.sameEntries (fun x y => x = y) b.files
    && a.folders.sameEntries BrowseConfiguration.same b.folders

end Index

end CompileIndex
