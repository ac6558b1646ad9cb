import CompileIndex.Proofs.Accounting

/-!
# Registered folders

The folders of an index are registered when it is made, and never again.  A folder that is given
more than once, in whatever spelling, is registered once, at its first place and in its first
spelling.  All that an index says about folders as such follows from the list that is left: whether
there are any, which one is the primary folder, and which paths are folders at all.  No operation
adds to the list or takes from it, and a folder keeps a configuration, be it an empty one.

* `PathMap.keys_foldl_insert`, `PathMap.keys_ofKeys` — the keys of a map made from a list;
* `PathMap.isSome_find?_iff` — which paths are found, by the keys;
* `folderPaths_ofFolders_after`, `isSome_folder?_after`, `primaryBrowse?_after` — the folders of an
  index at any point of its history, one by one;
* `folders_registered` — all of it.
-/

namespace CompileIndex

namespace PathMap

variable {α : Type}

/-- A path is found exactly when it is a key, under whatever spelling. -/
theorem isSome_find?_iff (m : PathMap α) (p : Path) :
    (m.find? p).isSome = true ↔ ∃ k ∈ m.keys, k.Same p := by
  rw [← mem_keySet, keySet, List.mem_toFinset, List.mem_map]
  rfl

/-- After a value is set, those paths are still not found that were not found before and are not the
path that was set. -/
theorem isNone_find?_insert (m : PathMap α) (k : Path) (v : α) (p : Path) :
    ((m.insert k v).find? p).isNone = (!decide (p.Same k) && (m.find? p).isNone) := by
  rw [find?_insert]
  by_cases hk : k.Same p
  · simp [hk, hk.symm]
  · have hp : ¬ p.Same k := fun h => hk h.symm
    simp [hk, hp]

/-- Paths put in one after the other become keys, behind the old ones, unless they are keys already
or the same as an earlier one of them. -/
theorem keys_foldl_insert (v : α) (paths : List Path) (m : PathMap α) :
    (paths.foldl (fun m k => m.insert k v) m).keys =
      m.keys ++ (paths.filter fun p => (m.find? p).isNone).eraseDupsBy fun p q => p.Same q := by
  induction paths generalizing m with
  | nil => simp
  | cons k rest ih =>
    have hrest : (rest.filter fun p => ((m.insert k v).find? p).isNone) =
        (rest.filter fun p => (m.find? p).isNone).filter fun p => !decide (p.Same k) := by
      rw [List.filter_filter]
      apply List.filter_congr
      intro p _
      exact isNone_find?_insert m k v p
    rw [List.foldl_cons, ih, keys_insert, hrest]
    cases hk : m.find? k with
    | some w =>
      -- The key is there, so no path that is not found can be the same.
      have hall : ((rest.filter fun p => (m.find? p).isNone).filter fun p =>
          !decide (p.Same k)) = rest.filter fun p => (m.find? p).isNone := by
        rw [List.filter_eq_self]
        intro p hp
        have hnone : m.find? p = none := by simpa using (List.mem_filter.1 hp).2
        have hother : ¬ p.Same k := by
          intro hsame
          rw [m.find?_congr hsame, hk] at hnone
          cases hnone
        simpa using hother
      rw [hall, List.filter_cons_of_neg (by simp [hk])]
      simp
    | none =>
      rw [List.filter_cons_of_pos (by simp [hk]), List.eraseDupsBy_cons]
      simp

/-- **The keys of a map made from a list** are the paths of the list, each where it first stands and
as it is spelled there. -/
theorem keys_ofKeys (v : α) (paths : List Path) :
    (ofKeys v paths).keys = paths.eraseDupsBy fun p q => p.Same q := by
  have hall : (paths.filter fun p => ((empty : PathMap α).find? p).isNone) = paths := by simp
  rw [ofKeys, keys_foldl_insert, hall]
  rfl

end PathMap

namespace Index

/-- A new index has the given folders, each once. -/
theorem folderPaths_ofFolders (folders : List Path) :
    (ofFolders folders).folderPaths = folders.eraseDupsBy fun p q => p.Same q :=
  PathMap.keys_ofKeys _ folders

/-- Spellings of one folder, and a refresh that fails. -/
example : ((ofFolders [⟨"/p/"⟩, ⟨"/q"⟩, ⟨"/p/."⟩]).after
    [.refresh ⟨"/db"⟩ (.error .notFound) ⟨"x64", "linux"⟩, .clear]).folderPaths =
      [⟨"/p/"⟩, ⟨"/q"⟩] := by decide

variable (folders : List Path) (history : List Operation)

/-- At any point of its history an index has the folders it was made with. -/
theorem folderPaths_ofFolders_after :
    ((ofFolders folders).after history).folderPaths = folders.eraseDupsBy fun p q => p.Same q :=
  (folderPaths_after (ofFolders folders) history).trans (folderPaths_ofFolders folders)

/-- A path is a folder exactly when it was given, under whatever spelling. -/
theorem isSome_folder?_after (folder : Path) :
    (((ofFolders folders).after history).folder? folder).isSome = true ↔
      ∃ given ∈ folders, given.Same folder := by
  have hkeys : ((ofFolders folders).after history).folders.keys = (ofFolders folders).folders.keys :=
    folderPaths_after (ofFolders folders) history
  have hnew : ((ofFolders folders).folder? folder).isSome = true ↔
      ∃ given ∈ folders, given.Same folder := by
    rw [folder?_ofFolders]
    split <;> simp_all
  rw [← hnew, folder?, folder?, PathMap.isSome_find?_iff, PathMap.isSome_find?_iff, hkeys]

/-- The primary folder is the first one that was given. -/
theorem primaryBrowse?_after :
    ((ofFolders folders).after history).primaryBrowse? =
      folders.head?.bind ((ofFolders folders).after history).folder? := by
  rw [primaryBrowse?, primaryFolder?, folderPaths_ofFolders_after]
  cases folders with
  | nil => rfl
  | cons first rest => rw [List.eraseDupsBy_cons, List.head?_cons, List.head?_cons]

/-- **Folders are registered once and for all.**  At any point of the history of an index its folders
are the given ones, each where it was first given and as it was spelled there.  There are any exactly
when any were given; the primary folder is the first one that was given; and a path has the
configuration of a folder exactly when it is the same path as one that was given. -/
theorem folders_registered :
    let index := (ofFolders folders).after history
    index.folderPaths = (folders.eraseDupsBy fun p q => p.Same q) ∧
      (index.hasFolders = true ↔ folders ≠ []) ∧
      index.primaryBrowse? = folders.head?.bind index.folder? ∧
      (index.primaryBrowse? = none ↔ folders = []) ∧
      ∀ folder, (index.folder? folder).isSome = true ↔
        ∃ given ∈ folders, given.Same folder := by
  intro index
  have hpaths : index.folderPaths = folders.eraseDupsBy fun p q => p.Same q :=
    folderPaths_ofFolders_after folders history
  have hprimary : index.primaryBrowse? = folders.head?.bind index.folder? :=
    primaryBrowse?_after folders history
  refine ⟨hpaths, ?_, hprimary, ?_, isSome_folder?_after folders history⟩
  · rw [hasFolders, hpaths]
    cases folders with
    | nil => simp
    | cons first rest => simp [List.eraseDupsBy_cons]
  · rw [hprimary]
    cases folders with
    | nil => simp
    | cons first rest =>
      -- The first folder keeps a configuration, be it an empty one.
      have hfirst : (index.folder? first).isSome = true :=
        (isSome_folder?_after _ history first).2
          ⟨first, List.mem_cons_self, Path.Same.refl first⟩
      rw [List.head?_cons, Option.bind_some, ← Option.not_isSome_iff_eq_none]
      simp [hfirst]

end Index

end CompileIndex
