import CompileIndex.CommandLine.Program
import CompileIndex.Proofs.Anchoring
import CompileIndex.Proofs.CommandLines
import CompileIndex.Proofs.JsonIndented
import CompileIndex.Proofs.Wire

/-!
# Queries and services

A question can be put in two ways: to the program, which builds an index, prints the answer and
ends, and to a service, which answers on one line of JSON.  Nothing is shared between the two but
the index they come to: one is rebuilt in place and prints records as they are declared, the other
is rebuilt afresh and answers with objects that are sorted.

On one machine and for the same settings both give the same value.  There is one difference: the
program makes the paths of a question absolute before it asks, which may change their spelling, and
a service takes them as they come.  A configuration is found all the same, and its file is the only
thing that is spelled in another way.

* `Surroundings.gives`, `Surroundings.loaded` — what an action gives on a machine, and the database
  that settings lead to on it;
* `Surroundings.gives_query`, `Surroundings.session_of_loaded` — both ways come to one index;
* `Query.absolute?_eq` — a question with its paths made absolute, unless one of them is empty;
* `Query.request`, `query?_request` — a question as a request;
* `Index.items_anchored` — the items of paths that were made absolute;
* `Program.query_agrees` — what is printed and what is answered.
-/

namespace CompileIndex

open CommandLine

/-- A question is answered, whatever reading the database would do. -/
theorem Session.handle_question {m : Type → Type} [Monad m]
    (readDatabase : m (Except FileError String)) (s : Session) {line : String} {request : Request}
    {result : Json} (hrequest : (Request.parse line).2 = .ok request)
    (hresult : query? s.index request = some result) :
    handle readDatabase s line =
      pure ⟨s, .success (Request.parse line).1 result, [requestEvent request]⟩ := by
  unfold handle
  simp only [hrequest, hresult]

/-! ### Questions with absolute paths -/

/-- Paths are made absolute one by one, unless one of them is empty. -/
theorem Path.mapM_absolute? (here : Path) (paths : List Path) :
    (paths.mapM fun p => absolute? here p) =
      if ∃ p ∈ paths, p.text = "" then none else some (paths.map (anchored here)) := by
  induction paths with
  | nil => simp
  | cons p paths ih =>
    rw [List.mapM_cons, ih, absolute?]
    by_cases hp : p.text = ""
    · simp [hp]
    · by_cases hrest : ∃ q ∈ paths, q.text = "" <;> simp [hp, hrest]

namespace CommandLine.Query

/-- A question as the program asks it, when none of its paths is empty. -/
def anchored (here : Path) : Query → Query
  | files paths => .files (paths.map fun p => Path.anchored here p)
  | browse folder => .browse (folder.map fun f => Path.anchored here f)

/-- **A question is made absolute** unless one of its paths is empty. -/
theorem absolute?_eq (here : Path) (q : Query) :
    q.absolute? here =
      if ∃ p ∈ q.paths, p.text = "" then none else some (q.anchored here) := by
  cases q with
  | files paths =>
    rw [absolute?, Path.mapM_absolute?, Query.paths]
    split_ifs <;> rfl
  | browse folder =>
    cases folder with
    | none => simp [absolute?, Query.paths, anchored]
    | some f =>
      by_cases hf : f.text = "" <;> simp [absolute?, Query.paths, anchored, Path.absolute?, hf]

/-- A path that starts at the root is not empty. -/
theorem not_exists_empty {q : Query} (h : ∀ p ∈ q.paths, p.isRooted = true) :
    ¬ ∃ p ∈ q.paths, p.text = "" := by
  intro hexists
  obtain ⟨p, hp, hempty⟩ := hexists
  have hrooted := h p hp
  rw [Path.isRooted, hempty] at hrooted
  cases hrooted

end CommandLine.Query

/-! ### Actions on a machine -/

namespace Surroundings

section

variable {α β : Type} (w : Surroundings)

/-- What an action gives on a machine. -/
def gives (action : StateM Surroundings α) : α :=
  (action.run w).run.1

/-- What an action makes of a machine. -/
def after (action : StateM Surroundings α) : Surroundings :=
  (action.run w).run.2

theorem gives_bind (first : StateM Surroundings α) (next : α → StateM Surroundings β) :
    w.gives (first >>= next) = (w.after first).gives (next (w.gives first)) :=
  rfl

/-- The current directory of a machine. -/
def here : Path :=
  pathOf w.directory

/-- The text of a file, or why it cannot be read. -/
def textAt (p : Path) : Except FileError String :=
  textOf (w.disk.read w.directory p)

@[simp] theorem gives_currentDirectory : w.gives Access.currentDirectory = w.here :=
  rfl

@[simp] theorem after_currentDirectory :
    w.after (Access.currentDirectory : StateM Surroundings Path) = w :=
  rfl

@[simp] theorem gives_readText (p : Path) : w.gives (Access.readText p) = w.textAt p :=
  rfl

@[simp] theorem after_readText (p : Path) :
    w.after (Access.readText p : StateM Surroundings (Except FileError String)) = w :=
  rfl

/-- The database that settings lead to on a machine, or why there is none. -/
def loaded (s : Settings) : Except Database.Error Database :=
  Database.load (s.databasePath w.here) (w.textAt (s.databasePath w.here))

/-- What a database that settings lead to is rebuilt into. -/
def rebuilt (s : Settings) (db : Database) : Rebuilt :=
  (Index.ofFolders (s.workspaceFolders w.here)).rebuild db s.target

end

variable {w : Surroundings} {s : Settings} {db : Database}

/-! ### Both ways come to one index -/

theorem gives_buildIndex (w : Surroundings) (s : Settings) :
    w.gives (Program.buildIndex s) = (s.databasePath w.here, (w.loaded s).map (w.rebuilt s)) :=
  rfl

theorem after_buildIndex (w : Surroundings) (s : Settings) :
    w.after (Program.buildIndex s) = w :=
  rfl

/-- **What a query leaves behind** when a database is loaded: the answer of the rebuilt index, or a
failure when a path of the question is empty. -/
theorem gives_query (hload : w.loaded s = .ok db) (filter : Log.Filter) (q : Query) :
    let index := (w.rebuilt s db).index
    let events := Program.notices filter (w.rebuilt s db).events
    let asked := q.anchored w.here
    w.gives (Program.query s filter q) =
      if ∃ p ∈ q.paths, p.text = "" then .failed events .emptyPath
      else .success ((asked.answer index).pretty ++ "\n")
        (events ++ (asked.complaints index).map .complaint) := by
  intro index events asked
  unfold Program.query
  rw [gives_bind, gives_buildIndex, after_buildIndex, hload]
  simp only [Except.map]
  rw [gives_bind, gives_currentDirectory, after_currentDirectory, Query.absolute?_eq]
  split_ifs <;> rfl

/-- Whether a service watches its database makes no difference to its session. -/
theorem session_of_start {watch : Bool} {events : List Log.Event} {service : Service}
    (hstart : w.gives (Service.start s watch) = (events, .ok service)) :
    let database := s.databasePath w.here
    service.session = (Service.openSession (s.workspaceFolders w.here) database s.target
      (w.textAt database)).1 := by
  intro database
  unfold Service.start at hstart
  rw [gives_bind, gives_currentDirectory, after_currentDirectory] at hstart
  simp only at hstart
  rw [gives_bind, gives_readText, after_readText] at hstart
  generalize Service.openSession _ _ _ _ = opened at hstart ⊢
  obtain ⟨session, opening⟩ := opened
  cases watch with
  | false =>
    cases hstart
    rfl
  | true =>
    simp only [if_true] at hstart
    rw [gives_bind] at hstart
    generalize w.gives (Service.openDirectory _) = found at hstart
    obtain ⟨more, directory⟩ := found
    cases directory with
    | error e => cases hstart
    | ok directory =>
      cases hstart
      rfl

/-- **What a service starts with** when a database is loaded: the rebuilt index. -/
theorem session_of_loaded (hload : w.loaded s = .ok db) {watch : Bool} {events : List Log.Event}
    {service : Service} (hstart : w.gives (Service.start s watch) = (events, .ok service)) :
    service.session = ⟨(w.rebuilt s db).index, s.databasePath w.here, s.target⟩ := by
  have hrefresh : (Index.ofFolders (s.workspaceFolders w.here)).refresh (s.databasePath w.here)
      (w.textAt (s.databasePath w.here)) s.target = .ok (w.rebuilt s db) := by
    show (w.loaded s).map _ = _
    rw [hload]
    exact congrArg Except.ok (Index.rebuiltAfresh_eq_rebuild _ db s.target)
  rw [session_of_start hstart, Service.openSession, hrefresh]

/-- A service that is not asked to watch its database starts on every machine. -/
theorem exists_start (w : Surroundings) (s : Settings) :
    ∃ events service, w.gives (Service.start s false) = (events, .ok service) :=
  ⟨_, _, rfl⟩

/-- **What a service answers** to a question: what is known to its index. -/
theorem gives_handle (w : Surroundings) {service : Service} {line : String} {request : Request}
    {result : Json} (hrequest : (Request.parse line).2 = .ok request)
    (hresult : Session.query? service.session.index request = some result) :
    w.gives (service.handle line) =
      (service, .success (Request.parse line).1 result, [Session.requestEvent request]) := by
  unfold Service.handle
  rw [Session.handle_question _ _ hrequest hresult]
  rfl

end Surroundings

/-! ### Questions as requests -/

namespace CommandLine.Query

/-- The request that puts a question to a service. -/
def request : Query → Request
  | files paths => .provideConfigurations paths
  | browse (some folder) => .provideFolderBrowseConfiguration folder
  | browse none => .provideBrowseConfiguration

/-- **Both ways to put a question** get one answer from an index. -/
theorem query?_request (index : Index) (q : Query) :
    Session.query? index q.request = some (q.answer index) := by
  cases q with
  | files paths => rfl
  | browse folder => cases folder <;> rfl

/-- An answer comes back sorted from what is printed. -/
theorem parse_answer (index : Index) (q : Query) :
    Json.parse ((q.answer index).pretty ++ "\n") = .ok (q.answer index).sorted :=
  Json.parse_pretty (Session.plain_query 123 (query?_request index q))

end CommandLine.Query

/-! ### Files that were made absolute -/

namespace FileConfigurationItem

/-- The item with its file made absolute. -/
def anchored (here : Path) (i : FileConfigurationItem) : FileConfigurationItem :=
  { i with file := Path.anchored here i.file }

/-- The value of a list of items, with all its objects sorted. -/
def listJson (items : List FileConfigurationItem) : Json :=
  (Json.array (items.map toJson)).sorted

/-- The file of an item is found in its value. -/
theorem file_of_sorted {i j : FileConfigurationItem} (h : i.toJson.sorted = j.toJson.sorted) :
    i.file = j.file := by
  have huri (k : FileConfigurationItem) :
      k.toJson.sorted.member? "uri" = some (.string k.file.text) := by
    have hsorted : k.toJson.sorted = .object (Json.sortMembers
        [("uri", .string k.file.text), ("configuration", k.configuration.toJson.sorted)]) := by
      rfl
    rw [hsorted, Json.member?_sortMembers (by simp)]
    rfl
  have hsame : some (Json.string i.file.text) = some (Json.string j.file.text) := by
    rw [← huri i, ← huri j, h]
  exact congrArg Path.mk (Json.string.inj (Option.some.inj hsame))

/-- Items have the value that they had just when their files are left as they are. -/
theorem listJson_anchored (here : Path) (items : List FileConfigurationItem) :
    listJson (items.map (anchored here)) = listJson items ↔
      ∀ i ∈ items, Path.anchored here i.file = i.file := by
  unfold listJson
  rw [Json.sorted, Json.sorted, Json.array.injEq, Json.sortedItems_eq_map,
    Json.sortedItems_eq_map, List.map_map, List.map_map, List.map_map, List.map_inj_left]
  constructor
  · intro h i hi
    exact file_of_sorted (h i hi)
  · intro h i hi
    have hsame : i.anchored here = i := by rw [anchored, h i hi]
    simp only [Function.comp_apply, hsame]

end FileConfigurationItem

namespace Index

/-- The items of some files are those of the known ones among them. -/
theorem mem_items {index : Index} {files : List Path} {i : FileConfigurationItem} :
    i ∈ index.items files ↔ i.file ∈ files ∧ index.file? i.file = some i.configuration := by
  unfold items
  rw [List.mem_filterMap]
  constructor
  · intro h
    obtain ⟨file, hfile, hitem⟩ := h
    obtain ⟨c, hc, heq⟩ := Option.map_eq_some_iff.1 hitem
    rw [← heq]
    exact ⟨hfile, hc⟩
  · intro h
    exact ⟨i.file, h.1, by rw [h.2]; rfl⟩

/-- **Making absolute paths absolute changes no configuration**: the items are the same but for
the spelling of their files. -/
theorem items_anchored (index : Index) (here : Path) {files : List Path}
    (h : ∀ p ∈ files, p.isRooted = true) :
    index.items (files.map (Path.anchored here)) =
      (index.items files).map (FileConfigurationItem.anchored here) := by
  induction files with
  | nil => rfl
  | cons p files ih =>
    rw [List.forall_mem_cons] at h
    have hfile : index.file? (Path.anchored here p) = index.file? p :=
      PathMap.find?_congr index.files (Path.same_anchored here h.1)
    have hrest := ih h.2
    unfold items at hrest ⊢
    rw [List.map_cons, List.filterMap_cons, List.filterMap_cons, hfile, hrest]
    cases index.file? p <;> rfl

/-- Made absolute, the items of some files have the value that they had just when the known ones
among the files are spelled tidily. -/
theorem listJson_items_anchored (index : Index) (here : Path) {files : List Path}
    (h : ∀ p ∈ files, p.isRooted = true) :
    FileConfigurationItem.listJson ((index.items files).map (.anchored here)) =
        FileConfigurationItem.listJson (index.items files) ↔
      ∀ p ∈ files, index.contains p = true → p.IsTidy := by
  rw [FileConfigurationItem.listJson_anchored]
  constructor
  · intro hleft p hp hknown
    obtain ⟨c, hc⟩ := Option.isSome_iff_exists.1 hknown
    have hi : (⟨p, c⟩ : FileConfigurationItem) ∈ index.items files := mem_items.2 ⟨hp, hc⟩
    exact (Path.anchored_eq_self_iff here (h p hp)).1 (hleft _ hi)
  · intro htidy i hi
    obtain ⟨hfile, hc⟩ := mem_items.1 hi
    have hknown : index.contains i.file = true := by
      rw [contains, hc]
      rfl
    exact (Path.anchored_eq_self_iff here (h i.file hfile)).2 (htidy i.file hfile hknown)

end Index

/-- **Nor does it change what is known about a folder.** -/
theorem CommandLine.Query.folderAnswer_anchored (index : Index) (here : Path)
    {folder : Option Path} (h : ∀ f, folder = some f → f.isRooted = true) :
    folderAnswer index (folder.map fun f => Path.anchored here f) = folderAnswer index folder := by
  cases folder with
  | none => rfl
  | some f => exact PathMap.find?_congr index.folders (Path.same_anchored here (h f rfl))

/-! ### What is printed and what is answered -/

namespace CommandLine.Program

/-- What a query prints, read as JSON. -/
def printed (w : Surroundings) (s : Settings) (filter : Log.Filter) (q : Query) :
    Except Json.Fault Json :=
  Json.parse (w.gives (query s filter q)).output

/-- The result that a service answers a line with. -/
def answered (w : Surroundings) (service : Service) (line : String) : Option Json :=
  (w.gives (service.handle line)).2.1.result

variable {w : Surroundings} {s : Settings} {db : Database}

/-- A query prints what is known about its paths made absolute. -/
theorem printed_eq (hload : w.loaded s = .ok db) (filter : Log.Filter) {q : Query}
    (hq : ¬ ∃ p ∈ q.paths, p.text = "") :
    printed w s filter q = .ok ((q.anchored w.here).answer (w.rebuilt s db).index).sorted := by
  rw [printed, (Surroundings.gives_query hload filter q).trans (if_neg hq)]
  exact Query.parse_answer _ _

/-- Once a database is loaded, only an empty path makes a query fail. -/
theorem failure_eq_none_iff (hload : w.loaded s = .ok db) (filter : Log.Filter) (q : Query) :
    (w.gives (query s filter q)).failure = none ↔ ∀ p ∈ q.paths, p.text ≠ "" := by
  rw [Surroundings.gives_query hload]
  split_ifs with hempty
  · refine iff_of_false (by simp [Outcome.failed]) ?_
    intro hpaths
    obtain ⟨p, hp, htext⟩ := hempty
    exact hpaths p hp htext
  · refine iff_of_true rfl ?_
    intro p hp htext
    exact hempty ⟨p, hp, htext⟩

/-- A service answers what is known about the paths as they are. -/
theorem answered_eq (w : Surroundings) (service : Service) {line : String} {q : Query}
    (hrequest : (Request.parse line).2 = .ok q.request) :
    answered w service line = some (q.answer service.session.index).sorted := by
  unfold answered
  rw [Surroundings.gives_handle w hrequest (Query.query?_request service.session.index q)]
  rfl

/-- **Files.**  A query prints the items that a service answers with, each with its file made
absolute. -/
theorem files_agree (hload : w.loaded s = .ok db) (filter : Log.Filter) {service : Service}
    (hindex : service.session.index = (w.rebuilt s db).index) {ps : List Path} {line : String}
    (hps : ∀ p ∈ ps, p.isRooted = true)
    (hrequest : (Request.parse line).2 = .ok (.provideConfigurations ps)) :
    let items := service.session.index.items ps
    answered w service line = some (FileConfigurationItem.listJson items) ∧
      printed w s filter (.files ps) =
        .ok (FileConfigurationItem.listJson (items.map (.anchored w.here))) := by
  intro items
  have hasked := answered_eq w service (q := .files ps) hrequest
  have hprinted := printed_eq hload filter (q := .files ps) (Query.not_exists_empty hps)
  refine ⟨hasked, ?_⟩
  rw [hprinted, ← Index.items_anchored _ w.here hps, hindex]
  rfl

/-- **Folders.**  A query prints what a service answers with. -/
theorem browse_agrees (hload : w.loaded s = .ok db) (filter : Log.Filter) {service : Service}
    (hindex : service.session.index = (w.rebuilt s db).index) {folder : Option Path}
    {line : String} (hfolder : ∀ f, folder = some f → f.isRooted = true)
    (hrequest : (Request.parse line).2 = .ok (Query.browse folder).request) :
    let value := Session.browseJson (Query.folderAnswer service.session.index folder)
    answered w service line = some value.sorted ∧
      printed w s filter (.browse folder) = .ok value.sorted := by
  intro value
  have hasked := answered_eq w service hrequest
  have hpaths : ∀ p ∈ (Query.browse folder).paths, p.isRooted = true := fun p hp =>
    hfolder p (Option.mem_toList.1 hp)
  have hprinted := printed_eq hload filter (Query.not_exists_empty hpaths)
  have hvalue : ((Query.browse folder).anchored w.here).answer (w.rebuilt s db).index = value := by
    show Session.browseJson (Query.folderAnswer (w.rebuilt s db).index _) = value
    rw [← hindex, Query.folderAnswer_anchored service.session.index w.here hfolder]
  rw [hvalue] at hprinted
  exact ⟨hasked, hprinted⟩

/-- **Queries and services agree.**  When the database that some settings lead to can be loaded, a
service starts that does not watch it, and every service that starts, watching or not, gives the
results that queries print; a query fails just when it is about an empty path.  About a folder, or
about the primary one, both give the same value, which is null just when there is no configuration.
About files that are absolute paths both give the same items, except that the program has made the
path of each item absolute: that leaves its components as they are, and all in all makes no
difference just when the known files among those asked for are spelled tidily. -/
theorem query_agrees (hload : w.loaded s = .ok db) (filter : Log.Filter) :
    (∃ events service, w.gives (Service.start s false) = (events, .ok service)) ∧
    ∀ watch events service, w.gives (Service.start s watch) = (events, .ok service) →
      let index := service.session.index
      (∀ q, (w.gives (query s filter q)).failure = none ↔ ∀ p ∈ q.paths, p.text ≠ "") ∧
      (∀ ps line, (∀ p ∈ ps, p.isRooted = true) →
        (Request.parse line).2 = .ok (.provideConfigurations ps) →
        let items := index.items ps
        let respelled := items.map (.anchored w.here)
        answered w service line = some (FileConfigurationItem.listJson items) ∧
          printed w s filter (.files ps) = .ok (FileConfigurationItem.listJson respelled) ∧
          (∀ i ∈ items, (i.anchored w.here).file.Same i.file) ∧
          (FileConfigurationItem.listJson respelled = FileConfigurationItem.listJson items ↔
            ∀ p ∈ ps, index.contains p = true → p.IsTidy)) ∧
      ∀ folder line, (∀ f, folder = some f → f.isRooted = true) →
        (Request.parse line).2 = .ok (Query.browse folder).request →
        ∃ result, answered w service line = some result ∧
          printed w s filter (.browse folder) = .ok result ∧
          (result = .null ↔ Query.folderAnswer index folder = none) := by
  refine ⟨Surroundings.exists_start w s, ?_⟩
  intro watch events service hstart index
  have hindex : index = (w.rebuilt s db).index :=
    congrArg Session.index (Surroundings.session_of_loaded hload hstart)
  refine ⟨?_, ?_, ?_⟩
  · exact failure_eq_none_iff hload filter
  · intro ps line hps hrequest items respelled
    obtain ⟨hanswered, hprinted⟩ := files_agree hload filter hindex hps hrequest
    have hsame : ∀ i ∈ items, (i.anchored w.here).file.Same i.file := by
      intro i hi
      exact Path.same_anchored w.here (hps i.file (Index.mem_items.1 hi).1)
    exact ⟨hanswered, hprinted, hsame, index.listJson_items_anchored w.here hps⟩
  · intro folder line hfolder hrequest
    obtain ⟨hanswered, hprinted⟩ := browse_agrees hload filter hindex hfolder hrequest
    refine ⟨_, hanswered, hprinted, ?_⟩
    rw [← Session.browseJson_eq_null]
    constructor
    · exact Json.eq_null_of_sorted
    · intro hnull
      show Json.sorted (Session.browseJson (Query.folderAnswer index folder)) = .null
      rw [hnull]
      rfl

/-- A machine whose current directory holds a database of one file. -/
def oneFile : Surroundings :=
  let content :=
    "[\x7b\"directory\":\"/p\",\"file\":\"a.c\",\"arguments\":[\"sh\",\"gcc\"]\x7d]"
  ⟨⟨[(["p"], .directory),
    (["p", "compile_commands.json"], .file (content.toList.map fun c => c.toNat.toUInt8))]⟩,
    ["p"], []⟩

theorem oneFile_loaded : ∃ db, oneFile.loaded .initial = .ok db := by
  have hloads : (oneFile.loaded .initial).toOption.isSome = true := by decide +kernel
  obtain ⟨db, hdb⟩ := Option.isSome_iff_exists.1 hloads
  exact ⟨db, eq_ok_of_toOption hdb⟩

/-- A file asked for in two spellings, and a file that is not known: the service answers with both
spellings, and the program prints the tidy one twice. -/
theorem query_agrees_two_spellings :
    let line := "\x7b\"method\":\"provideConfigurations\"," ++
      "\"params\":[[\"/p/a.c\",\"/p//a.c\",\"/q\"]]\x7d"
    let printed := printed oneFile .initial .errorsOnly
      (.files [⟨"/p/a.c"⟩, ⟨"/p//a.c"⟩, ⟨"/q"⟩])
    (∃ db, oneFile.loaded .initial = .ok db) ∧
      ∃ events service items, oneFile.gives (Service.start .initial false) = (events, .ok service) ∧
        answered oneFile service line = some (FileConfigurationItem.listJson items) ∧
        printed = .ok (FileConfigurationItem.listJson (items.map (.anchored oneFile.here))) ∧
        (items.map fun i => i.file.text) = ["/p/a.c", "/p//a.c"] ∧
        (items.map fun i => (i.anchored oneFile.here).file.text) = ["/p/a.c", "/p/a.c"] := by
  intro line printed
  obtain ⟨db, hload⟩ := oneFile_loaded
  obtain ⟨⟨events, service, hstart⟩, hservices⟩ := query_agrees hload .errorsOnly
  obtain ⟨_, hfiles, _⟩ := hservices false events service hstart
  have hrequest : (Request.parse line).2 =
      .ok (.provideConfigurations [⟨"/p/a.c"⟩, ⟨"/p//a.c"⟩, ⟨"/q"⟩]) :=
    eq_ok_of_toOption (by decide +kernel)
  obtain ⟨hanswered, hprinted, _, _⟩ := hfiles _ line (by decide) hrequest
  rw [Surroundings.session_of_start hstart] at hanswered hprinted
  refine ⟨⟨db, hload⟩, events, service, _, hstart, hanswered, hprinted, ?_, ?_⟩
  · decide +kernel
  · decide +kernel

/-- **A spelling that is not tidy**: the program prints another value than the service answers. -/
theorem query_disagrees_on_spelling :
    let line := "\x7b\"method\":\"provideConfigurations\",\"params\":[[\"/p//a.c\"]]\x7d"
    (∃ db, oneFile.loaded .initial = .ok db) ∧ (⟨"/p//a.c"⟩ : Path).isRooted = true ∧
      (Request.parse line).2 = .ok (.provideConfigurations [⟨"/p//a.c"⟩]) ∧
      ∃ events service result value,
        oneFile.gives (Service.start .initial false) = (events, .ok service) ∧
        answered oneFile service line = some result ∧
        printed oneFile .initial .errorsOnly (.files [⟨"/p//a.c"⟩]) = .ok value ∧
        value ≠ result := by
  intro line
  obtain ⟨db, hload⟩ := oneFile_loaded
  have hrequest : (Request.parse line).2 = .ok (.provideConfigurations [⟨"/p//a.c"⟩]) :=
    eq_ok_of_toOption (by decide +kernel)
  obtain ⟨events, service, hstart⟩ := Surroundings.exists_start oneFile .initial
  have hindex := congrArg Session.index (Surroundings.session_of_loaded hload hstart)
  obtain ⟨hanswered, hprinted⟩ :=
    files_agree hload .errorsOnly hindex (by decide) hrequest
  refine ⟨⟨db, hload⟩, by decide, hrequest, events, service, _, _, hstart, hanswered, hprinted, ?_⟩
  rw [ne_eq, FileConfigurationItem.listJson_anchored, Surroundings.session_of_start hstart]
  decide +kernel

end CommandLine.Program

end CompileIndex
