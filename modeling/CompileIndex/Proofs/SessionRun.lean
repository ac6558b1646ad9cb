import CompileIndex.Host.Session
import CompileIndex.Proofs.History
import CompileIndex.Proofs.JsonLexemes
import CompileIndex.Proofs.JsonMembers

/-!
# Runs of a session

A host writes lines, and meanwhile anybody may write or remove the database file.  A run is any
interleaving of the two.  A line changes the session only when it is a `rebuild` that finds a
database in the file, and then nothing of the earlier index is left but its folders; so a session
stands, at every moment of every run, where the last database that was loaded alone puts it.

* `Event`, `Scene`, `Scene.responses` — runs and what the host gets;
* `loads` — the databases loaded in a run;
* `Scene.answer_cases` — what a line does;
* `Scene.standing_after` — where a run leaves a session;
* `Scene.serveLines_eq` — a served stream is a run;
* `fileResult`, `itemResult`, `browseResult`, `AnsweredFrom` — what an index says to the questions;
* `answers_of_last_load` — the answers of a run, and what never changes them.
-/

namespace CompileIndex.Session

/-! ### Runs -/

/-- What happens to a session and its database file. -/
inductive Event where
  /-- The host writes a line. -/
  | line (text : String)
  /-- The database file is written or removed; reading it gives `content` from now on. -/
  | database (content : Except FileError String)

/-- A session, and what reading its database file gives. -/
structure Scene where
  session : Session
  content : Except FileError String

namespace Scene

/-- A line answered. -/
def answer (scene : Scene) (line : String) : Answer :=
  Id.run (scene.session.handle (pure scene.content) line)

/-- The scene after one event. -/
def step (scene : Scene) : Event → Scene
  | .line text => { scene with session := (scene.answer text).session }
  | .database content => { scene with content := content }

/-- The scene after several events. -/
def after (scene : Scene) (events : List Event) : Scene :=
  events.foldl step scene

/-- What the host gets in a run: a response for every line. -/
def responses : Scene → List Event → List Response
  | _, [] => []
  | scene, .line text :: rest =>
    (scene.answer text).response :: (scene.step (.line text)).responses rest
  | scene, .database content :: rest => (scene.step (.database content)).responses rest

@[simp] theorem after_cons (scene : Scene) (event : Event) (rest : List Event) :
    scene.after (event :: rest) = (scene.step event).after rest :=
  rfl

/-- A run in two parts: the second one starts where the first one ends. -/
theorem responses_append (scene : Scene) (before later : List Event) :
    scene.responses (before ++ later) =
      scene.responses before ++ (scene.after before).responses later := by
  induction before generalizing scene with
  | nil => rfl
  | cons event rest ih =>
    cases event with
    | line text =>
      simp only [List.cons_append, responses, after_cons]
      rw [ih]
    | database content =>
      simp only [List.cons_append, responses, after_cons]
      rw [ih]

/-- Of several lines that are served, the first one is answered and the others are served by what
it leaves. -/
theorem serveLines_cons (scene : Scene) (line : String) (rest : List String) :
    let answered := scene.answer line
    let served := Id.run (serveLines (pure scene.content) answered.session rest)
    Id.run (serveLines (pure scene.content) scene.session (line :: rest)) =
      ⟨served.session, written answered.response ++ served.output,
        answered.events ++ served.events⟩ :=
  rfl

/-- **A served stream is a run** in which nobody touches the database file. -/
theorem serveLines_eq (scene : Scene) (lines : List String) :
    let served := Id.run (serveLines (pure scene.content) scene.session lines)
    let events := lines.map Event.line
    served.session = (scene.after events).session ∧
      served.output = (scene.responses events).foldr (fun r output => written r ++ output) "" := by
  induction lines generalizing scene with
  | nil => exact ⟨rfl, rfl⟩
  | cons line rest ih =>
    obtain ⟨hsession, houtput⟩ := ih (scene.step (.line line))
    have hcontent : (scene.step (.line line)).content = scene.content := rfl
    have hstep : (scene.step (.line line)).session = (scene.answer line).session := rfl
    rw [hcontent, hstep] at hsession houtput
    intro served events
    have hserved := serveLines_cons scene line rest
    simp only [served, events, hserved, List.map_cons, after_cons, responses, List.foldr_cons]
    rw [hsession, houtput]
    exact ⟨rfl, rfl⟩

end Scene

/-! ### What a line does -/

/-- The database that a line loads: a `rebuild` loads the one in the file, if there is one, and no
other line loads any. -/
def loadedBy (path : Path) (content : Except FileError String) (line : String) :
    Option Database :=
  match (Request.parse line).2 with
  | .ok .rebuild => (Database.load path content).toOption
  | _ => none

/-- The databases loaded in a run, in order. -/
def loads (path : Path) : Except FileError String → List Event → List Database
  | _, [] => []
  | content, .line text :: rest => (loadedBy path content text).toList ++ loads path content rest
  | _, .database content :: rest => loads path content rest

/-- Every request but a rebuild is answered from the index. -/
theorem exists_query?_eq_some (index : Index) {request : Request} (h : request ≠ .rebuild) :
    ∃ result, query? index request = some result := by
  cases request with
  | rebuild => exact absurd rfl h
  | _ => exact ⟨_, rfl⟩

/-- A rebuild finds a database and rebuilds the index from it, or fails and changes nothing. -/
theorem rebuild_cases (s : Session) (id : Json) (events : List Log.Event)
    (content : Except FileError String) :
    (∃ db, Database.load s.databasePath content = .ok db ∧
      let rebuilt := s.index.rebuiltAfresh db s.target
      s.rebuild id events content =
        ⟨{ s with index := rebuilt.index }, .success id rebuilt.report.toJson,
          events ++ rebuilt.events⟩) ∨
    (∃ e, Database.load s.databasePath content = .error e ∧
      s.rebuild id events content = s.fail id events (.rebuildFailed e)) := by
  unfold rebuild
  rcases s.index.refresh_cases s.databasePath content s.target with
    ⟨db, hload, hrefresh⟩ | ⟨e, hload, hrefresh⟩
  · rw [hrefresh]
    exact Or.inl ⟨db, hload, rfl⟩
  · rw [hrefresh]
    exact Or.inr ⟨e, hload, rfl⟩

namespace Scene

/-- The answer to a line goes by the request that the line holds. -/
theorem answer_eq (scene : Scene) (line : String) :
    let s := scene.session
    let id := (Request.parse line).1
    scene.answer line =
      match (Request.parse line).2 with
      | .error e => s.fail id [] e
      | .ok request =>
        match query? s.index request with
        | some result => ⟨s, .success id result, [requestEvent request]⟩
        | none => s.rebuild id [requestEvent request] scene.content := by
  intro s id
  unfold answer handle
  simp only [s, id]
  cases (Request.parse line).2 with
  | error e => rfl
  | ok request =>
    simp only
    cases query? scene.session.index request with
    | some result => rfl
    | none => rfl

/-- **What a line does.**  It is no request, or a question, or a rebuild that finds no database,
and then the session stays as it is; or it is a rebuild that loads a database, and then the index
is rebuilt afresh and all else stays. -/
theorem answer_cases (scene : Scene) (line : String) :
    let s := scene.session
    let id := (Request.parse line).1
    let request := (Request.parse line).2
    let loaded := Database.load s.databasePath scene.content
    (∃ e, request = .error e ∧ scene.answer line = s.fail id [] e) ∨
    (∃ question result, request = .ok question ∧ question ≠ .rebuild ∧
      query? s.index question = some result ∧
      scene.answer line = ⟨s, .success id result, [requestEvent question]⟩) ∨
    (∃ e, request = .ok .rebuild ∧ loaded = .error e ∧
      scene.answer line = s.fail id [requestEvent .rebuild] (.rebuildFailed e)) ∨
    (∃ db, request = .ok .rebuild ∧ loaded = .ok db ∧
      let rebuilt := s.index.rebuiltAfresh db s.target
      scene.answer line = ⟨{ s with index := rebuilt.index }, .success id rebuilt.report.toJson,
        requestEvent .rebuild :: rebuilt.events⟩) := by
  intro s id request loaded
  have hanswer := scene.answer_eq line
  cases hrequest : (Request.parse line).2 with
  | error e =>
    rw [hrequest] at hanswer
    exact Or.inl ⟨e, hrequest, hanswer⟩
  | ok question =>
    rw [hrequest] at hanswer
    by_cases hquestion : question = .rebuild
    · subst hquestion
      rcases s.rebuild_cases id [requestEvent .rebuild] scene.content with
        ⟨db, hload, hrebuild⟩ | ⟨e, hload, hrebuild⟩
      · exact Or.inr (Or.inr (Or.inr ⟨db, hrequest, hload, hanswer.trans hrebuild⟩))
      · exact Or.inr (Or.inr (Or.inl ⟨e, hrequest, hload, hanswer.trans hrebuild⟩))
    · obtain ⟨result, hresult⟩ := exists_query?_eq_some s.index hquestion
      simp only at hanswer
      rw [hresult] at hanswer
      exact Or.inr (Or.inl ⟨question, result, hrequest, hquestion, hresult, hanswer⟩)

/-- A question is answered, and from the index. -/
theorem answer_question (scene : Scene) {line : String} {question : Request}
    (hrequest : (Request.parse line).2 = .ok question) (hquestion : question ≠ .rebuild) :
    ∃ result, query? scene.session.index question = some result ∧
      (scene.answer line).response = .success (Request.parse line).1 result := by
  obtain ⟨result, hresult⟩ := exists_query?_eq_some scene.session.index hquestion
  have hanswer := scene.answer_eq line
  simp only [hrequest, hresult] at hanswer
  exact ⟨result, hresult, congrArg Answer.response hanswer⟩

/-- Only a line that loads a database changes a session, and of the session only the index. -/
theorem answer_session (scene : Scene) (line : String) :
    (scene.answer line).session =
      match loadedBy scene.session.databasePath scene.content line with
      | none => scene.session
      | some db =>
        { scene.session with
          index := (scene.session.index.rebuiltAfresh db scene.session.target).index } := by
  unfold loadedBy
  rcases scene.answer_cases line with ⟨e, hr, ha⟩ | ⟨question, result, hr, hq, _, ha⟩ |
    ⟨e, hr, hl, ha⟩ | ⟨db, hr, hl, ha⟩
  · rw [ha, hr]
    rfl
  · rw [ha, hr]
    cases question with
    | rebuild => exact absurd rfl hq
    | _ => rfl
  · rw [ha, hr, hl]
    rfl
  · rw [ha, hr, hl]
    rfl

end Scene

/-! ### Where a run leaves a session -/

/-- A new index of some folders, rebuilt once from a database, or never. -/
def freshIndex (folders : List Path) (target : BuildTarget) : Option Database → Index
  | none => .ofFolders folders
  | some db => ((Index.ofFolders folders).rebuild db target).index

/-- What the database file holds after several events. -/
def contentAfter (content : Except FileError String) (events : List Event) :
    Except FileError String :=
  events.foldl (fun content event =>
    match event with
    | .line _ => content
    | .database content => content) content

/-- A fresh index is one of the given folders, whatever it was rebuilt from. -/
theorem folderPaths_freshIndex (folders : List Path) (target : BuildTarget)
    (last : Option Database) :
    (freshIndex folders target last).folderPaths = (Index.ofFolders folders).folderPaths := by
  cases last with
  | none => rfl
  | some db => exact Index.folderPaths_rebuild (.ofFolders folders) db target

/-- A rebuild of a fresh index leaves nothing of what it was rebuilt from. -/
theorem rebuiltAfresh_freshIndex (folders : List Path) (target : BuildTarget)
    (last : Option Database) (db : Database) :
    ((freshIndex folders target last).rebuiltAfresh db target).index =
      freshIndex folders target (some db) := by
  rw [Index.rebuiltAfresh_eq_rebuild,
    Index.rebuild_congr (folderPaths_freshIndex folders target last) db target]
  rfl

namespace Scene

/-- The scene of a session that stands where one database, or none, puts it. -/
def standing (folders : List Path) (path : Path) (target : BuildTarget)
    (last : Option Database) (content : Except FileError String) : Scene :=
  ⟨⟨freshIndex folders target last, path, target⟩, content⟩

variable (folders : List Path) (path : Path) (target : BuildTarget)

/-- A line leaves a session where the database that it loads puts it, or where it stands. -/
theorem standing_step_line (last : Option Database) (content : Except FileError String)
    (line : String) :
    (standing folders path target last content).step (.line line) =
      standing folders path target ((loadedBy path content line).or last) content := by
  have hsession := (standing folders path target last content).answer_session line
  simp only [standing] at hsession
  simp only [standing, step]
  rw [hsession]
  cases loadedBy path content line with
  | none => rfl
  | some db =>
    simp only [Option.some_or]
    rw [rebuiltAfresh_freshIndex]

/-- **Where a run leaves a session**: where the last database that was loaded puts it. -/
theorem standing_after (last : Option Database) (content : Except FileError String)
    (events : List Event) :
    (standing folders path target last content).after events =
      standing folders path target ((loads path content events).getLast?.or last)
        (contentAfter content events) := by
  induction events generalizing last content with
  | nil => rfl
  | cons event rest ih =>
    cases event with
    | line text =>
      rw [after_cons, standing_step_line, ih, loads, List.getLast?_append, Option.or_assoc]
      cases loadedBy path content text with
      | none => rfl
      | some db => rfl
    | database content => exact ih last content

end Scene

/-! ### What an index says -/

/-- The configuration of a file as a host gets it. -/
def fileResult (c : FileConfiguration) : Json :=
  .object [
    ("compilerArgs", .strings c.compilerArgs),
    ("compilerPath", .string c.compilerPath),
    ("defines", .strings c.definitions),
    ("includePath", .strings c.includePath),
    ("intelliSenseMode", .string c.mode.text),
    ("standard", .string c.standard.text)]

/-- A file with its configuration as a host gets it. -/
def itemResult (i : FileConfigurationItem) : Json :=
  .object [("configuration", fileResult i.configuration), ("uri", .string i.file.text)]

/-- The configuration of a folder as a host gets it. -/
def browseResult (b : BrowseConfiguration) : Json :=
  .object ([("browsePath", .strings b.browsePath.toList),
    ("compilerArgs", .strings b.compilerArgs.toList)]
    ++ (b.compilerPath.map fun path => ("compilerPath", .string path)).toList
    ++ (b.standard.map fun s => ("standard", .string s.text)).toList)

theorem sorted_strings (items : List String) : (Json.strings items).sorted = .strings items := by
  rw [Json.strings, Json.sorted, Json.sortedItems_eq_map, List.map_map]
  rfl

theorem sorted_file (c : FileConfiguration) : c.toJson.sorted = fileResult c := by
  unfold FileConfiguration.toJson fileResult
  simp only [Json.sorted, Json.sortedMembers, sorted_strings]
  simp only [Json.sortMembers, Json.insert, List.foldl, String.reduceLT, String.reduceEq,
    if_true, if_false]

theorem sorted_item (i : FileConfigurationItem) : i.toJson.sorted = itemResult i := by
  unfold FileConfigurationItem.toJson itemResult
  simp only [Json.sorted, Json.sortedMembers, sorted_file]
  simp only [Json.sortMembers, Json.insert, List.foldl, String.reduceLT, if_true]

theorem sorted_items (items : List FileConfigurationItem) :
    (Json.array (items.map FileConfigurationItem.toJson)).sorted =
      .array (items.map itemResult) := by
  rw [Json.sorted, Json.sortedItems_eq_map, List.map_map]
  exact congrArg Json.array (List.map_congr_left fun i _ => sorted_item i)

/-- The members of a folder's configuration are in order, whichever of the last two are left out. -/
theorem sorted_browse (b : BrowseConfiguration) : b.toJson.sorted = browseResult b := by
  obtain ⟨paths, arguments, path, standard⟩ := b
  unfold BrowseConfiguration.toJson browseResult
  cases path <;> cases standard <;>
    simp only [Json.sorted, Json.sortedMembers, sorted_strings, Json.sortMembers, Json.insert,
      BrowseConfiguration.optionalMember, Option.map, Option.toList, List.append_nil,
      List.cons_append, List.nil_append, List.foldl, String.reduceLT, String.reduceEq, if_false]

theorem sorted_browseJson (b : Option BrowseConfiguration) :
    (browseJson b).sorted = (b.map browseResult).getD .null := by
  cases b with
  | none => rfl
  | some b => exact sorted_browse b

/-- What a host gets when an index is asked a question: what the index itself says, under the id of
the question.  A rebuild is no question. -/
inductive AnsweredFrom (index : Index) (id : Json) : Request → Response → Prop where
  /-- Whether the index knows the file. -/
  | known (file : Path) : AnsweredFrom index id (.canProvideConfiguration file)
      ⟨id, some (.bool (index.contains file)), none⟩
  /-- The configurations of those of the files that it knows. -/
  | items (files : List Path) : AnsweredFrom index id (.provideConfigurations files)
      ⟨id, some (.array ((index.items files).map itemResult)), none⟩
  /-- Whether it has a folder. -/
  | hasFolders : AnsweredFrom index id .canProvideBrowseConfiguration
      ⟨id, some (.bool index.hasFolders), none⟩
  /-- The configuration of its primary folder, or null. -/
  | primaryBrowse : AnsweredFrom index id .provideBrowseConfiguration
      ⟨id, some ((index.primaryBrowse?.map browseResult).getD .null), none⟩
  /-- The configuration of the folder, or null. -/
  | folder (folder : Path) : AnsweredFrom index id (.provideFolderBrowseConfiguration folder)
      ⟨id, some (((index.folder? folder).map browseResult).getD .null), none⟩

/-- The result of a question is what the index says. -/
theorem answeredFrom_of_query? {index : Index} {question : Request} {result : Json} (id : Json)
    (h : query? index question = some result) :
    AnsweredFrom index id question (.success id result) := by
  unfold Response.success
  cases question with
  | rebuild => cases h
  | canProvideConfiguration file =>
    cases h
    exact .known file
  | provideConfigurations files =>
    cases h
    rw [sorted_items]
    exact .items files
  | canProvideBrowseConfiguration =>
    cases h
    exact .hasFolders
  | provideBrowseConfiguration =>
    cases h
    rw [sorted_browseJson]
    exact .primaryBrowse
  | provideFolderBrowseConfiguration folder =>
    cases h
    rw [sorted_browseJson]
    exact .folder folder

/-! ### The answers of a run -/

/-- **The answers of a run.**  A session of a new index of some folders runs through any lines and
any writes of its database file.  At every line there is one response.  If the line is a question,
the response is what a new index of the folders says that was rebuilt once, from the last
database loaded before, or never if none was.  If the line loads no database, all other responses,
those after it included, are the same without it. -/
theorem answers_of_last_load (folders : List Path) (path : Path) (target : BuildTarget)
    (content : Except FileError String) (before : List Event) (line : String)
    (later : List Event) :
    let start : Scene := ⟨⟨.ofFolders folders, path, target⟩, content⟩
    let fresh := freshIndex folders target (loads path content before).getLast?
    ∃ response rest,
      start.responses (before ++ .line line :: later) =
        start.responses before ++ response :: rest ∧
      (∀ question, (Request.parse line).2 = .ok question → question ≠ .rebuild →
        AnsweredFrom fresh (Request.parse line).1 question response) ∧
      (loadedBy path (contentAfter content before) line = none →
        start.responses (before ++ later) = start.responses before ++ rest) := by
  intro start fresh
  have hbefore : start.after before =
      .standing folders path target (loads path content before).getLast?
        (contentAfter content before) := by
    have hrun := Scene.standing_after folders path target none content before
    rw [Option.or_none] at hrun
    exact hrun
  refine ⟨((start.after before).answer line).response,
    ((start.after before).step (.line line)).responses later, ?_, ?_, ?_⟩
  · rw [Scene.responses_append]
    rfl
  · intro question hrequest hquestion
    rw [hbefore]
    obtain ⟨result, hresult, hresponse⟩ := (Scene.standing folders path target
      (loads path content before).getLast? (contentAfter content before)).answer_question
      hrequest hquestion
    rw [hresponse]
    exact answeredFrom_of_query? (Request.parse line).1 hresult
  · intro hnone
    rw [Scene.responses_append, hbefore, Scene.standing_step_line, hnone, Option.none_or]

/-- A question after a rebuild that finds a database and one that finds no array: the file of the
database is known, and the second rebuild might as well not have been asked for. -/
theorem answers_of_last_load_after_failed_rebuild :
    let start : Scene := ⟨⟨.ofFolders [⟨"/p"⟩], ⟨"/p/db.json"⟩, ⟨"x64", "linux"⟩⟩,
      .error .notFound⟩
    let rebuild := "\x7b\"id\":1,\"method\":\"rebuild\"\x7d"
    let question := "\x7b\"method\":\"canProvideConfiguration\",\"params\":[\"/p/a.c\"]\x7d"
    let run : List Event := [
      .database (.ok
        "[\x7b\"directory\":\"/p\",\"file\":\"a.c\",\"arguments\":[\"sh\",\"gcc\"]\x7d]"),
      .line rebuild, .database (.ok "null")]
    (∃ response rest, start.responses (run ++ [.line question]) =
        start.responses run ++ response :: rest ∧
      response = ⟨(Request.parse question).1, some (.bool true), none⟩) ∧
    (∃ response rest, start.responses (run ++ [.line rebuild, .line question]) =
        start.responses run ++ response :: rest ∧
      start.responses (run ++ [.line question]) = start.responses run ++ rest) := by
  intro start rebuild question run
  constructor
  · obtain ⟨response, rest, hresponses, hanswer, _⟩ := answers_of_last_load [⟨"/p"⟩]
      ⟨"/p/db.json"⟩ ⟨"x64", "linux"⟩ (.error .notFound) run question []
    have hrequest : (Request.parse question).2 = .ok (.canProvideConfiguration ⟨"/p/a.c"⟩) :=
      eq_ok_of_toOption (by decide +kernel)
    have hknown : (freshIndex [⟨"/p"⟩] ⟨"x64", "linux"⟩
        (loads ⟨"/p/db.json"⟩ (.error .notFound) run).getLast?).contains ⟨"/p/a.c"⟩ = true := by
      decide +kernel
    refine ⟨response, rest, hresponses, ?_⟩
    cases hanswer _ hrequest (by decide) with
    | known file => rw [hknown]
  · obtain ⟨response, rest, hresponses, _, hwithout⟩ := answers_of_last_load [⟨"/p"⟩]
      ⟨"/p/db.json"⟩ ⟨"x64", "linux"⟩ (.error .notFound) run rebuild [.line question]
    have hnone : (loadedBy ⟨"/p/db.json"⟩ (contentAfter (.error .notFound) run)
        rebuild).isNone = true := by
      decide +kernel
    exact ⟨response, rest, hresponses, hwithout (Option.isNone_iff_eq_none.1 hnone)⟩

end CompileIndex.Session
