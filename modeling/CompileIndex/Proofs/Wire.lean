import CompileIndex.Proofs.Correlation
import CompileIndex.Proofs.JsonRecords

/-!
# Responses on the wire

A response is written as one line, and a host reads it back.  It gets the response that was
written, with one exception: a result that is null is written as such, and read as no result.
Null is the answer to a question for the configuration of a folder when there is none.

An id was read from a line, so it comes back when it holds no double.  A result is made of texts,
truth values and numbers; the numbers count records, and there are no more of them than the
database file has characters.

* `Response.received`, `Response.decode_written` — what a host gets of a response;
* `Request.canonical_id`, `Scene.returns_result` — what a response holds comes back;
* `Unconfigured`, `Scene.unconfigured_of_null` — the lines that are answered null;
* `response_received` — all of it, about a line of a host.
-/

namespace CompileIndex

open Json (Canonical Fields FloatFree Plain Returns Stops compact)
open Json.Decoder (StartsApart readsBack_record readsBack_text)

/-! ### Errors and responses -/

namespace ErrorBody

/-- The fields of an error. -/
def fields : Fields (Option Int64 × Option String × Unit) (Int64 × String × Unit) :=
  .cons (.required "code" .integer64) (.cons (.required "message" .text) .nil)

/-- A code as it is written. -/
def wide (code : Int64) : WideInt :=
  ⟨code.toInt, Int64.le_toInt code, Int.lt_trans (Int64.toInt_lt code) (by decide)⟩

theorem ofInt_code (code : Int64) : Json.ofInt code.toInt = .integer (wide code) :=
  Json.ofInt_value (wide code)

/-- A code is read back. -/
theorem readsBack_code (depth : Nat) (code : Int64) :
    Json.Decoder.integer64.ReadsBack depth (.ofInt code.toInt) code := by
  intro t ht
  obtain ⟨c, ds, hprint, hc⟩ := Json.printInt_cons (wide code)
  have hread := Json.readNumber_printInt (wide code) ht
  have hin : -0x8000000000000000 ≤ (wide code).value ∧ (wide code).value < 0x8000000000000000 :=
    ⟨Int64.le_toInt code, Int64.toInt_lt code⟩
  have hcode : Int64.ofInt (wide code).value = code := Int64.ofInt_toInt code
  rw [ofInt_code, compact]
  rw [hprint, List.cons_append] at hread ⊢
  unfold Json.Decoder.integer64 Json.Decoder.integerAs
  rw [Json.skipBlanks_of_not (Json.not_space_of_number hc)]
  simp only [hc, if_true, hread, bind, Except.bind, hin, and_self, hcode]
  rfl

theorem holds (depth : Nat) (e : ErrorBody) :
    fields.Holds depth [("code", .ofInt e.code.toInt), ("message", .string e.message)]
      (some e.code, some e.message, ()) (e.code, e.message, ()) :=
  .given (readsBack_code depth e.code) (by decide)
    (.given (readsBack_text depth e.message) (by decide) .nil)

/-- **An error is read back.** -/
theorem readsBack (depth : Nat) (e : ErrorBody) : decoder.ReadsBack (depth + 1) e.toJson e :=
  readsBack_record (e.holds depth)

theorem startsApart (e : ErrorBody) : StartsApart e.toJson :=
  ⟨'\x7b', _, rfl, by decide, by decide⟩

end ErrorBody

namespace Response

/-- A value, unless it is null. -/
def nonNull? : Json → Option Json
  | .null => none
  | v => some v

/-- A response as a host gets it: a result that is null is none. -/
def received (r : Response) : Response :=
  { r with result := r.result.bind nonNull? }

/-- A response without the result null is received as it is. -/
theorem received_eq {r : Response} (h : r.result ≠ some .null) : r.received = r := by
  obtain ⟨id, result, error⟩ := r
  cases result with
  | none => rfl
  | some v =>
    cases v with
    | null => exact absurd rfl h
    | _ => rfl

/-- What is read of a response: for every field none, or what the field is. -/
abbrev Read :=
  Option Json × Option (Option Json) × Option (Option ErrorBody) × Unit

/-- The fields of a response. -/
def fields : Fields Read (Json × Option Json × Option ErrorBody × Unit) :=
  .cons (.required "id" .any)
    (.cons (.optional "result" .any) (.cons (.optional "error" ErrorBody.decoder) .nil))

theorem decoder_eq :
    decoder = .record "HostResponse" fields fun (id, result, error, _) => ⟨id, result, error⟩ :=
  rfl

/-- A value that may be null is read back, and is none when it is. -/
theorem readsBack_nonNull {depth : Nat} {v : Json} (hv : Returns depth v) :
    Json.Decoder.any.optional.ReadsBack depth v (nonNull? v) := by
  intro t ht
  obtain ⟨c, q, hcompact, hspace, _, hnull⟩ := Json.compact_cons hv.floatFree
  have hread : Json.Decoder.any depth (compact v ++ t) = .ok (v, t) :=
    Json.readValue_compact hv.canonical hv.floatFree ht
  -- A null is told by its first character, and only a null starts with an n.
  by_cases hc : c = 'n'
  · rw [hnull hc]
    rfl
  · have hnonnull : nonNull? v = some v := by
      cases v with
      | null => exact absurd (List.cons.inj hcompact).1.symm hc
      | _ => rfl
    rw [hcompact, List.cons_append] at hread ⊢
    rw [hnonnull]
    exact Json.optional_of_ne hspace hc hread

/-- The members of a response. -/
theorem toJson_eq (r : Response) :
    r.toJson = .object (("id", r.id) ::
      ((r.result.map fun v => ("result", v)).toList ++
        ((r.error.map fun e => ("error", e.toJson)).toList ++ []))) := by
  rw [List.append_nil]
  rfl

theorem holds {r : Response} (hid : Returns 126 r.id)
    (hresult : ∀ v, r.result = some v → Returns 126 v) :
    fields.Holds 126
      (("id", r.id) ::
        ((r.result.map fun v => ("result", v)).toList ++
          ((r.error.map fun e => ("error", e.toJson)).toList ++ [])))
      (some r.id, r.result.map nonNull?, r.error.map some, ())
      (r.id, r.result.bind nonNull?, r.error, ()) := by
  refine .given (fun t ht => Json.readValue_compact hid.canonical hid.floatFree ht) (by decide) ?_
  have herror : Fields.Holds 126 (.cons (.optional "error" ErrorBody.decoder) .nil)
      ((r.error.map fun e => ("error", e.toJson)).toList ++ []) (r.error.map some, ())
      (r.error, ()) :=
    .optional (fun e => e.readsBack 125) ErrorBody.startsApart (by decide) .nil r.error
  cases hr : r.result with
  | none => exact .left rfl (by decide) herror
  | some v => exact .given (readsBack_nonNull (hresult v hr)) (by decide) herror

/-- **A response that is written is received.** -/
theorem decode_written {r : Response} (hid : Returns 126 r.id)
    (hresult : ∀ v, r.result = some v → Returns 126 v) :
    decoder.decode (Session.written r) = .ok r.received := by
  have htext : (Session.written r).toList = compact r.toJson ++ ['\n'] := by
    rw [Session.written, Json.text, String.toList_append, String.toList_ofList]
    rfl
  have hstops : Stops ['\n'] := Json.stops_cons (by decide) []
  refine Json.readWhole_eq_ok.2 ⟨['\n'], ?_, rfl⟩
  rw [htext, decoder_eq, toJson_eq]
  exact readsBack_record (holds hid hresult) ['\n'] hstops

end Response

/-! ### The id of a line -/

namespace Request

/-- The id that is read of an object is one that was read, or null. -/
theorem Raw.id_of_finish {read : Option Json × Option String × Option Json × Unit}
    {value : Json × String × Json × Unit} (h : Raw.fields.finish read = .ok value) :
    value.1 = read.1.getD .null := by
  obtain ⟨id, method, params, _⟩ := read
  cases method with
  | none => cases id <;> cases h
  | some m => cases id <;> cases params <;> cases h <;> rfl

/-- Every member keeps the id that is read canonical. -/
theorem Raw.canonical_readMember {depth : Nat} {name : String} {s r : List Char}
    {read read' : Option Json × Option String × Option Json × Unit}
    (h : Raw.fields.readMember depth read name s = .ok (read', r))
    (hread : ∀ v, read.1 = some v → Canonical depth v) :
    ∀ v, read'.1 = some v → Canonical depth v := by
  by_cases hid : name = "id"
  · obtain ⟨_, t, x, _, hx, rfl⟩ := (Fields.readMember_same hid).1 h
    intro v hv
    cases hv
    exact Json.canonical_of_readValue hx
  · obtain ⟨more, _, rfl⟩ := (Fields.readMember_other hid).1 h
    exact hread

/-- The id of a line that is read is canonical. -/
theorem Raw.canonical_id {depth : Nat} {s r : List Char} {raw : Raw}
    (h : Raw.decoder (depth + 1) s = .ok (raw, r)) : Canonical depth raw.id := by
  rw [Raw.decoder_eq] at h
  obtain ⟨d, value, hdepth, rfl, hvalue⟩ := Json.record_eq_ok.1 h
  cases hdepth
  change Canonical depth value.1
  rcases hvalue with ⟨t, u, _, hitems, _⟩ | ⟨names, read, ⟨t, _, _, htext⟩, hfinish⟩
  · obtain ⟨_, _, ⟨hcut, _⟩ | ⟨_, _, hid⟩⟩ := Fields.readItems_cons hitems
    · have hnull : value.1 = .null := (Option.some.inj hcut).symm
      rw [hnull]
      exact .null
    · exact Json.canonical_of_readValue hid
  · have hread := htext.rounds Raw.canonical_readMember nofun
    rw [Raw.id_of_finish hfinish]
    cases hid : read.1 with
    | none => exact .null
    | some v => exact hread v hid

/-- **The id of a line is canonical**: it was read, or it is null. -/
theorem canonical_id (line : String) : Canonical 126 (parse line).1 := by
  rw [parse]
  cases hraw : Raw.decoder.decode line with
  | error fault => exact .null
  | ok raw =>
    obtain ⟨r, hread, _⟩ := Json.readWhole_eq_ok.1 hraw
    exact Raw.canonical_id hread

end Request

/-! ### Results -/

namespace FileConfiguration

theorem plain_toJson (d : Nat) (c : FileConfiguration) : Plain (d + 2) c.toJson := by
  refine .object ?_
  simp only [List.forall_mem_cons]
  exact ⟨Json.plain_strings d _, Json.plain_strings d _, .string _, .string _, .string _,
    Json.plain_strings d _, nofun⟩

end FileConfiguration

namespace FileConfigurationItem

theorem plain_toJson (d : Nat) (i : FileConfigurationItem) : Plain (d + 3) i.toJson := by
  refine .object ?_
  simp only [List.forall_mem_cons]
  exact ⟨.string _, i.configuration.plain_toJson d, nofun⟩

end FileConfigurationItem

namespace BrowseConfiguration

theorem plain_optionalMember {d : Nat} {name : String} {text : Option String} {m : String × Json}
    (h : m ∈ optionalMember name text) : Plain d m.2 := by
  cases text with
  | none => cases h
  | some t =>
    rw [optionalMember, List.mem_singleton] at h
    rw [h]
    exact .string t

theorem plain_toJson (d : Nat) (b : BrowseConfiguration) : Plain (d + 2) b.toJson := by
  refine .object ?_
  intro m hm
  simp only [List.mem_append, List.mem_cons, List.not_mem_nil, or_false] at hm
  rcases hm with ((rfl | rfl) | hm) | hm
  · exact Json.plain_strings d _
  · exact Json.plain_strings d _
  · exact plain_optionalMember hm
  · exact plain_optionalMember hm

end BrowseConfiguration

namespace Report

theorem plain_toJson (d : Nat) {r : Report} (hrecords : r.records < 0x10000000000000000)
    (hcounted : r.skipped + r.files + r.replaced = r.records) : Plain (d + 1) r.toJson := by
  refine .object ?_
  simp only [List.forall_mem_cons]
  exact ⟨Json.plain_ofNat d hrecords, Json.plain_ofNat d (by omega), Json.plain_ofNat d (by omega),
    Json.plain_ofNat d (by omega), nofun⟩

end Report

/-! ### Databases are no longer than their texts -/

/-- An array has no more items than its text has characters. -/
theorem Json.length_le_of_parse {text : String} {items : List Json}
    (h : Json.parse text = .ok (.array items)) : items.length ≤ text.length := by
  obtain ⟨r, hread, _⟩ := readWhole_eq_ok.1 h
  rcases readValue_cases hread with ⟨c, t, _, hscalar⟩ | ⟨d, _, _, hitems, t, hs, hlength, _⟩ |
    ⟨_, _, _, _, heq, _⟩
  · -- What opens no bracket is no array.
    have hflat : Canonical 0 (.array items) := canonical_of_readScalar hscalar
    cases hflat
  · cases hitems
    have hblanks := length_skipBlanks_le text.toList
    rw [hs, List.length_cons, String.length_toList] at hblanks
    omega
  · cases heq

/-- A database has no more records than its file has characters. -/
theorem Database.length_records_le {path : Path} {content : Except FileError String}
    {db : Database} (h : load path content = .ok db) :
    ∃ text, content = .ok text ∧ db.records.length ≤ text.length := by
  cases content with
  | error cause => cases h
  | ok text =>
    refine ⟨text, rfl, ?_⟩
    rw [load] at h
    cases hparse : Json.parse text with
    | error fault =>
      rw [hparse] at h
      cases h
    | ok v =>
      rw [hparse] at h
      cases v with
      | array items =>
        cases h
        rw [List.length_map]
        exact Json.length_le_of_parse hparse
      | _ => cases h

namespace Session

/-! ### The responses of a session -/

/-- That a request asks for the configuration of a folder, and there is none. -/
def Unconfigured (index : Index) : Request → Prop
  | .provideBrowseConfiguration => index.primaryBrowse? = none
  | .provideFolderBrowseConfiguration folder => index.folder? folder = none
  | _ => False

theorem plain_browseJson (d : Nat) (b : Option BrowseConfiguration) :
    Plain (d + 2) (browseJson b) := by
  cases b with
  | none => exact .null
  | some b => exact b.plain_toJson d

theorem browseJson_eq_null {b : Option BrowseConfiguration} : browseJson b = .null ↔ b = none := by
  cases b with
  | none => exact ⟨fun _ => rfl, fun _ => rfl⟩
  | some b => exact ⟨nofun, nofun⟩

/-- What a question is answered comes back once it is sorted. -/
theorem plain_query {index : Index} {question : Request} {result : Json} (d : Nat)
    (h : query? index question = some result) : Plain (d + 4) result := by
  cases question with
  | canProvideConfiguration file =>
    cases h
    exact .bool _
  | provideConfigurations files =>
    cases h
    refine .array ?_
    intro v hv
    obtain ⟨i, _, rfl⟩ := List.mem_map.1 hv
    exact i.plain_toJson d
  | canProvideBrowseConfiguration =>
    cases h
    exact .bool _
  | provideBrowseConfiguration =>
    cases h
    exact plain_browseJson (d + 2) _
  | provideFolderBrowseConfiguration folder =>
    cases h
    exact plain_browseJson (d + 2) _
  | rebuild => cases h

/-- A question is answered null just when it asks for a configuration that is not there. -/
theorem query?_eq_null {index : Index} {question : Request} {result : Json}
    (h : query? index question = some result) : result = .null ↔ Unconfigured index question := by
  cases question with
  | provideBrowseConfiguration =>
    cases h
    exact browseJson_eq_null
  | provideFolderBrowseConfiguration folder =>
    cases h
    exact browseJson_eq_null
  | rebuild => cases h
  | _ =>
    cases h
    exact ⟨nofun, False.elim⟩

namespace Scene

/-- The result of a response comes back. -/
theorem returns_result (scene : Scene) {line : String}
    (hsize : ∀ text, scene.content = .ok text → text.length < 0x10000000000000000) (v : Json)
    (h : (scene.answer line).response.result = some v) : Returns 126 v := by
  rcases scene.answer_cases line with ⟨e, _, ha⟩ | ⟨question, result, _, _, hresult, ha⟩ |
    ⟨e, _, _, ha⟩ | ⟨db, _, hload, ha⟩
  · rw [ha] at h
    cases h
  · rw [ha] at h
    cases h
    exact (plain_query 122 hresult).returns_sorted
  · rw [ha] at h
    cases h
  · rw [ha] at h
    cases h
    -- What is counted adds up to the records, and those fit into the text.
    obtain ⟨text, hcontent, hlength⟩ := Database.length_records_le hload
    have hbound := hsize text hcontent
    obtain ⟨hrecords, hcounted⟩ := Index.report_rebuild (.ofFolders scene.session.index.folderPaths)
      db scene.session.target
    exact (Report.plain_toJson 125 (by rw [hrecords]; omega)
      (hcounted.trans hrecords.symm)).returns_sorted

/-- A line that asks for a configuration that is not there is answered null. -/
theorem response_of_unconfigured (scene : Scene) {line : String} {question : Request}
    (hrequest : (Request.parse line).2 = .ok question)
    (h : Unconfigured scene.session.index question) :
    (scene.answer line).response = ⟨(Request.parse line).1, some .null, none⟩ := by
  have hquestion : question ≠ .rebuild := by
    rintro rfl
    exact h
  obtain ⟨result, hresult, hresponse⟩ := scene.answer_question hrequest hquestion
  have hnull : result = .null := (query?_eq_null hresult).2 h
  rw [hresponse, hnull]
  rfl

/-- No other line is. -/
theorem unconfigured_of_null (scene : Scene) {line : String}
    (h : (scene.answer line).response.result = some .null) :
    ∃ question, (Request.parse line).2 = .ok question ∧
      Unconfigured scene.session.index question := by
  rcases scene.answer_cases line with ⟨e, _, ha⟩ | ⟨question, result, hr, _, hresult, ha⟩ |
    ⟨e, _, _, ha⟩ | ⟨db, _, _, ha⟩
  · rw [ha] at h
    cases h
  · rw [ha] at h
    have hsorted : result.sorted = .null := Option.some.inj h
    have hnull : result = .null := Json.eq_null_of_sorted hsorted
    exact ⟨question, hr, (query?_eq_null hresult).1 hnull⟩
  · rw [ha] at h
    cases h
  · rw [ha] at h
    cases h

end Scene

/-- **Responses on the wire.**  A line whose id holds no double is answered, and the response that
is written for it is read as a response with the same id, the same error and the same result, with
one exception: when the line asks for the configuration of a folder and there is none, the
response has the result null, and is read as one without a result.  The content of the database
file is a text that fits into memory, so what a rebuild counts is kept exact. -/
theorem response_received (scene : Scene) {line : String} (hid : FloatFree (Request.parse line).1)
    (hsize : ∀ text, scene.content = .ok text → text.length < 0x10000000000000000) :
    let id := (Request.parse line).1
    let request := (Request.parse line).2
    let response := (scene.answer line).response
    let received := Response.decoder.decode (written response)
    (∀ question, request = .ok question → Unconfigured scene.session.index question →
        response = ⟨id, some .null, none⟩ ∧ received = .ok ⟨id, none, none⟩) ∧
      ((∀ question, request = .ok question → ¬ Unconfigured scene.session.index question) →
        received = .ok response) := by
  intro id request response received
  have hreturns : Returns 126 response.id := by
    rw [scene.response_id line]
    exact ⟨Request.canonical_id line, hid⟩
  have hread : received = .ok response.received :=
    Response.decode_written hreturns (scene.returns_result hsize)
  constructor
  · intro question hrequest hquestion
    have hresponse : response = ⟨id, some .null, none⟩ :=
      scene.response_of_unconfigured hrequest hquestion
    refine ⟨hresponse, ?_⟩
    rw [hread, hresponse]
    rfl
  · intro hconfigured
    have hresult : response.result ≠ some .null := by
      intro hnull
      obtain ⟨question, hrequest, hquestion⟩ := scene.unconfigured_of_null hnull
      exact hconfigured question hrequest hquestion
    rw [hread, Response.received_eq hresult]

/-- A rebuild from an empty database: what it counts is received. -/
theorem response_received_rebuild :
    let line := "\x7b\"id\":\"a\",\"method\":\"rebuild\"\x7d"
    let scene : Scene := ⟨⟨.ofFolders [⟨"/p"⟩], ⟨"/p/db.json"⟩, ⟨"x64", "linux"⟩⟩, .ok "[]"⟩
    let response := (scene.answer line).response
    FloatFree (Request.parse line).1 ∧
      (∀ text, scene.content = .ok text → text.length < 0x10000000000000000) ∧
      Response.decoder.decode (written response) = .ok response := by
  intro line scene response
  have hid : (Request.parse line).1 = .string "a" :=
    Request.eq_string (by decide +kernel)
  have hrequest : (Request.parse line).2 = .ok .rebuild := eq_ok_of_toOption (by decide +kernel)
  have hfree : FloatFree (Request.parse line).1 := by
    rw [hid]
    exact .string "a"
  have hsize : ∀ text, scene.content = .ok text → text.length < 0x10000000000000000 := by
    intro text htext
    cases htext
    decide
  refine ⟨hfree, hsize, (response_received scene hfree hsize).2 ?_⟩
  intro question hquestion
  cases hrequest.symm.trans hquestion
  exact id

/-- **A configuration that is not there**: the response has a result, and what is received has
none. -/
theorem response_not_received_null :
    let line := "\x7b\"id\":\"a\",\"method\":\"provideBrowseConfiguration\"\x7d"
    let scene : Scene := ⟨⟨.ofFolders [], ⟨"/p/db.json"⟩, ⟨"x64", "linux"⟩⟩, .error .notFound⟩
    let response := (scene.answer line).response
    FloatFree (Request.parse line).1 ∧
      (∃ received, Response.decoder.decode (written response) = .ok received ∧
        response.result = some .null ∧ received.result = none) := by
  intro line scene response
  have hid : (Request.parse line).1 = .string "a" :=
    Request.eq_string (by decide +kernel)
  have hrequest : (Request.parse line).2 = .ok .provideBrowseConfiguration :=
    eq_ok_of_toOption (by decide +kernel)
  have hresponse : response = ⟨(Request.parse line).1, some .null, none⟩ :=
    scene.response_of_unconfigured hrequest rfl
  have hnull : ∀ v, some Json.null = some v → Returns 126 v := by
    intro v hv
    cases hv
    exact ⟨.null, .null⟩
  have hread : Response.decoder.decode (written response) = .ok ⟨.string "a", none, none⟩ := by
    rw [hresponse, hid]
    exact Response.decode_written ⟨.string "a", .string "a"⟩ hnull
  rw [hid]
  exact ⟨.string "a", _, hread, congrArg Response.result hresponse, rfl⟩

end Session

end CompileIndex
