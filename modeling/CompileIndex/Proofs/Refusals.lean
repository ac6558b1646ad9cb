import CompileIndex.Proofs.RequestLines

/-!
# How lines are refused

A line ends in a result or in one of four refusals: it is no request, its method is not known, its
parameters are not what the method needs, or it is a rebuild and there is no database to load.
Which of them it is depends on the line and the content of the database file alone, every line ends
in one way, and a refusal leaves everything as it was.

* `Session.Refusal`, `Session.Refusal.code` — the refusals and their numbers;
* `Session.Loadable` — the contents of a database file that can be loaded;
* `Session.Scene.Ends` — how a line ends;
* `Session.Scene.Ends.answer`, `Session.Scene.exists_ends` — what is answered then, for every line;
* `Session.Scene.code_eq_iff` — the number of the error shows how the line ended;
* `Session.refusals_exact` — the numbers, one by one.
-/

namespace CompileIndex.Session

open Request (Raw Spelled Suits methods needs parameterless)

/-! ### Databases -/

/-- Whether the content of a database file can be loaded: a text that is an array. -/
def Loadable (content : Except FileError String) : Prop :=
  ∃ text items, content = .ok text ∧ Json.parse text = .ok (.array items)

theorem exists_load_iff (path : Path) (content : Except FileError String) :
    (∃ db, Database.load path content = .ok db) ↔ Loadable content := by
  unfold Database.load Loadable
  cases content with
  | error cause => simp
  | ok text =>
    cases hparse : Json.parse text with
    | error fault => simp [hparse]
    | ok v => cases v <;> simp [hparse, Database.ofJson]

/-! ### Endings -/

/-- The ways in which a line is refused. -/
inductive Refusal where
  | noRequest | unknownMethod | unfitParams | noDatabase
  deriving DecidableEq

/-- The number of a refusal. -/
def Refusal.code : Refusal → Int64
  | noRequest => -32700
  | unknownMethod => -32601
  | unfitParams => -32602
  | noDatabase => -32000

theorem Refusal.code_injective {r s : Refusal} (h : r.code = s.code) : r = s := by
  cases r <;> cases s <;> first | rfl | exact absurd h (by decide)

namespace Scene

/-- **How a line ends**: in a refusal, or in a result. -/
inductive Ends (scene : Scene) (line : String) : Option Refusal → Prop where
  | noRequest : (∀ raw, ¬ Spelled line raw) → Ends scene line (some .noRequest)
  | unknownMethod {raw : Raw} : Spelled line raw → raw.method ∉ methods →
      Ends scene line (some .unknownMethod)
  | unfitParams {raw : Raw} : Spelled line raw → ¬ Suits raw.method raw.params →
      Ends scene line (some .unfitParams)
  | noDatabase {raw : Raw} : Spelled line raw → raw.method = "rebuild" →
      ¬ Loadable scene.content → Ends scene line (some .noDatabase)
  | result {raw : Raw} : Spelled line raw → raw.method ∈ methods → Suits raw.method raw.params →
      (raw.method = "rebuild" → Loadable scene.content) → Ends scene line none

variable {scene : Scene} {line : String} {raw : Raw}

theorem parse_of_spelled (h : Spelled line raw) :
    Request.parse line = (raw.id, Request.ofParts raw.method raw.params) := by
  rw [Request.parse, Request.spelled_iff.1 h]

/-- **Every line ends** in one of the ways. -/
theorem exists_ends (scene : Scene) (line : String) : ∃ e, scene.Ends line e := by
  by_cases hrequest : ∃ raw, Spelled line raw
  · obtain ⟨raw, hraw⟩ := hrequest
    rcases Request.ofParts_cases raw.method raw.params with
      ⟨hmethod, _⟩ | ⟨_, hsuits, _⟩ | ⟨hmethod, hsuits, _⟩
    · exact ⟨_, .unknownMethod hraw hmethod⟩
    · exact ⟨_, .unfitParams hraw hsuits⟩
    · by_cases hload : raw.method = "rebuild" → Loadable scene.content
      · exact ⟨_, .result hraw hmethod hsuits hload⟩
      · obtain ⟨hrebuild, hnone⟩ := Classical.not_imp.1 hload
        exact ⟨_, .noDatabase hraw hrebuild hnone⟩
  · exact ⟨_, .noRequest fun raw hraw => hrequest ⟨raw, hraw⟩⟩

/-- What is answered when a line ends so: the number of the refusal, and nothing is changed, or a
result. -/
def AnswersAs (scene : Scene) (line : String) : Option Refusal → Prop
  | some refusal =>
    (scene.answer line).response.result = none ∧
      (scene.answer line).response.error.map ErrorBody.code = some refusal.code ∧
      (scene.answer line).session = scene.session
  | none =>
    (scene.answer line).response.result.isSome ∧ (scene.answer line).response.error = none

/-- A line that holds no request is refused with the number of the error. -/
theorem answersAs_of_error {e : Request.Error} {refusal : Refusal}
    (h : (Request.parse line).2 = .error e) (hcode : e.code = refusal.code) :
    scene.AnswersAs line (some refusal) := by
  have hanswer := scene.answer_eq line
  simp only [h] at hanswer
  rw [AnswersAs, hanswer]
  exact ⟨rfl, congrArg some hcode, rfl⟩

/-- **What is answered** goes by the way in which the line ends. -/
theorem Ends.answer {e : Option Refusal} (h : scene.Ends line e) : scene.AnswersAs line e := by
  cases h with
  | noRequest hnone =>
    cases hdecode : Raw.decoder.decode line with
    | ok raw => exact absurd (Request.spelled_iff.2 hdecode) (hnone raw)
    | error fault =>
      have hparse : (Request.parse line).2 = .error (.notJson line.toList fault) := by
        rw [Request.parse, hdecode]
      exact answersAs_of_error hparse rfl
  | @unknownMethod raw hraw hmethod =>
    have hparts := congrArg Prod.snd (parse_of_spelled hraw)
    rcases Request.ofParts_cases raw.method raw.params with ⟨_, herror⟩ | ⟨hmem, _⟩ | ⟨hmem, _⟩
    · exact answersAs_of_error (hparts.trans herror) rfl
    · exact absurd hmem hmethod
    · exact absurd hmem hmethod
  | @unfitParams raw hraw hsuits =>
    have hparts := congrArg Prod.snd (parse_of_spelled hraw)
    rcases Request.ofParts_cases raw.method raw.params with
      ⟨hmethod, _⟩ | ⟨_, _, cause, herror⟩ | ⟨_, hsuited, _⟩
    · exact absurd (Request.mem_methods_of_not_suits hsuits) hmethod
    · exact answersAs_of_error (hparts.trans herror) rfl
    · exact absurd hsuited hsuits
  | @noDatabase raw hraw hrebuild hload =>
    have hrequest : (Request.parse line).2 = .ok .rebuild := by
      rw [parse_of_spelled hraw, hrebuild]
      rfl
    rcases scene.answer_cases line with ⟨e, he, _⟩ | ⟨question, _, hq, hne, _⟩ |
      ⟨e, _, _, hanswer⟩ | ⟨db, _, hdb, _⟩
    · cases hrequest.symm.trans he
    · cases hrequest.symm.trans hq
      exact absurd rfl hne
    · rw [AnswersAs, hanswer]
      exact ⟨rfl, rfl, rfl⟩
    · exact absurd ((exists_load_iff _ _).1 ⟨db, hdb⟩) hload
  | @result raw hraw hmethod hsuits hload =>
    have hparts := congrArg Prod.snd (parse_of_spelled hraw)
    rcases Request.ofParts_cases raw.method raw.params with
      ⟨hunknown, _⟩ | ⟨_, hunfit, _⟩ | ⟨_, _, request, hok, hname⟩
    · exact absurd hmethod hunknown
    · exact absurd hsuits hunfit
    have hrequest := hparts.trans hok
    rcases scene.answer_cases line with ⟨e, he, _⟩ | ⟨question, _, _, _, _, hanswer⟩ |
      ⟨e, hr, he, _⟩ | ⟨db, _, _, hanswer⟩
    · cases hrequest.symm.trans he
    · rw [AnswersAs, hanswer]
      exact ⟨rfl, rfl⟩
    · cases hrequest.symm.trans hr
      obtain ⟨db, hdb⟩ := (exists_load_iff scene.session.databasePath _).2 (hload hname.symm)
      cases he.symm.trans hdb
    · rw [AnswersAs, hanswer]
      exact ⟨rfl, rfl⟩

/-! ### Numbers -/

variable (scene : Scene) (line : String)

/-- The number of the error, if the answer is one. -/
def code : Option Int64 :=
  (scene.answer line).response.error.map ErrorBody.code

/-- A line ends in one refusal at most, which the number shows. -/
theorem code_eq_iff (refusal : Refusal) :
    scene.code line = some refusal.code ↔ scene.Ends line (some refusal) := by
  refine ⟨fun hcode => ?_, fun h => h.answer.2.1⟩
  obtain ⟨e, he⟩ := scene.exists_ends line
  cases e with
  | none => cases (congrArg (Option.map ErrorBody.code) he.answer.2).symm.trans hcode
  | some other =>
    obtain rfl := Refusal.code_injective (Option.some.inj (he.answer.2.1.symm.trans hcode))
    exact he

theorem isSome_result_iff :
    (scene.answer line).response.result.isSome ↔ scene.Ends line none := by
  refine ⟨fun hresult => ?_, fun h => h.answer.1⟩
  obtain ⟨e, he⟩ := scene.exists_ends line
  cases e with
  | none => exact he
  | some refusal =>
    rw [he.answer.1] at hresult
    cases hresult

/-- **A result or an error**, and not both. -/
theorem isSome_result_iff_error_eq_none :
    (scene.answer line).response.result.isSome ↔ (scene.answer line).response.error = none := by
  refine ⟨fun hresult => ((scene.isSome_result_iff line).1 hresult).answer.2, fun hnone => ?_⟩
  obtain ⟨e, he⟩ := scene.exists_ends line
  cases e with
  | none => exact he.answer.1
  | some refusal =>
    cases (congrArg (Option.map ErrorBody.code) hnone).symm.trans he.answer.2.1

/-- **An error changes nothing.** -/
theorem session_of_error (h : (scene.answer line).response.error ≠ none) :
    (scene.answer line).session = scene.session := by
  obtain ⟨e, he⟩ := scene.exists_ends line
  cases e with
  | none => exact absurd he.answer.2 h
  | some refusal => exact he.answer.2.2

theorem code_noRequest_iff : scene.code line = some (-32700) ↔ ∀ raw, ¬ Spelled line raw := by
  refine (scene.code_eq_iff line .noRequest).trans ⟨fun h => ?_, .noRequest⟩
  cases h with
  | noRequest hnone => exact hnone

theorem code_unknownMethod_iff :
    scene.code line = some (-32601) ↔ ∃ raw, Spelled line raw ∧ raw.method ∉ methods := by
  refine (scene.code_eq_iff line .unknownMethod).trans ⟨fun h => ?_, ?_⟩
  · cases h with
    | unknownMethod hraw hmethod => exact ⟨_, hraw, hmethod⟩
  · rintro ⟨raw, hraw, hmethod⟩
    exact .unknownMethod hraw hmethod

theorem code_unfitParams_iff :
    scene.code line = some (-32602) ↔
      ∃ raw, Spelled line raw ∧ ¬ Suits raw.method raw.params := by
  refine (scene.code_eq_iff line .unfitParams).trans ⟨fun h => ?_, ?_⟩
  · cases h with
    | unfitParams hraw hsuits => exact ⟨_, hraw, hsuits⟩
  · rintro ⟨raw, hraw, hsuits⟩
    exact .unfitParams hraw hsuits

theorem code_noDatabase_iff :
    scene.code line = some (-32000) ↔
      ∃ raw, Spelled line raw ∧ raw.method = "rebuild" ∧ ¬ Loadable scene.content := by
  refine (scene.code_eq_iff line .noDatabase).trans ⟨fun h => ?_, ?_⟩
  · cases h with
    | noDatabase hraw hrebuild hload => exact ⟨_, hraw, hrebuild, hload⟩
  · rintro ⟨raw, hraw, hrebuild, hload⟩
    exact .noDatabase hraw hrebuild hload

theorem ends_none_iff :
    scene.Ends line none ↔ ∃ raw, Spelled line raw ∧ raw.method ∈ methods ∧
      Suits raw.method raw.params ∧ (raw.method = "rebuild" → Loadable scene.content) := by
  constructor
  · intro h
    cases h with
    | result hraw hmethod hsuits hload => exact ⟨_, hraw, hmethod, hsuits, hload⟩
  · rintro ⟨raw, hraw, hmethod, hsuits, hload⟩
    exact .result hraw hmethod hsuits hload

/-- **Parameters that are not needed** make no difference. -/
theorem answer_of_parameterless {raw : Raw} {other : String} {params : Json}
    (hraw : Spelled line raw) (hless : raw.method ∈ parameterless)
    (hother : Spelled other { raw with params }) : scene.answer other = scene.answer line := by
  have hparse : Request.parse other = Request.parse line := by
    rw [parse_of_spelled hraw, parse_of_spelled hother,
      Request.ofParts_of_parameterless hless params raw.params]
  rw [scene.answer_eq other, scene.answer_eq line, hparse]

end Scene

/-- **How lines are refused.**  For every line, every session and every content of the database file
there is a result or an error, and not both.

* The number of an error says why: the line is no request, its method is not known, its parameters
  are not what the method needs, or it is a rebuild and the database cannot be loaded.  In all other
  cases there is a result.
* Requests of a method that needs no parameters are answered alike, whatever their parameters are.
* An error changes nothing. -/
theorem refusals_exact (scene : Scene) (line : String) :
    let answer := scene.answer line
    let code := answer.response.error.map ErrorBody.code
    (answer.response.result.isSome ↔ answer.response.error = none) ∧
    (code = some (-32700) ↔ ∀ raw, ¬ Spelled line raw) ∧
    (code = some (-32601) ↔ ∃ raw, Spelled line raw ∧ raw.method ∉ methods) ∧
    (code = some (-32602) ↔ ∃ raw, Spelled line raw ∧ ∃ field fits,
      (raw.method, field, fits) ∈ needs ∧ ¬ Request.Carries field fits raw.params) ∧
    (code = some (-32000) ↔ ∃ raw, Spelled line raw ∧ raw.method = "rebuild" ∧
      ¬ Loadable scene.content) ∧
    (answer.response.result.isSome ↔ ∃ raw, Spelled line raw ∧ raw.method ∈ methods ∧
      Suits raw.method raw.params ∧ (raw.method = "rebuild" → Loadable scene.content)) ∧
    (∀ raw other params, Spelled line raw → raw.method ∈ parameterless →
      Spelled other { raw with params } → scene.answer other = answer) ∧
    (answer.response.error ≠ none → answer.session = scene.session) := by
  intro answer code
  have hunsuited (raw : Raw) : ¬ Suits raw.method raw.params ↔ ∃ field fits,
      (raw.method, field, fits) ∈ needs ∧ ¬ Request.Carries field fits raw.params := by
    simp only [Suits, not_forall, exists_prop]
  refine ⟨scene.isSome_result_iff_error_eq_none line, scene.code_noRequest_iff line,
    scene.code_unknownMethod_iff line, ?_, scene.code_noDatabase_iff line,
    (scene.isSome_result_iff line).trans (scene.ends_none_iff line), ?_,
    scene.session_of_error line⟩
  · simp only [← hunsuited]
    exact scene.code_unfitParams_iff line
  · intro raw other params hraw hless hother
    exact scene.answer_of_parameterless line hraw hless hother

/-- Parameters of a wrong kind are refused where they are needed, and do not matter elsewhere. -/
example :
    let scene : Scene := ⟨⟨.ofFolders [], ⟨"/p/db.json"⟩, ⟨"x64", "linux"⟩⟩, .error .notFound⟩
    let code line := (scene.answer line).response.error.map ErrorBody.code
    code "[1, \"canProvideConfiguration\", [7]]" = some (-32602) ∧
      code "[1, \"canProvideBrowseConfiguration\", [7]]" = none ∧
      code "[1, \"rebuild\"]" = some (-32000) := by
  decide +kernel

end CompileIndex.Session
