import CompileIndex.Proofs.Correlation
import CompileIndex.Proofs.JsonOutline

/-!
# The lines that are requests

A line is a request when it is an object with a method, or an array that starts with an id and a
method.  What it asks for then depends on the method and the parameters alone: three methods need
parameters with one member of a kind, three others take whatever parameters there are, and there
are no more methods.

* `Request.Spelled`, `Request.spelled_iff` — the lines, and what is read of them;
* `Request.needs`, `Request.Carries`, `Request.Suits` — the parameters that a method needs;
* `Request.soleField_eq_ok` — the parameters that are accepted;
* `Request.ofParts_cases` — what becomes of a method and its parameters.
-/

namespace CompileIndex.Request

open Json (Fields ObjectOf ArrayOf readValue)

/-! ### Lines -/

/-- That a text starts with a value, behind one open bracket. -/
def Reads (s : List Char) (v : Json) : Prop :=
  ∃ r, readValue 126 s = .ok (v, r)

/-- That there is one member of a name, and a value is its value. -/
def Once (members : List (String × List Char)) (name : String) (v : Json) : Prop :=
  ∃ s, (members.filter fun m => m.1 = name) = [(name, s)] ∧ Reads s v

/-- That there is one member of a name and a value is its value, or there is none and the value is
null. -/
def AtMostOnce (members : List (String × List Char)) (name : String) (v : Json) : Prop :=
  ((members.filter fun m => m.1 = name) = [] ∧ v = .null) ∨ Once members name v

/-- **The lines that are requests**, with what is read of them.  An object may have any other
members besides; an array has two items or three. -/
inductive Spelled (line : String) : Raw → Prop where
  | object {members : List (String × List Char)} {id params : Json} {method : String} :
      ObjectOf line members → AtMostOnce members "id" id →
      Once members "method" (.string method) → AtMostOnce members "params" params →
      Spelled line ⟨id, method, params⟩
  | pair {s t : List Char} {id : Json} {method : String} :
      ArrayOf line [s, t] → Reads s id → Reads t (.string method) →
      Spelled line ⟨id, method, .null⟩
  | triple {s t u : List Char} {id params : Json} {method : String} :
      ArrayOf line [s, t, u] → Reads s id → Reads t (.string method) → Reads u params →
      Spelled line ⟨id, method, params⟩

/-- The fields of a line are read as values. -/
theorem Raw.readValues : Raw.fields.ReadValues :=
  ⟨Json.Decoder.readsValues_any, Json.Decoder.readsValues_text, Json.Decoder.readsValues_any,
    trivial⟩

theorem reads_string_iff {s : List Char} {method : String} :
    Reads s (.string method) ↔ ∃ r, Json.Decoder.text 126 s = .ok (method, r) :=
  exists_congr fun _ => Json.text_eq_ok.symm

/-- The members that give the fields of a line. -/
theorem Raw.given_iff (raw : Raw) {members : List (String × List Char)} :
    Raw.fields.Given 126 (raw.id, raw.method, raw.params, ()) members ↔
      AtMostOnce members "id" raw.id ∧ Once members "method" (.string raw.method) ∧
        AtMostOnce members "params" raw.params := by
  have hdefault (name : String) (v : Json) :
      (((members.filter fun m => m.1 = name) = [] ∧ some Json.null = some v) ∨
        ∃ s, (members.filter fun m => m.1 = name) = [(name, s)] ∧
          ∃ r, Json.Decoder.any 126 s = .ok (v, r)) ↔ AtMostOnce members name v := by
    rw [Option.some.injEq, eq_comm (a := Json.null)]
    exact Iff.rfl
  constructor
  · rintro ⟨hid, ⟨_, hnone⟩ | ⟨s, hone, hmethod⟩, hparams, _⟩
    · cases hnone
    · exact ⟨(hdefault _ _).1 hid, ⟨s, hone, reads_string_iff.2 hmethod⟩, (hdefault _ _).1 hparams⟩
  · rintro ⟨hid, ⟨s, hone, hmethod⟩, hparams⟩
    exact ⟨(hdefault _ _).2 hid, Or.inr ⟨s, hone, reads_string_iff.1 hmethod⟩,
      (hdefault _ _).2 hparams, trivial⟩

/-- The items that give the fields of a line. -/
theorem Raw.listed_iff (raw : Raw) {items : List (List Char)} :
    Raw.fields.Listed 126 (raw.id, raw.method, raw.params, ()) items ↔
      ∃ s t, Reads s raw.id ∧ Reads t (.string raw.method) ∧
        ((items = [s, t] ∧ raw.params = .null) ∨ ∃ u, items = [s, t, u] ∧ Reads u raw.params) := by
  constructor
  · intro h
    match items, h with
    | [], ⟨_, hnone, _⟩ => cases hnone
    | [s], ⟨_, hnone, _⟩ => cases hnone
    | [s, t], ⟨hid, hmethod, hnull, _⟩ =>
      exact ⟨s, t, hid, reads_string_iff.2 hmethod, Or.inl ⟨rfl, (Option.some.inj hnull).symm⟩⟩
    | [s, t, u], ⟨hid, hmethod, hparams, _⟩ =>
      exact ⟨s, t, hid, reads_string_iff.2 hmethod, Or.inr ⟨u, rfl, hparams⟩⟩
    | _ :: _ :: _ :: _ :: _, ⟨_, _, _, hnil⟩ => cases hnil
  · rintro ⟨s, t, hid, hmethod, ⟨rfl, hnull⟩ | ⟨u, rfl, hparams⟩⟩
    · exact ⟨hid, reads_string_iff.1 hmethod, congrArg some hnull.symm, rfl⟩
    · exact ⟨hid, reads_string_iff.1 hmethod, hparams, rfl⟩

/-- **A line is read** just when it is a request. -/
theorem spelled_iff {line : String} {raw : Raw} :
    Spelled line raw ↔ Raw.decoder.decode line = .ok raw := by
  rw [Raw.decoder_eq, Json.Decoder.record_decode_iff (by decide) Raw.readValues]
  constructor
  · intro h
    refine ⟨(raw.id, raw.method, raw.params, ()), rfl, ?_⟩
    cases h with
    | object hobject hid hmethod hparams =>
      exact Or.inr ⟨_, hobject, (Raw.given_iff _).2 ⟨hid, hmethod, hparams⟩⟩
    | pair harray hid hmethod =>
      exact Or.inl ⟨_, harray, (Raw.listed_iff _).2 ⟨_, _, hid, hmethod, Or.inl ⟨rfl, rfl⟩⟩⟩
    | triple harray hid hmethod hparams =>
      exact Or.inl ⟨_, harray, (Raw.listed_iff _).2 ⟨_, _, hid, hmethod, Or.inr ⟨_, rfl, hparams⟩⟩⟩
  · rintro ⟨⟨id, method, params, _⟩, rfl, ⟨items, harray, hlisted⟩ | ⟨members, hobject, hgiven⟩⟩
    · obtain ⟨s, t, hid, hmethod, ⟨rfl, hnull⟩ | ⟨u, rfl, hparams⟩⟩ :=
        (Raw.listed_iff ⟨id, method, params⟩).1 hlisted
      · cases hnull
        exact .pair harray hid hmethod
      · exact .triple harray hid hmethod hparams
    · obtain ⟨hid, hmethod, hparams⟩ := (Raw.given_iff ⟨id, method, params⟩).1 hgiven
      exact .object hobject hid hmethod hparams

/-! ### Parameters -/

/-- Whether a value is a string. -/
def IsText (v : Json) : Prop :=
  ∃ t, v = .string t

/-- Whether a value is an array of strings. -/
def IsTexts (v : Json) : Prop :=
  ∃ ts, v = .strings ts

/-- Whether parameters are an object with a member that fits, or an array of one value that fits. -/
def Carries (field : String) (fits : Json → Prop) (params : Json) : Prop :=
  ∃ v, (params.member? field = some v ∨ params = .array [v]) ∧ fits v

/-- **The methods that need parameters**, each with the member and what its value has to be. -/
def needs : List (String × String × (Json → Prop)) :=
  [("canProvideConfiguration", "uri", IsText), ("provideConfigurations", "uris", IsTexts),
    ("provideFolderBrowseConfiguration", "folder", IsText)]

/-- The methods that need no parameters. -/
def parameterless : List String :=
  ["canProvideBrowseConfiguration", "provideBrowseConfiguration", "rebuild"]

/-- The methods that there are. -/
def methods : List String :=
  needs.map Prod.fst ++ parameterless

/-- Whether parameters are what a method needs. -/
def Suits (method : String) (params : Json) : Prop :=
  ∀ field fits, (method, field, fits) ∈ needs → Carries field fits params

theorem exists_pathOf_iff (v : Json) : (∃ p, pathOf v = .ok p) ↔ IsText v := by
  cases v with
  | string t => exact iff_of_true ⟨⟨t⟩, rfl⟩ ⟨t, rfl⟩
  | _ => simp [pathOf, IsText]

theorem exists_mapM_pathOf_iff (items : List Json) :
    (∃ ps, items.mapM pathOf = .ok ps) ↔ ∃ ts : List String, items = ts.map .string := by
  induction items with
  | nil => exact iff_of_true ⟨[], rfl⟩ ⟨[], rfl⟩
  | cons v rest ih =>
    rw [List.mapM_cons]
    constructor
    · rintro ⟨ps, h⟩
      obtain ⟨p, hp, h⟩ := bind_eq_ok.1 h
      obtain ⟨qs, hqs, _⟩ := bind_eq_ok.1 h
      obtain ⟨t, rfl⟩ := (exists_pathOf_iff v).1 ⟨p, hp⟩
      obtain ⟨ts, rfl⟩ := ih.1 ⟨qs, hqs⟩
      exact ⟨t :: ts, rfl⟩
    · rintro ⟨ts, h⟩
      obtain ⟨t, ts, rfl, rfl, rfl⟩ := List.map_eq_cons_iff.1 h.symm
      obtain ⟨qs, hqs⟩ := ih.2 ⟨ts, rfl⟩
      exact ⟨⟨t⟩ :: qs, bind_eq_ok.2 ⟨_, rfl, bind_eq_ok.2 ⟨qs, hqs, rfl⟩⟩⟩

theorem exists_pathsOf_iff (v : Json) : (∃ ps, pathsOf v = .ok ps) ↔ IsTexts v := by
  cases v with
  | array items =>
    refine (exists_mapM_pathOf_iff items).trans (exists_congr fun ts => ?_)
    rw [Json.strings, Json.array.injEq]
  | _ => simp [pathsOf, IsTexts, Json.strings]

/-- **The parameters that are accepted**: those that carry a value that can be read. -/
theorem soleField_eq_ok {α : Type} {record field : String} {read : Json → Except Json.Cause α}
    {params : Json} {x : α} :
    soleField record field read params = .ok x ↔
      Carries field (fun v => read v = .ok x) params := by
  unfold Carries
  cases params with
  | object members =>
    simp only [soleField, Json.member?]
    cases Json.lookup field members with
    | none => simp
    | some v => simp
  | array items =>
    simp only [Json.member?]
    cases items with
    | nil => simp [soleField]
    | cons v rest =>
      rw [soleField, bind_eq_ok]
      cases rest with
      | nil => simp [pure, Except.pure]
      | cons w rest => simp
  | _ => simp [soleField, Json.member?]

theorem exists_soleField_iff {α : Type} {record field : String}
    {read : Json → Except Json.Cause α} {fits : Json → Prop} {params : Json}
    (hread : ∀ v, (∃ x, read v = .ok x) ↔ fits v) :
    (∃ x, soleField record field read params = .ok x) ↔ Carries field fits params := by
  simp only [soleField_eq_ok, Carries, ← hread]
  constructor
  · rintro ⟨x, v, hv, hx⟩
    exact ⟨v, hv, x, hx⟩
  · rintro ⟨v, hv, x, hx⟩
    exact ⟨x, v, hv, hx⟩

theorem suits_iff {method field : String} {fits : Json → Prop} {params : Json}
    (h : (method, field, fits) ∈ needs) : Suits method params ↔ Carries field fits params := by
  simp only [needs, List.mem_cons, Prod.mk.injEq, List.not_mem_nil, or_false] at h
  rcases h with ⟨rfl, rfl, rfl⟩ | ⟨rfl, rfl, rfl⟩ | ⟨rfl, rfl, rfl⟩ <;> simp [Suits, needs]

theorem suits_of_parameterless {method : String} (h : method ∈ parameterless) (params : Json) :
    Suits method params := by
  simp only [parameterless, List.mem_cons, List.not_mem_nil, or_false] at h
  rcases h with rfl | rfl | rfl <;> simp [Suits, needs]

/-- Only a method that there is needs parameters. -/
theorem mem_methods_of_not_suits {method : String} {params : Json} (h : ¬ Suits method params) :
    method ∈ methods := by
  by_contra hmethod
  refine h fun field fits hneeds => absurd ?_ hmethod
  exact List.mem_append_left parameterless (List.mem_map_of_mem hneeds)

/-- The parameters of a method are what it needs, and there is a request, or they are refused. -/
theorem checked_cases {α : Type} {method record field : String} {fits : Json → Prop}
    {read : Json → Except Json.Cause α} {make : α → Request} (params : Json)
    (hneeds : (method, field, fits) ∈ needs) (hread : ∀ v, (∃ x, read v = .ok x) ↔ fits v)
    (hmake : ∀ x, (make x).method = method) :
    let checked := ((soleField record field read params).map make).mapError
      (Error.invalidParams method)
    (¬ Suits method params ∧ ∃ cause, checked = .error (.invalidParams method cause)) ∨
      (Suits method params ∧ ∃ request, checked = .ok request ∧ request.method = method) := by
  intro checked
  rw [suits_iff hneeds, ← exists_soleField_iff hread]
  cases hsole : soleField record field read params with
  | error cause =>
    refine Or.inl ⟨?_, cause, ?_⟩
    · rintro ⟨x, hx⟩
      cases hx
    · simp only [checked, hsole]
      rfl
  | ok x =>
    refine Or.inr ⟨⟨x, rfl⟩, make x, ?_, hmake x⟩
    simp only [checked, hsole]
    rfl

/-- **What becomes of a method and its parameters.**  The method is not known, or needs other
parameters, or there is a request. -/
theorem ofParts_cases (method : String) (params : Json) :
    (method ∉ methods ∧ ofParts method params = .error (.unknownMethod method)) ∨
    (method ∈ methods ∧ ¬ Suits method params ∧
      ∃ cause, ofParts method params = .error (.invalidParams method cause)) ∨
    (method ∈ methods ∧ Suits method params ∧
      ∃ request, ofParts method params = .ok request ∧ request.method = method) := by
  by_cases hmethod : method ∈ methods
  · right
    simp only [hmethod, true_and]
    rcases List.mem_append.1 hmethod with hneeds | hless
    · simp only [needs, List.map_cons, List.map_nil, List.mem_cons, List.not_mem_nil,
        or_false] at hneeds
      rcases hneeds with rfl | rfl | rfl
      · exact checked_cases params (by simp [needs]) exists_pathOf_iff fun _ => rfl
      · exact checked_cases params (by simp [needs]) exists_pathsOf_iff fun _ => rfl
      · exact checked_cases params (by simp [needs]) exists_pathOf_iff fun _ => rfl
    · right
      refine ⟨suits_of_parameterless hless params, ?_⟩
      simp only [parameterless, List.mem_cons, List.not_mem_nil, or_false] at hless
      rcases hless with rfl | rfl | rfl
      · exact ⟨.canProvideBrowseConfiguration, rfl, rfl⟩
      · exact ⟨.provideBrowseConfiguration, rfl, rfl⟩
      · exact ⟨.rebuild, rfl, rfl⟩
  · left
    refine ⟨hmethod, ?_⟩
    simp only [methods, needs, parameterless, List.map_cons, List.map_nil, List.mem_append,
      List.mem_cons, List.not_mem_nil, or_false, not_or] at hmethod
    simp [ofParts, hmethod]

/-- The parameters of a method that needs none do not count. -/
theorem ofParts_of_parameterless {method : String} (h : method ∈ parameterless)
    (params other : Json) : ofParts method params = ofParts method other := by
  simp only [parameterless, List.mem_cons, List.not_mem_nil, or_false] at h
  rcases h with rfl | rfl | rfl <;> rfl

end CompileIndex.Request
