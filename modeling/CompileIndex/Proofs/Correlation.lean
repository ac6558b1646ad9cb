import CompileIndex.Proofs.JsonMembers
import CompileIndex.Proofs.JsonShapes
import CompileIndex.Proofs.SessionRun

/-!
# Responses and their requests

A host finds the request of a response by its id.  The id of a line is that of the object on it,
whatever the other members are, and however the request fails, as long as the method is a string.
A line whose method is missing, or is something else than a string, is refused as no request at
all, and its id with it.

* `Json.membersOf` — the members of an object, in the order of the text;
* `Json.parse_of_members` — the object that has them;
* `Request.raw_of_members`, `Request.no_raw_of_members` — what a line with such an object is;
* `Session.response_id` — the id of the response.
-/

namespace CompileIndex

namespace Json

/-! ### The members of an object -/

/-- A member put behind those before it. -/
def keep (name : String) (v : Json) (members : List (String × Json)) : List (String × Json) :=
  members ++ [(name, v)]

/-- The members of the object that a text is, in the order of the text; a name may come several
times. -/
def membersOf (text : String) : Except Fault (List (String × Json)) :=
  (Decoder.table .any keep []).decode text

theorem membersOf_eq_ok {text : String} {members : List (String × Json)} :
    membersOf text = .ok members ↔
      ∃ names r, ObjectText (putMember (readValue 126) keep) [] text.toList names members r ∧
        skipBlanks r = [] := by
  rw [membersOf, Decoder.decode, readWhole_eq_ok]
  constructor
  · rintro ⟨r, htable, hr⟩
    obtain ⟨d, names, hdepth, htext⟩ := table_eq_ok.1 htable
    cases hdepth
    exact ⟨names, r, htext, hr⟩
  · rintro ⟨names, r, htext, hr⟩
    exact ⟨r, table_eq_ok.2 ⟨126, names, rfl, htext⟩, hr⟩

/-- Members are kept in order, and with their names. -/
theorem MembersText.kept {item : List Char → Except Fault (Json × List Char)} {first : Bool}
    {members members' : List (String × Json)} {s r : List Char} {names : List String}
    (h : MembersText (putMember item keep) first members s names members' r) :
    ∃ more, members' = members ++ more ∧ more.map Prod.fst = names := by
  induction h with
  | close => exact ⟨[], (List.append_nil _).symm, rfl⟩
  | member _ _ hread _ ih =>
    obtain ⟨t, v, _, _, rfl⟩ := putMember_eq_ok.1 hread
    obtain ⟨more, hmore, hnames⟩ := ih
    refine ⟨(_, v) :: more, ?_, by rw [List.map_cons, hnames]⟩
    rw [hmore, keep, List.append_assoc, List.singleton_append]

/-- Members kept in order, or sorted while they are read. -/
theorem MembersText.sorted {item : List Char → Except Fault (Json × List Char)} {first : Bool}
    {members members' : List (String × Json)} {s r : List Char} {names : List String}
    (h : MembersText (putMember item keep) first members s names members' r) :
    MembersText (putMember item insert) first (sortMembers members) s names
      (sortMembers members') r := by
  induction h with
  | close hclose => exact .close hclose
  | member hopens hname hread _ ih =>
    obtain ⟨t, v, hcolon, hitem, rfl⟩ := putMember_eq_ok.1 hread
    rw [keep, sortMembers_append] at ih
    exact .member hopens hname (putMember_eq_ok.2 ⟨t, v, hcolon, hitem, rfl⟩) ih

/-- **The object that has the members.** -/
theorem parse_of_members {text : String} {members : List (String × Json)}
    (h : membersOf text = .ok members) : parse text = .ok (object (sortMembers members)) := by
  obtain ⟨names, r, ⟨t, hs, hlength, htext⟩, hr⟩ := membersOf_eq_ok.1 h
  have hobject : readValue 127 text.toList = .ok (object (sortMembers members), r) :=
    (readValue_object hs).2 ⟨126, names, _, rfl, rfl, t, hs, hlength, htext.sorted⟩
  exact readWhole_eq_ok.2 ⟨r, hobject, hr⟩

theorem lookup_keep (name k : String) (v : Json) (members : List (String × Json)) :
    lookup k (keep name v members) = (lookup k members).or (if name = k then some v else none) :=
  lookup_append k members [(name, v)]

end Json

namespace Request

open Json (Fields MembersText putMember keep lookup membersOf readValue)

/-! ### The request of an object -/

/-- The fields of a line. -/
def Raw.fields : Fields (Option Json × Option String × Option Json × Unit)
    (Json × String × Json × Unit) :=
  .cons (.withDefault "id" .any .null)
    (.cons (.required "method" .text) (.cons (.withDefault "params" .any .null) .nil))

theorem Raw.decoder_eq :
    Raw.decoder = .record "RawRequest" Raw.fields
      fun (id, method, params, _) => ⟨id, method, params⟩ :=
  rfl

/-- The string that a value is. -/
def string? : Json → Option String
  | .string m => some m
  | _ => none

theorem eq_string {v : Json} {m : String} (h : string? v = some m) : v = .string m := by
  cases v with
  | string n =>
    cases h
    rfl
  | _ => cases h

/-- The fields that are read when the members are. -/
def Raw.read (members : List (String × Json)) :
    Option Json × Option String × Option Json × Unit :=
  (lookup "id" members, (lookup "method" members).bind string?, lookup "params" members, ())

/-- A member that is new, and is a string if it is the method, is read into the fields. -/
theorem Raw.readMember_keep {depth : Nat} {members : List (String × Json)} {name : String}
    {v : Json} {s t r : List Char} (hcolon : Json.readColon s = .ok t)
    (hvalue : readValue depth t = .ok (v, r)) (hnew : lookup name members = none)
    (hmethod : name = "method" → ∃ m, v = .string m) :
    Raw.fields.readMember depth (Raw.read members) name s =
      .ok (Raw.read (keep name v members), r) := by
  unfold Raw.read
  simp only [Json.lookup_keep]
  by_cases hid : name = "id"
  · subst hid
    refine (Fields.readMember_same rfl).2 ⟨hnew, t, v, hcolon, hvalue, ?_⟩
    simp [hnew]
  by_cases hm : name = "method"
  · subst hm
    obtain ⟨m, rfl⟩ := hmethod rfl
    refine (Fields.readMember_other hid).2 ⟨_, (Fields.readMember_same rfl).2
      ⟨by simp [hnew], t, m, hcolon, Json.text_eq_ok.2 hvalue, rfl⟩, ?_⟩
    simp [hnew, string?]
  by_cases hp : name = "params"
  · subst hp
    refine (Fields.readMember_other hid).2 ⟨_, (Fields.readMember_other hm).2
      ⟨_, (Fields.readMember_same rfl).2 ⟨hnew, t, v, hcolon, hvalue, rfl⟩, rfl⟩, ?_⟩
    simp [hnew]
  · refine (Fields.readMember_other hid).2 ⟨_, (Fields.readMember_other hm).2
      ⟨_, (Fields.readMember_other hp).2 ⟨(), Fields.readMember_nil.2
        ⟨t, hcolon, Json.skipAny_of_readValue hvalue⟩, rfl⟩, rfl⟩, ?_⟩
    simp [hid, hm, hp]

/-- A member that can be read as a value is read into the fields only when it is not the method,
or is a string and the only one. -/
theorem Raw.readMember_ok {depth : Nat} {name : String} {v : Json} {s t r u : List Char}
    {read read' : Option Json × Option String × Option Json × Unit}
    (hcolon : Json.readColon s = .ok t) (hvalue : readValue depth t = .ok (v, r))
    (h : Raw.fields.readMember depth read name s = .ok (read', u)) :
    r = u ∧ (name ≠ "method" → read'.2.1 = read.2.1) ∧
      (name = "method" → read.2.1 = none ∧ ∃ m, v = .string m ∧ read'.2.1 = some m) := by
  by_cases hid : name = "id"
  · obtain ⟨_, t', x, hcolon', hread, rfl⟩ := (Fields.readMember_same hid).1 h
    cases hcolon'.symm.trans hcolon
    cases hread.symm.trans hvalue
    exact ⟨rfl, fun _ => rfl, fun hm => absurd (hid.symm.trans hm) (by decide)⟩
  obtain ⟨behindId, hrest, rfl⟩ := (Fields.readMember_other hid).1 h
  by_cases hm : name = "method"
  · obtain ⟨hnone, t', x, hcolon', hread, rfl⟩ := (Fields.readMember_same hm).1 hrest
    cases hcolon'.symm.trans hcolon
    cases (Json.text_eq_ok.1 hread).symm.trans hvalue
    exact ⟨rfl, fun hne => absurd hm hne, fun _ => ⟨hnone, x, rfl, rfl⟩⟩
  obtain ⟨behindMethod, hlast, rfl⟩ := (Fields.readMember_other hm).1 hrest
  refine ⟨?_, fun _ => rfl, fun heq => absurd heq hm⟩
  by_cases hp : name = "params"
  · obtain ⟨_, t', x, hcolon', hread, _⟩ := (Fields.readMember_same hp).1 hlast
    cases hcolon'.symm.trans hcolon
    cases hread.symm.trans hvalue
    rfl
  · obtain ⟨_, hunknown, _⟩ := (Fields.readMember_other hp).1 hlast
    obtain ⟨t', hcolon', hskip⟩ := Fields.readMember_nil.1 hunknown
    cases hcolon'.symm.trans hcolon
    cases hskip.symm.trans (Json.skipAny_of_readValue hvalue)
    rfl

/-- The members of an object without repeated names are read into the fields, if the method is a
string or missing. -/
theorem Raw.readMembers_kept {depth : Nat} {first : Bool} {members members' : List (String × Json)}
    {s r : List Char} {names : List String}
    (h : MembersText (putMember (readValue depth) keep) first members s names members' r)
    (hnames : (members'.map Prod.fst).Nodup)
    (hmethod : ∀ v, lookup "method" members' = some v → ∃ m, v = .string m) :
    MembersText (Raw.fields.readMember depth) first (Raw.read members) s names
      (Raw.read members') r := by
  induction h with
  | close hclose => exact .close hclose
  | @member _ members _ _ _ _ _ _ _ cs _ hopens hname hread hrest ih =>
    obtain ⟨t, v, hcolon, hvalue, rfl⟩ := Json.putMember_eq_ok.1 hread
    -- What is kept later stands behind this member, so its name is new and it stays.
    obtain ⟨more, rfl, _⟩ := hrest.kept
    have hnew : lookup (String.ofList cs) members = none := by
      apply Json.lookup_of_not_mem
      intro hmem
      rw [keep, List.append_assoc, List.map_append, List.nodup_append] at hnames
      exact hnames.2.2 _ hmem _ List.mem_cons_self rfl
    have hstring (hm : String.ofList cs = "method") : ∃ m, v = .string m := by
      apply hmethod
      rw [Json.lookup_append, Json.lookup_keep, ← hm, hnew, if_pos rfl]
      rfl
    exact .member hopens hname (Raw.readMember_keep hcolon hvalue hnew hstring)
      (ih hnames hmethod)

/-- The method that is read into the fields is the method that is kept. -/
theorem Raw.method_of_readMembers {depth : Nat} {s r r' : List Char}
    {names names' : List String} {members : List (String × Json)}
    {read : Option Json × Option String × Option Json × Unit}
    (h : MembersText (putMember (readValue depth) keep) true [] s names members r)
    (h' : MembersText (Raw.fields.readMember depth) true Raw.fields.start s names' read r') :
    lookup "method" members = read.2.1.map .string := by
  let R (members : List (String × Json))
      (read : Option Json × Option String × Option Json × Unit) : Prop :=
    lookup "method" members = read.2.1.map .string
  have hstep {g h name s g₁ h₁ t u}
      (hkeep : putMember (readValue depth) keep g name s = .ok (g₁, t))
      (hread : Raw.fields.readMember depth h name s = .ok (h₁, u)) (hR : R g h) :
      R g₁ h₁ ∧ t = u := by
    obtain ⟨p, v, hcolon, hvalue, rfl⟩ := Json.putMember_eq_ok.1 hkeep
    obtain ⟨htu, hother, hmethod⟩ := Raw.readMember_ok hcolon hvalue hread
    refine ⟨?_, htu⟩
    simp only [R, Json.lookup_keep] at hR ⊢
    by_cases hname : name = "method"
    · obtain ⟨hnone, m, rfl, hm⟩ := hmethod hname
      rw [if_pos hname, hR, hnone, hm]
      rfl
    · rw [if_neg hname, Option.or_none, hR, hother hname]
  exact (h.agree hstep h' rfl).1

/-- Fields without a method are not enough. -/
theorem Raw.method_of_finish {read : Option Json × Option String × Option Json × Unit}
    {value : Json × String × Json × Unit} (h : Raw.fields.finish read = .ok value) :
    read.2.1 = some value.2.1 := by
  obtain ⟨id, method, params, _⟩ := read
  cases method with
  | none => cases id <;> cases h
  | some m => cases id <;> cases params <;> cases h <;> rfl

variable {line : String} {members : List (String × Json)}

/-- **A line with an object whose method is a string** is read, when no name comes twice. -/
theorem raw_of_members (hline : membersOf line = .ok members)
    (hnames : (members.map Prod.fst).Nodup) {m : String}
    (hmethod : lookup "method" members = some (.string m)) :
    Raw.decoder.decode line =
      .ok ⟨(lookup "id" members).getD .null, m, (lookup "params" members).getD .null⟩ := by
  obtain ⟨names, r, ⟨t, hs, hlength, htext⟩, hr⟩ := Json.membersOf_eq_ok.1 hline
  have hread := Raw.readMembers_kept htext hnames (by
    intro v hv
    cases hv.symm.trans hmethod
    exact ⟨m, rfl⟩)
  refine Json.readWhole_eq_ok.2 ⟨r, ?_, hr⟩
  rw [Raw.decoder_eq]
  refine Json.record_eq_ok.2 ⟨126, ((lookup "id" members).getD .null, m,
    (lookup "params" members).getD .null, ()), rfl, rfl,
    Or.inr ⟨names, Raw.read members, ⟨t, hs, hlength, hread⟩, ?_⟩⟩
  unfold Raw.read
  rw [hmethod]
  cases lookup "id" members <;> cases lookup "params" members <;> rfl

/-- **A line with an object whose method is no string, or missing,** is not read. -/
theorem no_raw_of_members (hline : membersOf line = .ok members)
    (hmethod : ∀ m, lookup "method" members ≠ some (.string m)) :
    ∃ fault, Raw.decoder.decode line = .error fault := by
  cases hraw : Raw.decoder.decode line with
  | error fault => exact ⟨fault, rfl⟩
  | ok raw =>
    obtain ⟨names, r, ⟨t, hs, _, htext⟩, _⟩ := Json.membersOf_eq_ok.1 hline
    obtain ⟨r', hrecord, _⟩ := Json.readWhole_eq_ok.1 hraw
    rw [Raw.decoder_eq] at hrecord
    obtain ⟨d, value, hdepth, _, ⟨_, _, hs', _⟩ | ⟨names', read, ⟨t', hs', _, htext'⟩, hfinish⟩⟩ :=
      Json.record_eq_ok.1 hrecord
    · cases hs.symm.trans hs'
    · cases hdepth
      cases hs.symm.trans hs'
      have hkept := Raw.method_of_readMembers htext htext'
      rw [Raw.method_of_finish hfinish] at hkept
      exact absurd hkept (hmethod value.2.1)

end Request

namespace Session

/-! ### The id of a response -/

/-- A response has the id that was found in its line. -/
theorem Scene.response_id (scene : Scene) (line : String) :
    (scene.answer line).response.id = (Request.parse line).1 := by
  rcases scene.answer_cases line with ⟨e, _, ha⟩ | ⟨question, result, _, _, _, ha⟩ |
    ⟨e, _, _, ha⟩ | ⟨db, _, _, ha⟩
  · exact congrArg (fun a => a.response.id) ha
  · exact congrArg (fun a => a.response.id) ha
  · exact congrArg (fun a => a.response.id) ha
  · exact congrArg (fun a => a.response.id) ha

/-- A line that cannot be read is refused, without an id, and nothing is touched. -/
theorem handle_unread {m : Type → Type} [Monad m] (readDatabase : m (Except FileError String))
    (s : Session) {line : String} {fault : Json.Fault}
    (h : Request.Raw.decoder.decode line = .error fault) :
    handle readDatabase s line = pure (s.fail .null [] (.notJson line.toList fault)) := by
  have hparse : Request.parse line = (.null, .error (.notJson line.toList fault)) := by
    rw [Request.parse, h]
  unfold handle
  rw [hparse]

/-- **Responses and their requests.**  On a line that is an object without repeated names, the
method is a string, and then the response has the id of the object, null if it has none, whatever
the method and the other members are and however the request ends; or the method is something
else or missing, and then the line is refused with the id null and changes nothing. -/
theorem response_correlated (scene : Scene) {line : String} {members : List (String × Json)}
    (hline : Json.membersOf line = .ok members) (hnames : (members.map Prod.fst).Nodup) :
    let object := Json.object (Json.sortMembers members)
    let answer := scene.answer line
    Json.parse line = .ok object ∧
      ((∃ m, object.member? "method" = some (.string m)) →
        answer.response.id = (object.member? "id").getD .null) ∧
      ((∀ m, object.member? "method" ≠ some (.string m)) →
        answer.session = scene.session ∧
          ∃ message, answer.response = ⟨.null, none, some ⟨-32700, message⟩⟩) := by
  intro object answer
  have hmember := Json.member?_sortMembers hnames
  refine ⟨Json.parse_of_members hline, ?_, ?_⟩
  · rintro ⟨m, hmethod⟩
    rw [hmember] at hmethod
    rw [hmember, scene.response_id line, Request.parse,
      Request.raw_of_members hline hnames hmethod]
  · intro hmethod
    obtain ⟨fault, hraw⟩ := Request.no_raw_of_members hline fun m => hmember "method" ▸ hmethod m
    have hanswer : answer = scene.session.fail .null [] (.notJson line.toList fault) :=
      congrArg Id.run (handle_unread _ scene.session hraw)
    rw [hanswer]
    exact ⟨rfl, _, rfl⟩

/-- What is read, when something decidable about it is known. -/
theorem exists_ok_of_toOption_map {ε α β : Type} {x : Except ε α} {view : α → β} {b : β}
    (h : x.toOption.map view = some b) : ∃ a, x = .ok a ∧ view a = b := by
  cases x with
  | error e => cases h
  | ok a => exact ⟨a, rfl, Option.some.inj h⟩

/-- What can be decided about some members: their names, the text of the id, and the method. -/
def outline (members : List (String × Json)) :
    List String × Option String × Option String :=
  (members.map Prod.fst, (Json.lookup "id" members).map Json.text,
    (Json.lookup "method" members).bind Request.string?)

/-- An unknown method: the error has the id of the object. -/
theorem response_correlated_unknown_method :
    let line := "\x7b\"id\":5,\"method\":\"sing\"\x7d"
    let scene : Scene := ⟨⟨.ofFolders [], ⟨"/p/db.json"⟩, ⟨"x64", "linux"⟩⟩, .error .notFound⟩
    ∃ members, Json.membersOf line = .ok members ∧ (members.map Prod.fst).Nodup ∧
      (scene.answer line).response.id.text = "5" := by
  intro line scene
  have hview : (Json.membersOf line).toOption.map outline =
      some (["id", "method"], some "5", some "sing") := by decide +kernel
  obtain ⟨members, hline, houtline⟩ := exists_ok_of_toOption_map hview
  simp only [outline, Prod.mk.injEq] at houtline
  obtain ⟨hnames, hid, hmethod⟩ := houtline
  have hnodup : (members.map Prod.fst).Nodup := by
    rw [hnames]
    decide
  refine ⟨members, hline, hnodup, ?_⟩
  obtain ⟨v, hv, hv5⟩ := Option.map_eq_some_iff.1 hid
  rw [(response_correlated scene hline hnodup).2.1, Json.member?_sortMembers hnodup, hv]
  · exact hv5
  · rw [Json.member?_sortMembers hnodup]
    obtain ⟨w, hw, hm⟩ := Option.bind_eq_some_iff.1 hmethod
    exact ⟨_, hw.trans (congrArg some (Request.eq_string hm))⟩

/-- **A method that is a number** costs the response its id: the object has one, and the error is
answered with null. -/
theorem response_uncorrelated_number :
    let line := "\x7b\"id\":5,\"method\":7\x7d"
    let scene : Scene := ⟨⟨.ofFolders [], ⟨"/p/db.json"⟩, ⟨"x64", "linux"⟩⟩, .error .notFound⟩
    ∃ members, Json.membersOf line = .ok members ∧ (members.map Prod.fst).Nodup ∧
      (scene.answer line).response.id ≠ (Json.lookup "id" members).getD .null := by
  intro line scene
  have hview : (Json.membersOf line).toOption.map outline =
      some (["id", "method"], some "5", none) := by decide +kernel
  obtain ⟨members, hline, houtline⟩ := exists_ok_of_toOption_map hview
  simp only [outline, Prod.mk.injEq] at houtline
  obtain ⟨hnames, hid, _⟩ := houtline
  refine ⟨members, hline, by rw [hnames]; decide, ?_⟩
  obtain ⟨v, hv, hv5⟩ := Option.map_eq_some_iff.1 hid
  have hanswer : (scene.answer line).response.id.text = "null" := by decide +kernel
  rw [hv]
  rintro rfl
  exact absurd (hv5.symm.trans hanswer) (by decide)

end Session

end CompileIndex
