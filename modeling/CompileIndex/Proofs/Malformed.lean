import CompileIndex.Proofs.Correlation
import CompileIndex.Proofs.Framing
import CompileIndex.Proofs.JsonStrays

/-!
# Lines that are no UTF-8

A line of bytes that are no UTF-8 is answered as the text that has U+FFFD for every malformed
piece.  Whether that text is a request goes by where the pieces stand: between the parts of the
text, or in the escape of a string, they make it unreadable, and the line is refused.  In a string
as they are, they are characters like others, and the line may be any request.

* `none_mem_scan` — what makes bytes no UTF-8;
* `decode_exposed` — a line with a malformed piece outside of strings is not read;
* `serve_malformed` — all of it, about a line of a served byte stream.
-/

namespace CompileIndex.Session

open Text.Utf8 (decode? decodeLossy encode scan replacement)
open Json (exposed stray)

/-- Bytes that are no UTF-8 have a malformed piece. -/
theorem none_mem_scan {bytes : List UInt8} (h : decode? bytes = none) : none ∈ scan bytes := by
  rw [decode?] at h
  generalize scan bytes = pieces at h ⊢
  induction pieces with
  | nil => cases h
  | cons piece rest ih =>
    cases piece with
    | none => exact List.mem_cons_self
    | some c =>
      refine List.mem_cons_of_mem _ (ih ?_)
      rw [List.mapM_cons] at h
      cases hrest : rest.mapM id with
      | none => rfl
      | some cs =>
        rw [hrest] at h
        cases h

/-- A line that is no UTF-8 is not blank. -/
theorem lineOf?_malformed {segment : List UInt8} (h : decode? segment = none) :
    lineOf? segment = some (String.ofList (decodeLossy segment)) := by
  have hmem : replacement ∈ decodeLossy segment :=
    List.mem_map.2 ⟨none, none_mem_scan h, rfl⟩
  have hblank : (decodeLossy segment).all Text.isBlank ≠ true := by
    intro hall
    exact absurd (List.all_eq_true.1 hall replacement hmem) (by decide)
  exact if_neg hblank

/-- The fields of a line are read with no stray U+FFFD in them. -/
theorem passes_of_raw {depth : Nat} {s r : List Char} {raw : Request.Raw}
    (h : Request.Raw.decoder depth s = .ok (raw, r)) : Json.Passes s r := by
  have hfields : Request.Raw.fields.Pass :=
    ⟨fun _ _ _ _ => Json.passes_of_readValue,
      fun depth s m r => @Json.passes_of_text depth s r m,
      fun _ _ _ _ => Json.passes_of_readValue, trivial⟩
  exact Json.passes_of_record hfields h

/-- **A line with a malformed piece outside of strings** is not read. -/
theorem decode_exposed {segment : List UInt8} (h : exposed .outside (scan segment) = true) :
    ∃ fault, Request.Raw.decoder.decode (String.ofList (decodeLossy segment)) = .error fault := by
  cases hraw : Request.Raw.decoder.decode (String.ofList (decodeLossy segment)) with
  | error fault => exact ⟨fault, rfl⟩
  | ok raw =>
    have hstray : stray .outside (decodeLossy segment) = false := by
      have hread := Json.not_stray_of_decode passes_of_raw hraw
      rwa [String.toList_ofList] at hread
    exact absurd ((Json.stray_of_exposed h).symm.trans hstray) (by decide)

/-- A stream that is one line is served by answering that line. -/
theorem serve_line {ω : Type} (readDatabase : StateM ω (Except FileError String)) (s : Session)
    (w : ω) {segment : List UInt8} {line : String}
    (hsegment : Cut segment [segment]) (hline : lineOf? segment = some line) :
    (serve readDatabase s segment).run w =
      let answered := (handle readDatabase s line).run w
      (⟨answered.1.session, written answered.1.response, answered.1.events⟩, answered.2) := by
  have hlines : lines segment = [line] := by
    rw [lines, ← cut_iff.1 hsegment]
    simp [hline]
  rw [serve, hlines, serveLines_run]
  simp only [answers, Served.ofAnswers, List.foldl_cons, List.foldl_nil, List.foldr_cons,
    List.foldr_nil, List.flatMap_cons, List.flatMap_nil, List.append_nil, String.append_empty]

/-- **A line that is no UTF-8**, between a stream that ends before it and one that starts behind
it, is answered as the text with U+FFFD for every malformed piece, between what the two streams
are answered.  When a malformed piece stands elsewhere than in a string as it is, that answer is a
refusal with the id null, and the line changes nothing. -/
theorem serve_malformed {ω : Type} (readDatabase : StateM ω (Except FileError String))
    (s : Session) (w : ω) {before segment after : List UInt8} (hbefore : Ended before)
    (hsegment : Cut segment [segment]) (hafter : Ended segment ∨ after = [])
    (hbytes : decode? segment = none) :
    let text := String.ofList (decodeLossy segment)
    let first := (serve readDatabase s before).run w
    let answered := (handle readDatabase first.1.session text).run first.2
    let rest := (serve readDatabase answered.1.session after).run answered.2
    (serve readDatabase s (before ++ segment ++ after)).run w =
        (⟨rest.1.session,
          first.1.output ++ written answered.1.response ++ rest.1.output,
          first.1.events ++ answered.1.events ++ rest.1.events⟩, rest.2) ∧
      (exposed .outside (scan segment) = true →
        answered.1.session = first.1.session ∧ answered.2 = first.2 ∧
          ∃ reason, answered.1.response = ⟨.null, none, some
            ⟨-32700, "Request is not valid JSON: " ++ reason⟩⟩) := by
  intro text first answered rest
  have hline := serve_line readDatabase first.1.session first.2 hsegment (lineOf?_malformed hbytes)
  constructor
  · have hbehind : (serve readDatabase first.1.session (segment ++ after)).run first.2 =
        (⟨rest.1.session, written answered.1.response ++ rest.1.output,
          answered.1.events ++ rest.1.events⟩, rest.2) := by
      rcases hafter with hended | rfl
      · rw [serve_append readDatabase hended, hline]
        rfl
      · have hrest : rest = (⟨answered.1.session, "", []⟩, answered.2) := rfl
        rw [List.append_nil, hline, hrest, String.append_empty, List.append_nil]
    rw [List.append_assoc, serve_append readDatabase hbefore]
    change (first.1.andThen ((serve readDatabase first.1.session (segment ++ after)).run first.2).1,
      ((serve readDatabase first.1.session (segment ++ after)).run first.2).2) = _
    rw [hbehind]
    simp only [Served.andThen, String.append_assoc, List.append_assoc]
  · intro hexposed
    obtain ⟨fault, hraw⟩ := decode_exposed hexposed
    have hanswered : answered = (first.1.session.fail .null [] (.notJson text.toList fault),
        first.2) := congrArg (fun h => h.run first.2) (handle_unread readDatabase _ hraw)
    rw [hanswered]
    exact ⟨rfl, rfl, _, rfl⟩

/-- A byte that starts no character, in front of a request: the line is refused. -/
theorem serve_malformed_in_front :
    let read : StateM Unit (Except FileError String) := pure (.error .notFound)
    let start : Session := ⟨.ofFolders [⟨"/p"⟩], ⟨"/p/db.json"⟩, ⟨"x64", "linux"⟩⟩
    let segment := 0xff :: encode "\x7b\"id\":1,\"method\":\"rebuild\"\x7d\n"
    let answered := (handle read start (String.ofList (decodeLossy segment))).run ()
    Ended [] ∧ Cut segment [segment] ∧ Ended segment ∧ decode? segment = none ∧
      exposed .outside (scan segment) = true ∧
      (serve read start segment).run () =
        (⟨answered.1.session, written answered.1.response, answered.1.events⟩, answered.2) ∧
      ∃ reason, answered.1.response = ⟨.null, none, some
        ⟨-32700, "Request is not valid JSON: " ++ reason⟩⟩ := by
  intro read start segment answered
  have hbytes : segment = 0xff :: ("\x7b\"id\":1,\"method\":\"rebuild\"\x7d\n".toList.flatMap
      String.utf8EncodeChar) := by
    rw [← Text.Utf8.encode_eq_flatMap]
  -- All that is assumed of the line is computed from its bytes.
  have hcut : Cut segment [segment] := by
    rw [cut_iff, hbytes]
    decide +kernel
  have hended : Ended segment := by
    right
    rw [hbytes]
    decide +kernel
  have hnone : decode? segment = none := by
    rw [hbytes]
    decide +kernel
  have hexposed : exposed .outside (scan segment) = true := by
    rw [hbytes]
    decide +kernel
  have hafter : Ended segment ∨ ([] : List UInt8) = [] := Or.inl hended
  obtain ⟨hserve, hrefused⟩ := serve_malformed read start () (Or.inl rfl) hcut hafter hnone
  obtain ⟨_, _, hresponse⟩ := hrefused hexposed
  refine ⟨Or.inl rfl, hcut, hended, hnone, hexposed, ?_, hresponse⟩
  rw [List.nil_append, List.append_nil] at hserve
  rw [hserve]
  simp [serve, lines, segments, serveLines_run, answers, Served.ofAnswers, answered]

/-- **The same byte in a string** of a request: the line is no UTF-8, and it is answered, with its
id and no error. -/
theorem malformed_in_string_answered :
    let start : Session := ⟨.ofFolders [⟨"/p"⟩], ⟨"/p/db.json"⟩, ⟨"x64", "linux"⟩⟩
    let segment := encode "\x7b\"id\":1,\"method\":\"canProvideBrowseConfiguration\",\"params\":\""
      ++ 0xff :: encode "\"\x7d\n"
    Cut segment [segment] ∧ decode? segment = none ∧
      (Id.run (serve (pure (.error .notFound)) start segment)).output =
        "\x7b\"id\":1,\"result\":true\x7d\n" := by
  intro start segment
  have hbytes : segment =
      "\x7b\"id\":1,\"method\":\"canProvideBrowseConfiguration\",\"params\":\"".toList.flatMap
        String.utf8EncodeChar ++ 0xff :: "\"\x7d\n".toList.flatMap String.utf8EncodeChar := by
    rw [← Text.Utf8.encode_eq_flatMap, ← Text.Utf8.encode_eq_flatMap]
  rw [cut_iff, hbytes]
  refine ⟨?_, ?_, ?_⟩
  · decide +kernel
  · decide +kernel
  · decide +kernel

end CompileIndex.Session
