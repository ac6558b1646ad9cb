import CompileIndex.Proofs.History

/-!
# Rebuilds behind a lock

An index that several threads share stands behind a lock.  A reader holds the lock for the whole of
a question.  A rebuild holds it twice and for a moment only: it copies the list of the registered
folders, fills a new index of its own, record by record and without the lock, and swaps the new
index in.  Any number of rebuilds may be under way, each at a stage of its own, and a step is what
one of them, or a reader, does while it is not interrupted.

No reader sees an index that is half full.  The reason is an invariant of two parts: what is left to
do for a rebuild always leads to the whole result, as nobody else has its index in hand; and the
copies of the folder list agree, whenever they were made, as every index that is swapped in has the
folders of the first one.

* `RebuildStage`, `RebuildCall`, `LockedIndex` — rebuilds under way and the index behind the lock;
* `Step`, `Run` — what one party does, and any interleaving;
* `run_rebuild` — a rebuild that is not interrupted is `Index.rebuiltAfresh`;
* `RebuildCall.Sound`, `Invariant` — the invariant, `Step.invariant` and `Run.standing` its step
  and its run;
* `reads_whole` — what a reader sees.
-/

namespace CompileIndex

/-- How far a rebuild is. -/
inductive RebuildStage where
  | called
  /-- The list of the registered folders is copied. -/
  | copied (folders : List Path)
  /-- A new index is being filled, and some records are left. -/
  | filling (p : Index.Progress) (left : List (Record × Nat))
  /-- The new index is swapped in, and the counts are given back. -/
  | returned (report : Report)

/-- A rebuild that was called. -/
structure RebuildCall where
  db : Database
  target : BuildTarget
  stage : RebuildStage

/-- The rebuild at another stage. -/
def RebuildCall.moved (c : RebuildCall) (stage : RebuildStage) : RebuildCall :=
  { c with stage }

/-- That a rebuild is on its way to the whole result for some folders. -/
def RebuildCall.Sound (folders : List Path) (c : RebuildCall) : Prop :=
  match c.stage with
  | .called => True
  | .copied copy => copy = folders
  | .filling p left =>
    left.foldl (Index.Progress.step c.target) p =
      (Index.ofFolders folders).clear.fill c.db c.target
  | .returned report => report = ((Index.ofFolders folders).rebuild c.db c.target).report

/-- An index behind a lock, and the rebuilds that were called so far. -/
structure LockedIndex where
  index : Index
  calls : List RebuildCall

namespace LockedIndex

/-- What others see of a step. -/
inductive Effect where
  | hidden
  /-- A rebuild swaps its index in. -/
  | swap (db : Database) (target : BuildTarget)
  /-- A reader sees an index. -/
  | read (seen : Index)

/-- The rebuild at one place of the list put to a stage. -/
def put (s : LockedIndex) (i : Nat) (c : RebuildCall) (stage : RebuildStage) : LockedIndex :=
  { s with calls := s.calls.set i (c.moved stage) }

/-- One more rebuild called. -/
def called (s : LockedIndex) (db : Database) (target : BuildTarget) : LockedIndex :=
  { s with calls := s.calls ++ [⟨db, target, .called⟩] }

/-- Another index behind the lock. -/
def swapped (s : LockedIndex) (index : Index) : LockedIndex :=
  { s with index }

/-- A new index of some folders, before the first record. -/
def opened (folders : List Path) : Index.Progress :=
  ⟨(Index.ofFolders folders).clear, 0, 0, []⟩

/-- What one party does without being interrupted. -/
inductive Step : LockedIndex → Effect → LockedIndex → Prop where
  | call {s : LockedIndex} (db : Database) (target : BuildTarget) :
    Step s .hidden (s.called db target)
  /-- The list of the folders is copied, under the lock. -/
  | copy {s : LockedIndex} {i : Nat} {c : RebuildCall} :
    s.calls[i]? = some c → c.stage = .called →
    Step s .hidden (s.put i c (.copied s.index.folderPaths))
  | prepare {s : LockedIndex} {i : Nat} {c : RebuildCall} {folders : List Path} :
    s.calls[i]? = some c → c.stage = .copied folders →
    Step s .hidden (s.put i c (.filling (opened folders) c.db.records.zipIdx))
  /-- One record more. -/
  | add {s : LockedIndex} {i : Nat} {c : RebuildCall} {p : Index.Progress} {record : Record × Nat}
      {left : List (Record × Nat)} :
    s.calls[i]? = some c → c.stage = .filling p (record :: left) →
    Step s .hidden (s.put i c (.filling (p.step c.target record) left))
  /-- The new index is swapped in, under the lock. -/
  | swap {s : LockedIndex} {i : Nat} {c : RebuildCall} {p : Index.Progress} :
    s.calls[i]? = some c → c.stage = .filling p [] →
    Step s (.swap c.db c.target)
      ((s.swapped (p.finish c.db).index).put i c (.returned (p.finish c.db).report))
  /-- A question is answered, under the lock. -/
  | read {s : LockedIndex} : Step s (.read s.index) s

/-- Steps one after the other, by whichever parties. -/
inductive Run : LockedIndex → List Effect → LockedIndex → Prop where
  | nil {s : LockedIndex} : Run s [] s
  | cons {s t u : LockedIndex} {e : Effect} {effects : List Effect} :
    Step s e t → Run t effects u → Run s (e :: effects) u

/-- The databases that were swapped in, with their targets, in order. -/
def swaps (effects : List Effect) : List (Database × BuildTarget) :=
  effects.filterMap fun
    | .swap db target => some (db, target)
    | _ => none

/-! ### Runs in parts -/

/-- A run in two parts has a state between them. -/
theorem Run.split {s u : LockedIndex} {before later : List Effect}
    (h : Run s (before ++ later) u) : ∃ t, Run s before t ∧ Run t later u := by
  induction before generalizing s with
  | nil => exact ⟨s, .nil, h⟩
  | cons e before ih =>
    cases h with
    | cons hstep hrest =>
      obtain ⟨t, hbefore, hlater⟩ := ih hrest
      exact ⟨t, .cons hstep hbefore, hlater⟩

theorem Run.append {s t u : LockedIndex} {before later : List Effect} (h : Run s before t)
    (h' : Run t later u) : Run s (before ++ later) u := by
  induction h with
  | nil => exact h'
  | cons hstep _ ih => exact .cons hstep (ih h')

/-! ### A rebuild that is not interrupted -/

theorem getElem?_put {s : LockedIndex} {i : Nat} {c : RebuildCall} (h : s.calls[i]? = some c)
    (stage : RebuildStage) : (s.put i c stage).calls[i]? = some (c.moved stage) := by
  have hlt : i < s.calls.length := (List.getElem?_eq_some_iff.1 h).1
  exact List.getElem?_set_self hlt

theorem put_put (s : LockedIndex) (i : Nat) (c : RebuildCall) (first second : RebuildStage) :
    (s.put i c first).put i (c.moved first) second = s.put i c second := by
  simp only [put, RebuildCall.moved, List.set_set]

/-- The records that are left are added one by one. -/
theorem run_fill {s : LockedIndex} {i : Nat} {c : RebuildCall} (left : List (Record × Nat))
    (p : Index.Progress) (hcall : s.calls[i]? = some c) :
    ∃ effects, swaps effects = [] ∧
      Run (s.put i c (.filling p left)) effects
        (s.put i c (.filling (left.foldl (Index.Progress.step c.target) p) [])) := by
  induction left generalizing p with
  | nil => exact ⟨[], rfl, .nil⟩
  | cons record left ih =>
    obtain ⟨effects, hswaps, hrun⟩ := ih (p.step c.target record)
    have hadd := Step.add (getElem?_put hcall (.filling p (record :: left))) rfl
    rw [put_put] at hadd
    exact ⟨.hidden :: effects, hswaps, .cons hadd hrun⟩

/-- **A rebuild that is not interrupted.**  Called at any moment, it can run to its end, and then it
has swapped in the index that `Index.rebuiltAfresh` makes of the one that was there. -/
theorem run_rebuild (s : LockedIndex) (db : Database) (target : BuildTarget) :
    ∃ effects t, Run s effects t ∧ swaps effects = [(db, target)] ∧
      t.index = (s.index.rebuiltAfresh db target).index ∧
      ⟨db, target, .returned (s.index.rebuiltAfresh db target).report⟩ ∈ t.calls := by
  let c : RebuildCall := ⟨db, target, .called⟩
  let s₁ := s.called db target
  let folders := s.index.folderPaths
  have hcall : s₁.calls[s.calls.length]? = some c := List.getElem?_concat_length
  have hcopy := Step.copy hcall rfl
  have hprepare := Step.prepare (getElem?_put hcall (.copied folders)) rfl
  rw [put_put] at hprepare
  obtain ⟨effects, hswaps, hfill⟩ := run_fill db.records.zipIdx (opened folders) hcall
  let p := db.records.zipIdx.foldl (Index.Progress.step target) (opened folders)
  have hfilled := getElem?_put hcall (.filling p [])
  have hswap := Step.swap hfilled rfl
  refine ⟨.hidden :: .hidden :: .hidden :: (effects ++ [.swap db target]), _,
    .cons (.call db target) (.cons hcopy (.cons hprepare (hfill.append (.cons hswap .nil)))),
    ?_, rfl, ?_⟩
  · have hall : swaps (.hidden :: .hidden :: .hidden :: (effects ++ [.swap db target])) =
        swaps effects ++ [(db, target)] := List.filterMap_append
    rw [hall, hswaps]
    rfl
  · exact List.mem_of_getElem? (getElem?_put (s := (s₁.put s.calls.length c
      (.filling p [])).swapped (p.finish db).index) hfilled _)

/-! ### The invariant -/

/-- The invariant of an index that was put behind its lock as `initial`: its folders stay, and
every rebuild is on its way to the whole result. -/
structure Invariant (initial : Index) (s : LockedIndex) : Prop where
  folders : s.index.folderPaths = initial.folderPaths
  sound : ∀ c ∈ s.calls, c.Sound initial.folderPaths

variable {initial : Index} {s t : LockedIndex}

/-- A rebuild put to a stage at which it is sound leaves all rebuilds sound. -/
theorem sound_put {i : Nat} {c : RebuildCall} {stage : RebuildStage}
    (h : ∀ c ∈ s.calls, c.Sound initial.folderPaths)
    (hstage : (c.moved stage).Sound initial.folderPaths) :
    ∀ d ∈ (s.put i c stage).calls, d.Sound initial.folderPaths := by
  intro d hd
  rcases List.mem_or_eq_of_mem_set hd with hold | hnew
  · exact h d hold
  · rw [hnew]
    exact hstage

/-- What a rebuild has found out when no record is left is the whole result. -/
theorem finish_of_sound {folders : List Path} {c : RebuildCall} {p : Index.Progress}
    (hstage : c.stage = .filling p []) (h : c.Sound folders) :
    p.finish c.db = (Index.ofFolders folders).rebuild c.db c.target := by
  have hfilled : p = (Index.ofFolders folders).clear.fill c.db c.target := by
    rw [RebuildCall.Sound, hstage] at h
    exact h
  rw [hfilled]
  rfl

/-- The whole result for the folders of an index has these folders. -/
theorem folderPaths_result (initial : Index) (db : Database) (target : BuildTarget) :
    ((Index.ofFolders initial.folderPaths).rebuild db target).index.folderPaths =
      initial.folderPaths := by
  rw [Index.folderPaths_rebuild, Index.folderPaths_ofFolders_folderPaths]

/-- **One step keeps the invariant.**  Only a swap touches the index, and what it brings is the
whole result. -/
theorem Step.invariant {e : Effect} (hstep : Step s e t) (h : Invariant initial s) :
    Invariant initial t := by
  cases hstep with
  | call db target =>
    refine ⟨h.folders, ?_⟩
    intro c hc
    rcases List.mem_append.1 hc with hold | hnew
    · exact h.sound c hold
    · rw [List.mem_singleton.1 hnew]
      trivial
  | copy hcall hstage => exact ⟨h.folders, sound_put h.sound h.folders⟩
  | @prepare i c folders hcall hstage =>
    refine ⟨h.folders, sound_put h.sound ?_⟩
    have hcopy : folders = initial.folderPaths := by
      have hsound := h.sound c (List.mem_of_getElem? hcall)
      rw [RebuildCall.Sound, hstage] at hsound
      exact hsound
    rw [hcopy]
    rfl
  | @add i c p record left hcall hstage =>
    refine ⟨h.folders, sound_put h.sound ?_⟩
    have hsound := h.sound c (List.mem_of_getElem? hcall)
    rw [RebuildCall.Sound, hstage] at hsound
    exact hsound
  | @swap i c p hcall hstage =>
    have hfinish := finish_of_sound hstage (h.sound c (List.mem_of_getElem? hcall))
    refine ⟨?_, sound_put h.sound ?_⟩
    · have hindex : (p.finish c.db).index.folderPaths = initial.folderPaths := by
        rw [hfinish]
        exact folderPaths_result initial c.db c.target
      exact hindex
    · show (p.finish c.db).report = _
      rw [hfinish]
      rfl
  | read => exact h

/-- The index that stands when some databases have been swapped in: the result for the last one. -/
def standing (initial : Index) : Option (Database × BuildTarget) → Index
  | none => initial
  | some (db, target) => ((Index.ofFolders initial.folderPaths).rebuild db target).index

/-- A step that swaps nothing in leaves the index, and a swap brings the whole result. -/
theorem Step.standing {e : Effect} {last : Option (Database × BuildTarget)} (hstep : Step s e t)
    (h : Invariant initial s) (hindex : s.index = LockedIndex.standing initial last) :
    t.index = LockedIndex.standing initial ((swaps [e]).getLast?.or last) := by
  cases hstep with
  | call db target => exact hindex
  | copy hcall hstage => exact hindex
  | prepare hcall hstage => exact hindex
  | add hcall hstage => exact hindex
  | @swap i c p hcall hstage =>
    have hfinish := finish_of_sound hstage (h.sound c (List.mem_of_getElem? hcall))
    show (p.finish c.db).index = _
    rw [hfinish]
    rfl
  | read => exact hindex

/-- **A run keeps the invariant**, and leaves the index where the last swap puts it. -/
theorem Run.standing {effects : List Effect} {last : Option (Database × BuildTarget)}
    (hrun : Run s effects t) (h : Invariant initial s)
    (hindex : s.index = LockedIndex.standing initial last) :
    Invariant initial t ∧
      t.index = LockedIndex.standing initial ((swaps effects).getLast?.or last) := by
  induction hrun generalizing last with
  | nil => exact ⟨h, hindex⟩
  | @cons s t u e effects hstep _ ih =>
    have hswaps : swaps (e :: effects) = swaps [e] ++ swaps effects :=
      List.filterMap_append (l := [e])
    obtain ⟨hinvariant, hlast⟩ := ih (hstep.invariant h) (hstep.standing h hindex)
    refine ⟨hinvariant, ?_⟩
    rw [hlast, hswaps, List.getLast?_append, Option.or_assoc]

/-- A reader sees the index that is behind the lock. -/
theorem Run.seen {seen : Index} {later : List Effect} (h : Run s (.read seen :: later) t) :
    seen = s.index := by
  cases h with
  | cons hstep _ =>
    cases hstep with
    | read => rfl

/-! ### What readers see -/

/-- **Readers see whole indexes.**  An index of some folders has been through a history of its own
when it is shared, and then any number of rebuilds and readers take turns in any way.  A reader sees
the index as it was shared, when no rebuild has swapped its index in so far, and else the whole
result of the last one that has: what a new index of the folders is after a rebuild from that
database for that target.  The folders and their order are, at every moment, those that the index
was shared with; and every rebuild that has come to its end gives back the counts of its whole
result. -/
theorem reads_whole (folders : List Path) (history : List Index.Operation)
    {effects : List Effect} {s : LockedIndex}
    (hrun : Run ⟨(Index.ofFolders folders).after history, []⟩ effects s) :
    let initial := (Index.ofFolders folders).after history
    (∀ before seen later, effects = before ++ .read seen :: later →
      (swaps before = [] ∧ seen = initial) ∨
      ∃ db target, (swaps before).getLast? = some (db, target) ∧
        seen = ((Index.ofFolders folders).rebuild db target).index) ∧
      s.index.folderPaths = initial.folderPaths ∧
      ∀ c ∈ s.calls, ∀ report, c.stage = .returned report →
        report = ((Index.ofFolders folders).rebuild c.db c.target).report := by
  intro initial
  have hresult : ∀ db target, (Index.ofFolders initial.folderPaths).rebuild db target =
      (Index.ofFolders folders).rebuild db target := by
    intro db target
    have hpaths : (Index.ofFolders initial.folderPaths).folderPaths =
        (Index.ofFolders folders).folderPaths := by
      rw [Index.folderPaths_ofFolders_folderPaths, Index.folderPaths_after]
    exact Index.rebuild_congr hpaths db target
  have hstart : Invariant initial ⟨initial, []⟩ := ⟨rfl, fun c hc => absurd hc List.not_mem_nil⟩
  have hnone : (⟨initial, []⟩ : LockedIndex).index = LockedIndex.standing initial none := rfl
  obtain ⟨hinvariant, _⟩ := hrun.standing hstart hnone
  refine ⟨?_, hinvariant.folders, ?_⟩
  · intro before seen later heffects
    rw [heffects] at hrun
    obtain ⟨t, hbefore, hlater⟩ := hrun.split
    obtain ⟨_, hindex⟩ := hbefore.standing hstart hnone
    rw [Option.or_none] at hindex
    have hseen : seen = LockedIndex.standing initial (swaps before).getLast? :=
      hlater.seen.trans hindex
    cases hlast : (swaps before).getLast? with
    | none =>
      rw [hlast] at hseen
      exact Or.inl ⟨List.getLast?_eq_none_iff.1 hlast, hseen⟩
    | some last =>
      obtain ⟨db, target⟩ := last
      rw [hlast] at hseen
      refine Or.inr ⟨db, target, rfl, ?_⟩
      rw [hseen, ← hresult]
      rfl
  · intro c hc report hstage
    have hsound := hinvariant.sound c hc
    rw [RebuildCall.Sound, hstage, hresult] at hsound
    exact hsound

/-- Two rebuilds that overtake each other: the one that was called last copies its folders while the
other has added its record, and swaps behind it.  A reader between them sees the whole result of the
other, and a reader in front of both sees none of its record. -/
theorem reads_whole_between_swaps :
    let command : CompileCommand := ⟨⟨"/p"⟩, ⟨"a.c"⟩, ["sh", "gcc"]⟩
    let target : BuildTarget := ⟨"x64", "linux"⟩
    let db : Database := ⟨[.ok command]⟩
    let bad : Database := ⟨[.error .unsplittableCommand]⟩
    let initial := Index.ofFolders [⟨"/p"⟩]
    ∃ first second s,
      Run ⟨initial, []⟩
        [.hidden, .hidden, .hidden, .hidden, .hidden, .hidden, .read first, .hidden,
          .swap db target, .read second, .hidden, .swap bad target] s ∧
        first.contains ⟨"/p/a.c"⟩ = false ∧ second.contains ⟨"/p/a.c"⟩ = true ∧
        s.index.folderPaths = [⟨"/p"⟩] := by
  intro command target db bad initial
  have hrun := Run.cons (s := ⟨initial, []⟩) (.call db target) <|
    .cons (.call bad target) <|
    .cons (.copy (i := 0) rfl rfl) <|
    .cons (.prepare (i := 0) rfl rfl) <|
    .cons (.add (i := 0) rfl rfl) <|
    .cons (.copy (i := 1) rfl rfl) <|
    .cons .read <|
    .cons (.prepare (i := 1) rfl rfl) <|
    .cons (.swap (i := 0) rfl rfl) <|
    .cons .read <|
    .cons (.add (i := 1) rfl rfl) <|
    .cons (.swap (i := 1) rfl rfl) .nil
  obtain ⟨hreads, hfolders, _⟩ := reads_whole [⟨"/p"⟩] [] hrun
  refine ⟨_, _, _, hrun, ?_, ?_, hfolders⟩
  · rcases hreads [.hidden, .hidden, .hidden, .hidden, .hidden, .hidden] _ _ rfl with
      ⟨_, hseen⟩ | ⟨_, _, hlast, _⟩
    · rw [hseen]
      decide
    · cases hlast
  · rcases hreads [.hidden, .hidden, .hidden, .hidden, .hidden, .hidden, .read _, .hidden,
      .swap db target] _ _ rfl with ⟨hnone, _⟩ | ⟨_, _, hlast, hseen⟩
    · cases hnone
    · cases hlast
      rw [hseen]
      decide +kernel

end LockedIndex

end CompileIndex
