import CompileIndex.Proofs.Loading
import CompileIndex.Proofs.Utf8

/-!
# Files that were written

A file that was written is read back, from whatever directory an absolute path is followed.  Writing
a file puts nothing in the way of its own path: the path passes directories alone, and what it leads
to is none.

* `Disk.locate_put` — a path leads to the same place after something is put where no directory is;
* `Disk.lookup_write` — what stands at a path that was written to;
* `Surroundings.textAt_of_lookup`, `Surroundings.settingsFile?_of_lookup` — what is read there;
* `Surroundings.saved` — settings that are saved.
-/

namespace CompileIndex

namespace Disk

variable {d d' : Disk} {place q r start : Place} {p : Path} {content : List UInt8}

theorem lookup_filter_ne (h : q ≠ place) (entries : List (Place × Entry)) :
    (entries.filter fun old => old.1 ≠ place).lookup q = entries.lookup q := by
  induction entries with
  | nil => rfl
  | cons old entries ih =>
    obtain ⟨other, found⟩ := old
    by_cases hother : other = place
    · have hgone : decide (other ≠ place) = false := by simp [hother]
      rw [List.filter_cons, hgone, List.lookup_cons, beq_eq_false_iff_ne.2 (hother ▸ h)]
      exact ih
    · have hkept : decide (other ≠ place) = true := decide_eq_true hother
      rw [List.filter_cons, hkept, if_pos rfl, List.lookup_cons, List.lookup_cons]
      cases q == other with
      | true => rfl
      | false => exact ih

/-- Something put at a place changes nothing at others. -/
theorem entry?_put_of_ne (d : Disk) (e : Entry) (h : q ≠ place) :
    entry? (d.put place e) q = d.entry? q := by
  unfold entry? put
  rw [List.lookup_cons, beq_eq_false_iff_ne.2 h]
  simp only
  rw [lookup_filter_ne h]

theorem entry?_put_self (d : Disk) (e : Entry) (h : place ≠ []) :
    entry? (d.put place e) place = some e := by
  unfold entry? put
  rw [List.lookup_cons_self]
  cases place with
  | nil => exact absurd rfl h
  | cons name rest => rfl

/-- A step goes on where nothing is put at a directory. -/
theorem step_put (e : Entry) (h : d.entry? place ≠ some .directory) {name : String}
    (hstep : d.step q name = .ok r) : (d.put place e).step q name = .ok r := by
  have hdirectory : d.entry? q = some .directory := by
    unfold step at hstep
    cases hq : d.entry? q with
    | none =>
      rw [hq] at hstep
      cases hstep
    | some found =>
      cases found with
      | directory => rfl
      | file content =>
        rw [hq] at hstep
        cases hstep
  have hne : q ≠ place := by
    rintro rfl
    exact h hdirectory
  rw [← hstep, step, step, entry?_put_of_ne d e hne]

/-- **A path leads to the same place** after something is put where no directory is. -/
theorem locate_put (e : Entry) (h : d.entry? place ≠ some .directory)
    (hlocate : d.locate start p = .ok r) : (d.put place e).locate start p = .ok r := by
  have hsteps (names : List String) : ∀ q, names.foldlM d.step q = .ok r →
      names.foldlM (d.put place e).step q = .ok r := by
    induction names with
    | nil => exact fun q hq => hq
    | cons name names ih =>
      intro q hq
      rw [List.foldlM_cons] at hq ⊢
      cases hstep : d.step q name with
      | error cause =>
        rw [hstep] at hq
        cases hq
      | ok next =>
        rw [hstep] at hq
        rw [step_put e h hstep]
        exact ih next hq
  unfold locate at hlocate ⊢
  split_ifs at hlocate ⊢
  all_goals exact hsteps _ _ hlocate

/-- **What stands at a path that was written to**, from whatever directory it is followed if it is
absolute. -/
theorem lookup_write (hp : p.isRooted = true) (h : d.write start p content = .ok d')
    (start' : Place) : d'.lookup start' p = .ok (.file content) := by
  unfold write at h
  cases hlocate : d.locate start p with
  | error cause =>
    rw [hlocate] at h
    cases h
  | ok place =>
    rw [hlocate] at h
    have hput : d.entry? place ≠ some .directory ∧ endsInSlash p = false ∧
        d.put place (.file content) = d' := by
      simp only [bind, Except.bind] at h
      split at h
      · cases h
      · next hentry =>
        split_ifs at h with hslash
        cases h
        exact ⟨hentry, by simpa using hslash, rfl⟩
    obtain ⟨hentry, hslash, rfl⟩ := hput
    have hne : place ≠ [] := by
      rintro rfl
      exact hentry rfl
    have hsame : (d.put place (.file content)).locate start' p = .ok place := by
      have hfollowed := locate_put (.file content) hentry hlocate
      unfold locate at hfollowed ⊢
      simp only [hp, if_true] at hfollowed ⊢
      exact hfollowed
    simp only [lookup, hsame, entry?_put_self d _ hne, hslash, bind, Except.bind,
      Bool.false_eq_true, if_false]

end Disk

/-- **A text that is written as bytes is read back.** -/
theorem textOf_encode (text : String) : textOf (.ok (Text.Utf8.encode text)) = .ok text := by
  have hdecode : Text.Utf8.decode? (Text.Utf8.encode text) = some text.toList := by
    rw [Text.Utf8.decode?, Text.Utf8.scan_encode]
    induction text.toList with
    | nil => rfl
    | cons c rest ih =>
      rw [List.map_cons, List.mapM_cons, ih]
      rfl
  simp only [textOf, Except.bind, hdecode, String.ofList_toList]

namespace Surroundings

variable {w : Surroundings} {p : Path}

/-- A file that stands at a path is the settings file that the path leads to. -/
theorem settingsFile?_of_lookup {content : List UInt8} (hp : p.isRooted = true)
    (h : w.disk.lookup w.directory p = .ok (.file content)) : w.settingsFile? p = some p := by
  have hfile : w.disk.isFile w.directory p = true := by rw [Disk.isFile, h]
  rw [settingsFile?, if_pos hp, if_pos hfile]

theorem textAt_of_lookup {text : String}
    (h : w.disk.lookup w.directory p = .ok (.file (Text.Utf8.encode text))) :
    w.textAt p = .ok text := by
  have hread : w.disk.read w.directory p = .ok (Text.Utf8.encode text) := by
    rw [Disk.read, h]
    rfl
  rw [textAt, hread, textOf_encode]

/-- What is written to a path, and the disk that is left. -/
theorem gives_write (w : Surroundings) (p : Path) (text : String) :
    (∃ cause, w.gives (Access.write p text) = .error cause) ∨
      ∃ disk, w.disk.write w.directory p (Text.Utf8.encode text) = .ok disk ∧
        w.gives (Access.write p text) = .ok () ∧
        w.after (Access.write p text : StateM Surroundings _) = { w with disk } := by
  simp only [gives, after, Access.write, bind, StateT.bind, get, getThe, MonadStateOf.get,
    StateT.get, StateT.run, pure, Id.run]
  cases hwrite : w.disk.write w.directory p (Text.Utf8.encode text) with
  | error cause => exact Or.inl ⟨cause, rfl⟩
  | ok disk => exact Or.inr ⟨disk, rfl, rfl, rfl⟩

/-- **Settings are saved**, and stand in the file, unless a directory cannot be made or the file not
be written. -/
theorem saved {s : Settings} {parent : Path} (hparent : p.parent = some parent)
    (h : ∀ cause, w.gives (Settings.save s p) ≠ .error (.failed cause)) :
    w.gives (Settings.save s p) = .ok () ∧ (p.isRooted = true → ∀ start,
      (w.after (Settings.save s p)).disk.lookup start p =
        .ok (.file (Text.Utf8.encode s.toToml))) := by
  simp only [Settings.save, hparent] at h ⊢
  rw [gives_bind, after_bind]
  simp only [gives_bind] at h
  generalize w.after (Access.makeDirectories parent) = made at h ⊢
  cases hmake : w.gives (Access.makeDirectories parent) with
  | error cause =>
    rw [hmake] at h
    exact absurd rfl (h cause)
  | ok done =>
    rw [hmake] at h
    simp only at h ⊢
    rw [gives_bind, after_bind]
    simp only [gives_bind] at h
    rcases gives_write made p s.toToml with ⟨cause, hcause⟩ | ⟨disk, hdisk, hgives, hafter⟩
    · rw [hcause] at h
      exact absurd rfl (h cause)
    · rw [hgives, hafter]
      exact ⟨rfl, fun hp start => Disk.lookup_write hp hdisk start⟩

/-- What stands in a file that settings were saved to. -/
theorem lookup_saved {s : Settings} (hp : p.isRooted = true)
    (h : w.gives (Settings.save s p) = .ok ()) (start : Place) :
    (w.after (Settings.save s p)).disk.lookup start p =
      .ok (.file (Text.Utf8.encode s.toToml)) := by
  cases hparent : p.parent with
  | none =>
    rw [Settings.save, hparent] at h
    cases h
  | some parent =>
    refine (saved hparent fun cause hcause => ?_).2 hp start
    rw [h] at hcause
    cases hcause

/-- The first settings file is one that the settings with the root as their folder are saved to. -/
theorem created {root file : Path} {force : Bool}
    (h : w.gives (Settings.create root force) = .ok file) :
    let s : Settings := { Settings.initial with folders := [root] }
    file = Settings.fileBelow root ∧ w.gives (Settings.save s file) = .ok () ∧
      w.after (Settings.create root force) = w.after (Settings.save s file) := by
  intro s
  have hholds : w.after (Access.holds (Settings.fileBelow root) : StateM Surroundings Bool) = w :=
    rfl
  unfold Settings.create at h ⊢
  simp only [gives_bind, after_bind, hholds] at h ⊢
  generalize w.gives (Access.holds (Settings.fileBelow root)) = held at h ⊢
  split_ifs at h ⊢
  · cases h
  · rw [gives_bind] at h
    rw [after_bind]
    cases hsave : w.gives (Settings.save s (Settings.fileBelow root)) with
    | error cause =>
      rw [hsave] at h
      cases h
    | ok done =>
      rw [hsave] at h
      cases h
      exact ⟨rfl, hsave, rfl⟩

end Surroundings

end CompileIndex
