import CompileIndex.Path

/-!
# Maps keyed by paths

Entries in the order in which their keys were first put in, no two keys the same path.  A key
keeps the spelling with which it came first; look-ups find it under every spelling.

* `PathMap.find?` — the value of a path;
* `PathMap.insert` — the value of a path set;
* `PathMap.erase`, `PathMap.mapValues`, `PathMap.ofKeys`.
-/

namespace CompileIndex

/-- Entries whose keys are different paths. -/
structure PathMap (α : Type) where
  entries : List (Path × α)
  distinct : entries.Pairwise fun a b => ¬ a.1.Same b.1

namespace PathMap

variable {α β : Type}

/-- The map without entries. -/
def empty : PathMap α :=
  ⟨[], List.Pairwise.nil⟩

instance : Inhabited (PathMap α) := ⟨empty⟩

/-- The value of the first entry whose key is the path `p`. -/
def findIn (p : Path) : List (Path × α) → Option α
  | [] => none
  | (k, v) :: rest => if k.Same p then some v else findIn p rest

/-- The value of a path. -/
def find? (m : PathMap α) (p : Path) : Option α :=
  findIn p m.entries

/-- Entries with the value of `p` set; a new key goes to the end. -/
def insertIn (p : Path) (v : α) : List (Path × α) → List (Path × α)
  | [] => [(p, v)]
  | (k, w) :: rest => if k.Same p then (k, v) :: rest else (k, w) :: insertIn p v rest

/-- The keys after an insertion are the old ones, or one more. -/
theorem fst_of_mem_insertIn {p : Path} {v : α} {es : List (Path × α)} {e : Path × α}
    (h : e ∈ insertIn p v es) : (∃ d ∈ es, d.1 = e.1) ∨ e.1 = p := by
  induction es with
  | nil =>
    simp only [insertIn, List.mem_singleton] at h
    exact Or.inr (by rw [h])
  | cons d rest ih =>
    obtain ⟨k, w⟩ := d
    simp only [insertIn] at h
    split at h
    · rcases List.mem_cons.1 h with rfl | h
      · exact Or.inl ⟨(k, w), List.mem_cons_self, rfl⟩
      · exact Or.inl ⟨e, List.mem_cons_of_mem _ h, rfl⟩
    · rcases List.mem_cons.1 h with rfl | h
      · exact Or.inl ⟨_, List.mem_cons_self, rfl⟩
      · rcases ih h with ⟨d, hd, he⟩ | hp
        · exact Or.inl ⟨d, List.mem_cons_of_mem _ hd, he⟩
        · exact Or.inr hp

theorem pairwise_insertIn {p : Path} {v : α} {es : List (Path × α)}
    (h : es.Pairwise fun a b => ¬ a.1.Same b.1) :
    (insertIn p v es).Pairwise fun a b => ¬ a.1.Same b.1 := by
  induction es with
  | nil => exact List.pairwise_singleton _ _
  | cons d rest ih =>
    obtain ⟨k, w⟩ := d
    rw [List.pairwise_cons] at h
    simp only [insertIn]
    split
    · exact List.pairwise_cons.2 ⟨h.1, h.2⟩
    · next hk =>
      refine List.pairwise_cons.2 ⟨?_, ih h.2⟩
      intro e he
      rcases fst_of_mem_insertIn he with ⟨d, hd, heq⟩ | hp
      · exact heq ▸ h.1 d hd
      · exact hp ▸ hk

/-- The map with the value of `p` set. -/
def insert (m : PathMap α) (p : Path) (v : α) : PathMap α :=
  ⟨insertIn p v m.entries, pairwise_insertIn m.distinct⟩

/-- A look-up does not see how a path is spelled. -/
theorem findIn_congr {p q : Path} (h : p.Same q) (es : List (Path × α)) :
    findIn p es = findIn q es := by
  induction es with
  | nil => rfl
  | cons d rest ih =>
    obtain ⟨k, w⟩ := d
    have hk : k.Same p ↔ k.Same q := ⟨fun hp => hp.trans h, fun hq => hq.trans h.symm⟩
    simp only [findIn, hk, ih]

theorem findIn_insertIn (p q : Path) (v : α) (es : List (Path × α)) :
    findIn q (insertIn p v es) = if p.Same q then some v else findIn q es := by
  induction es with
  | nil => rfl
  | cons d rest ih =>
    obtain ⟨k, w⟩ := d
    simp only [insertIn]
    by_cases hk : k.Same p
    · have hq : k.Same q ↔ p.Same q := ⟨fun h => hk.symm.trans h, fun h => hk.trans h⟩
      rw [if_pos hk]
      simp only [findIn, hq]
      split <;> rfl
    · rw [if_neg hk]
      simp only [findIn, ih]
      by_cases hq : k.Same q
      · have hp : ¬ p.Same q := fun h => hk (hq.trans h.symm)
        simp only [if_pos hq, if_neg hp]
      · simp only [if_neg hq]

@[simp] theorem find?_empty (p : Path) : (empty : PathMap α).find? p = none := rfl

/-- A value is found under all spellings of its path, and no other value changes. -/
theorem find?_insert (m : PathMap α) (p q : Path) (v : α) :
    (m.insert p v).find? q = if p.Same q then some v else m.find? q :=
  findIn_insertIn p q v m.entries

theorem find?_congr (m : PathMap α) {p q : Path} (h : p.Same q) : m.find? p = m.find? q :=
  findIn_congr h m.entries

/-- The map without an entry for `p`. -/
def erase (m : PathMap α) (p : Path) : PathMap α :=
  ⟨m.entries.filter fun e => ¬ e.1.Same p, m.distinct.filter _⟩

/-- The entries that `keep` accepts. -/
def filter (keep : Path → α → Bool) (m : PathMap α) : PathMap α :=
  ⟨m.entries.filter fun e => keep e.1 e.2, m.distinct.filter _⟩

/-- The map with every value changed by `f`, which also sees the key. -/
def mapValues (f : Path → α → β) (m : PathMap α) : PathMap β :=
  ⟨m.entries.map fun e => (e.1, f e.1 e.2), by
    rw [List.pairwise_map]
    exact m.distinct⟩

/-- The map that gives `v` to every path of a list. -/
def ofKeys (v : α) (keys : List Path) : PathMap α :=
  keys.foldl (fun m k => m.insert k v) empty

/-- The keys in order. -/
def keys (m : PathMap α) : List Path :=
  m.entries.map (·.1)

@[simp] theorem keys_mapValues (f : Path → α → β) (m : PathMap α) :
    (m.mapValues f).keys = m.keys := by
  simp only [keys, mapValues, List.map_map]
  rfl

/-- The number of entries. -/
def size (m : PathMap α) : Nat :=
  m.entries.length

/-- Whether two maps give the same values to the same paths, in whatever order; `same`
compares values. -/
def sameEntries (same : α → α → Bool) (m n : PathMap α) : Bool :=
  m.size = n.size && m.entries.all fun e =>
    match n.find? e.1 with
    | some w => same e.2 w
    | none => false

end PathMap

end CompileIndex
