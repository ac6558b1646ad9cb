/-!
# Ordered sets

Lists without repetitions, in the order in which their members were first added.  Two ordered
sets are equal as sets when each holds the members of the other.
-/

namespace CompileIndex

/-- A list that holds nothing twice. -/
structure OrderedSet (α : Type) where
  toList : List α
  nodup : toList.Nodup

namespace OrderedSet

variable {α : Type} [DecidableEq α]

instance : DecidableEq (OrderedSet α) := fun s t =>
  match decEq s.toList t.toList with
  | isTrue h => isTrue (by cases s; cases t; simp_all)
  | isFalse h => isFalse (fun e => h (congrArg OrderedSet.toList e))

/-- The set without members. -/
def empty : OrderedSet α :=
  ⟨[], List.nodup_nil⟩

instance : Inhabited (OrderedSet α) := ⟨empty⟩

/-- A member added behind the others, unless it is there already. -/
def insert (s : OrderedSet α) (x : α) : OrderedSet α :=
  if h : x ∈ s.toList then s
  else ⟨s.toList ++ [x], by
    rw [List.nodup_append]
    refine ⟨s.nodup, by simp, ?_⟩
    intro a ha b hb
    simp only [List.mem_singleton] at hb
    subst hb
    exact fun e => h (e ▸ ha)⟩

/-- Several members added one by one. -/
def insertAll (s : OrderedSet α) (xs : List α) : OrderedSet α :=
  xs.foldl insert s

/-- The members of a list, each where it first stands. -/
def ofList (xs : List α) : OrderedSet α :=
  empty.insertAll xs

/-- The number of members. -/
def size (s : OrderedSet α) : Nat :=
  s.toList.length

/-- Whether two sets have the same members, in whatever order. -/
def sameMembers (s t : OrderedSet α) : Bool :=
  s.toList.length = t.toList.length && s.toList.all (· ∈ t.toList)

/-- Adding a member appends it, or changes nothing. -/
theorem toList_insert (s : OrderedSet α) (x : α) :
    (s.insert x).toList = if x ∈ s.toList then s.toList else s.toList ++ [x] := by
  unfold insert
  split <;> rfl

theorem mem_insert {s : OrderedSet α} {x y : α} :
    y ∈ (s.insert x).toList ↔ y ∈ s.toList ∨ y = x := by
  rw [toList_insert]
  split
  · constructor
    · exact Or.inl
    · rintro (h | rfl)
      · exact h
      · assumption
  · simp

theorem mem_insertAll {s : OrderedSet α} {xs : List α} {y : α} :
    y ∈ (s.insertAll xs).toList ↔ y ∈ s.toList ∨ y ∈ xs := by
  induction xs generalizing s with
  | nil => simp [insertAll]
  | cons x rest ih =>
    have h : s.insertAll (x :: rest) = (s.insert x).insertAll rest := rfl
    rw [h, ih, mem_insert, List.mem_cons, or_assoc]

end OrderedSet

end CompileIndex
