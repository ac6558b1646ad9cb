import CompileIndex.Path

/-!
# Normal forms and relative paths

The lexical normal form of a path holds no `.` and no `..`: a `..` takes away the name before
it, and stays without effect at the root and in front of a relative path.  Relative paths and
the attribution of files to folders are computed on normal forms.

* `Path.normalForm` — the components of the normal form;
* `Path.relativeParts`, `Path.relativeTo?` — the way from one path to another;
* `Path.difference?` — the way from a directory to a file without folding `..`.
-/

namespace CompileIndex

namespace Path

/-- One component added to a normal form that is held last component first. -/
def foldComponent (done : List Component) : Component → List Component
  | .here => done
  | .parent =>
    match done with
    | .name _ :: before => before
    | _ => done
  | .root => [.root]
  | .name n => .name n :: done

/-- The normal form of a list of components. -/
def normalize (cs : List Component) : List Component :=
  (cs.foldl foldComponent []).reverse

/-- The components of the lexical normal form of a path. -/
def normalForm (p : Path) : List Component :=
  normalize p.components

/-- How many components two lists share in front. -/
def sharedLength : List Component → List Component → Nat
  | a :: as, b :: bs => if a = b then sharedLength as bs + 1 else 0
  | _, _ => 0

/-- The steps from one normal form to another: up to where both agree, then down.  There are
none when the two share no component, unless both are empty. -/
def relativeParts (source goal : List Component) : Option (List Component) :=
  let shared := sharedLength source goal
  if shared = 0 && !(source.isEmpty && goal.isEmpty) then none
  else some (List.replicate (source.length - shared) .parent ++ goal.drop shared)

/-- The relative path from `source` to `goal`, both in normal form. -/
def relativeTo? (source goal : Path) : Option Path :=
  (relativeParts source.normalForm goal.normalForm).map ofComponents

/-- The steps from directory `base` to `file` where `..` is an ordinary step of `file`;
none when `base` goes up where the two part. -/
def differenceParts : List Component → List Component → Bool → Option (List Component)
  | [], [], _ => some []
  | file, [], _ => some file
  | [], _ :: base, _ => (differenceParts [] base true).map (.parent :: ·)
  | a :: file, b :: base, parted =>
    if !parted && a = b then differenceParts file base false
    else if b = .here then (differenceParts file base true).map (a :: ·)
    else if b = .parent then none
    else some (List.replicate (base.length + 1) .parent ++ a :: file)

/-- The path from directory `base` to `file`. -/
def difference? (file base : Path) : Option Path :=
  if file.isRooted != base.isRooted then
    if file.isRooted then some file else none
  else (differenceParts file.components base.components false).map ofComponents

end Path

end CompileIndex
