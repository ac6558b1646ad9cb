/-!
# Paths

A path keeps the text it was given.  Two paths name the same place when their *components*
agree: runs of slashes count once, a `.` counts only in front, a trailing slash is dropped and
`..` is never folded.

* `Path.components` — the steps a text spells;
* `Path.Same` — equality of components, decidable;
* `Path.join`, `Path.resolve` — a path put below a base, and the same for paths that may
  already be absolute;
* `Path.fileName`, `Path.parent`, `Path.ancestors` — the end of a path and what stands
  before it;
* `Path.absolute?` — a path made absolute against the current directory.
-/

namespace CompileIndex

/-- One step of a path. -/
inductive Component where
  /-- The slash in front of an absolute path. -/
  | root
  /-- A `.` in front of a relative path. -/
  | here
  /-- A `..` anywhere. -/
  | parent
  /-- Any other name. -/
  | name (text : String)
  deriving DecidableEq, Repr

/-- A path as it was written. -/
structure Path where
  text : String
  deriving DecidableEq, Repr

namespace Component

/-- How a component is spelled. -/
def text : Component → String
  | root => "/"
  | here => "."
  | parent => ".."
  | name t => t

/-- The component that a stretch of text between two slashes stands for, if any. -/
def ofPiece? : List Char → Option Component
  | [] => none
  | ['.'] => none
  | ['.', '.'] => some parent
  | piece => some (name (String.ofList piece))

end Component

namespace Path

/-- The stretches of text between slashes; there is always at least one. -/
def pieces : List Char → List (List Char)
  | [] => [[]]
  | c :: rest =>
    if c = '/' then [] :: pieces rest
    else match pieces rest with
      | [] => [[c]]
      | piece :: more => (c :: piece) :: more

/-- The components that a text spells. -/
def componentsOf (text : List Char) : List Component :=
  match pieces text with
  | [] => []
  | [] :: [] => []
  | [] :: more => .root :: more.filterMap Component.ofPiece?
  | ['.'] :: more => .here :: more.filterMap Component.ofPiece?
  | piece :: more => (piece :: more).filterMap Component.ofPiece?

/-- The components of a path. -/
def components (p : Path) : List Component :=
  componentsOf p.text.toList

/-- Two paths are the same when their components are. -/
def Same (p q : Path) : Prop :=
  p.components = q.components

instance (p q : Path) : Decidable (p.Same q) :=
  inferInstanceAs (Decidable (p.components = q.components))

theorem Same.refl (p : Path) : p.Same p := rfl

theorem Same.symm {p q : Path} (h : p.Same q) : q.Same p := Eq.symm h

theorem Same.trans {p q r : Path} (h : p.Same q) (k : q.Same r) : p.Same r := Eq.trans h k

/-- Whether a path starts at the root. -/
def isRooted (p : Path) : Bool :=
  p.text.toList.head? = some '/'

/-- Whether a path starts with a drive letter, a colon and a separator. -/
def hasDrive (p : Path) : Bool :=
  match p.text.toList with
  | letter :: ':' :: separator :: _ => letter.isAlpha && (separator = '\\' || separator = '/')
  | _ => false

/-- Whether a path starts with two backslashes, as shares on other machines do. -/
def isShare (p : Path) : Bool :=
  match p.text.toList with
  | '\\' :: '\\' :: _ => true
  | _ => false

/-- Whether a path needs no base: it starts at the root, at a drive or at a share. -/
def isAbsolute (p : Path) : Bool :=
  p.isRooted || p.hasDrive || p.isShare

/-- `p` below `base`.  A rooted `p` replaces the base; else one slash separates the two, and
none is added behind an empty base or behind a slash. -/
def join (base p : Path) : Path :=
  if p.isRooted then p
  else if base.text = "" || base.text.toList.getLast? = some '/' then ⟨base.text ++ p.text⟩
  else ⟨base.text ++ "/" ++ p.text⟩

/-- `p` itself when it needs no base, else `p` below `base`. -/
def resolve (base p : Path) : Path :=
  if p.isAbsolute then p else base.join p

/-- The last component when it is a name. -/
def fileName (p : Path) : Option String :=
  match p.components.getLast? with
  | some (.name n) => some n
  | _ => none

/-- Whether a stretch between slashes spells no component. -/
def isSilent (piece : List Char) : Bool :=
  piece = [] || piece = ['.']

/-- Pieces, last one first, without the silent ones at the end; the very first piece stays. -/
def dropSilent : List (List Char) → List (List Char)
  | [] => []
  | [first] => [first]
  | piece :: more => if isSilent piece then dropSilent more else piece :: more

/-- Pieces put together again with slashes between them. -/
def unpieces : List (List Char) → List Char
  | [] => []
  | [piece] => piece
  | piece :: more => piece ++ '/' :: unpieces more

/-- The path without its last component; none for the root and for the empty path. -/
def parent (p : Path) : Option Path :=
  match p.components.getLast? with
  | none => none
  | some .root => none
  | some _ =>
    let kept := dropSilent ((dropSilent (pieces p.text.toList).reverse).drop 1)
    match kept with
    | [[]] => some ⟨"/"⟩
    | _ => some ⟨String.ofList (unpieces kept.reverse)⟩

/-- A path, its parent, the parent of that and so on, at most `n` paths. -/
def ancestorsUpTo : Nat → Path → List Path
  | 0, _ => []
  | n + 1, p => p :: (match p.parent with
    | some q => ancestorsUpTo n q
    | none => [])

/-- A path and all paths above it, the nearest first. -/
def ancestors (p : Path) : List Path :=
  ancestorsUpTo (p.components.length + 1) p

/-- A component added at the end of a path. -/
def push (p : Path) (c : Component) : Path :=
  p.join ⟨c.text⟩

/-- The path that lists the given components. -/
def ofComponents (cs : List Component) : Path :=
  cs.foldl push ⟨""⟩

/-- How a path that is not empty is spelled when it is made absolute against the current directory
`cwd`.  No `..` is folded: silent pieces go, two leading slashes stay two and a trailing slash is
kept. -/
def anchored (cwd p : Path) : Path :=
  let cs := p.components
  let base : Path :=
    match p.text.toList with
    | '/' :: '/' :: '/' :: _ => ⟨""⟩
    | '/' :: '/' :: _ => ⟨"//"⟩
    | '/' :: _ => ⟨""⟩
    | _ => cwd
  let steps :=
    match cs with
    | .here :: more => more
    | .root :: more => if base.text = "//" then more else cs
    | _ => cs
  let whole := steps.foldl push base
  if p.text.toList.getLast? = some '/' then whole.join ⟨""⟩ else whole

/-- A path made absolute against the current directory `cwd`; an empty path cannot be. -/
def absolute? (cwd p : Path) : Option Path :=
  if p.text = "" then none else some (anchored cwd p)

end Path

end CompileIndex
