/-! File paths as text, read the way a Unix system reads them. A path is a list of
components: an optional root (`/`), an optional leading `.` (only when the whole path is `.`
or starts with `./`), then the pieces between slashes, where empty pieces and interior `.`
pieces are dropped. Two paths are the same path when their components agree, so `a//b/` and
`a/b` name one file; order compares components the same way. -/
namespace LintWatch.Path

/-- One step of a path. The constructors are listed in the order paths sort by. -/
inductive Component where
  | root
  | current
  | parent
  | normal (name : String)
  deriving Repr, BEq, DecidableEq, Inhabited

def Component.rank : Component → Nat
  | .root => 0
  | .current => 1
  | .parent => 2
  | .normal _ => 3

/-- Components compare by kind first, then names by their bytes. -/
def Component.compare (a b : Component) : Ordering :=
  match a, b with
  | .normal x, .normal y => Ord.compare x y
  | a, b => Ord.compare a.rank b.rank

instance : Ord Component := ⟨Component.compare⟩

/-- The component one piece between slashes stands for; empty and `.` pieces stand for none. -/
def Component.ofPiece? : String → Option Component
  | "" => none
  | "." => none
  | ".." => some .parent
  | s => some (.normal s)

def isAbsolute (p : String) : Bool := p.startsWith "/"

/-- A relative path that begins with its own `.` component. -/
def startsAtCurrent (p : String) : Bool := !isAbsolute p && (p == "." || p.startsWith "./")

/-- The text before the pieces: the root slash or the leading `.`. -/
def head (p : String) : String :=
  if isAbsolute p then "/" else if startsAtCurrent p then "." else ""

/-- The text after the head, split at every slash. -/
def pieces (p : String) : List String :=
  ((p.toList.drop (head p).length).splitOn '/').map String.ofList

def components (p : String) : List Component :=
  (if isAbsolute p then [.root] else if startsAtCurrent p then [.current] else []) ++
    (pieces p).filterMap Component.ofPiece?

def Component.label : Component → String
  | .root => ""
  | .current => "."
  | .parent => ".."
  | .normal name => name

/-- The canonical text of a path: its components joined by slashes. Two texts name the same
path exactly when their canonical texts agree. -/
def normalize (p : String) : String :=
  match components p with
  | [.root] => "/"
  | cs => "/".intercalate (cs.map Component.label)

/-- Whether two texts name the same path. -/
def same (a b : String) : Bool := components a == components b

/-- Paths in component order. -/
def order (a b : String) : Ordering :=
  List.compareLex Component.compare (components a) (components b)

/-- The name of the last component, when it is a plain name. -/
def fileName? (p : String) : Option String :=
  match (components p).getLast? with
  | some (.normal s) => some s
  | _ => none

/-- The text after the last dot of the file name; a name whose only dot leads it (`.profile`)
has none, and `file.` has the empty extension. -/
def extension? (p : String) : Option String := do
  let name ← fileName? p
  let cs := name.toList
  let dot ← cs.reverse.findIdx? (· == '.')
  let before := cs.length - 1 - dot
  if before == 0 then none else some (String.ofList (cs.drop (before + 1)))

/-- `base` followed by `p`; an absolute `p` stands for itself. A slash is put between them
unless `base` is empty or already ends in one. -/
def join (base p : String) : String :=
  if isAbsolute p then p
  else if base.isEmpty || base.endsWith "/" then base ++ p
  else base ++ "/" ++ p

/-- Whether a piece stands for no component. -/
def isBlankPiece (s : String) : Bool := s.isEmpty || s == "."

/-- Pieces without the blank ones at their end. -/
def trimEnd (ps : List String) : List String :=
  (ps.reverse.dropWhile isBlankPiece).reverse

/-- Drops the pieces that make up the first `n` components. -/
def dropComponents : Nat → List String → List String
  | 0, ps => ps
  | _, [] => []
  | n + 1, p :: ps =>
    if isBlankPiece p then dropComponents (n + 1) ps
    else dropComponents n ps

/-- The rest of `p` after the components of `base`, when `base`'s components lead `p`'s.
The rest keeps the text between its first and last component as written; when `base` has
no component at all, `p` keeps its head. -/
def stripPrefix? (p base : String) : Option String :=
  let pc := components p
  let bc := components base
  if bc.isPrefixOf pc then
    if bc.isEmpty then some (head p ++ "/".intercalate (trimEnd (pieces p)))
    else
      let body := dropComponents (bc.length - (if head p == "" then 0 else 1)) (pieces p)
      some ("/".intercalate (trimEnd (body.dropWhile isBlankPiece)))
  else none

/-- The text of `p` below `root` when `p` lies under it, else `p` itself. -/
def relativeTo (root p : String) : String := (stripPrefix? p root).getD p

/-- The path without its last component, the text before that component kept as written;
the root and the empty path have none. -/
def parent? (p : String) : Option String :=
  match (components p).getLast? with
  | none | some .root => none
  | some _ => some (head p ++ "/".intercalate (trimEnd (trimEnd (pieces p)).dropLast))

/-- The path with the extension of its file name replaced by `ext`, or given `ext` when it
has none; the text ends right after the new extension. A path without a file name stays as
it is. -/
def withExtension (p ext : String) : String :=
  match fileName? p with
  | none => p
  | some _ =>
    let upto := head p ++ "/".intercalate (trimEnd (pieces p))
    let dropped := match extension? p with
      | some e => e.length + 1
      | none => 0
    let cut := String.ofList (upto.toList.take (upto.length - dropped))
    if ext.isEmpty then cut else cut ++ "." ++ ext

end LintWatch.Path
