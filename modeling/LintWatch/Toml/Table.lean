import LintWatch.Toml.Value

/-! Tables while a TOML document is read. A table defined by a header stays open until the
next header; a table also comes into being as the parent named by a longer header
(`implicit`) or by a dotted key (`dotted`). The rules of the format then say which later
lines may add to a table:

* a header may define an implicit table, unless dotted keys made it;
* dotted keys may add to tables that dotted keys made, never to one a header defined or
  named as a parent;
* nothing adds to a value written after an equals sign, inline tables included, except
  dotted keys inside that same inline table. -/
namespace LintWatch.Toml

/-- A member of a table under construction. -/
inductive Item where
  | value (v : Value)
  | table (members : List (String × Item)) (implicit dotted : Bool)
  | tables (items : List (List (String × Item)))
  deriving Inhabited

abbrev Members := List (String × Item)

def lookup (ms : Members) (k : String) : Option Item := (ms.find? (·.1 == k)).map (·.2)

/-- Replaces the member `k`, or adds it at the end. -/
def setMember (ms : Members) (k : String) (i : Item) : Members :=
  if ms.any (·.1 == k) then ms.map fun (k', i') => if k' == k then (k, i) else (k', i')
  else ms ++ [(k, i)]

def removeMember (ms : Members) (k : String) : Members := ms.filter (·.1 != k)

mutual
/-- The finished value of a member. -/
def Item.toValue : Item → Value
  | .value v => v
  | .table ms _ _ => .table (membersToValue ms)
  | .tables ts => .arr (tablesToValue ts)

def membersToValue : Members → List (String × Value)
  | [] => []
  | (k, i) :: rest => (k, i.toValue) :: membersToValue rest

def tablesToValue : List Members → List Value
  | [] => []
  | ms :: rest => .table (membersToValue ms) :: tablesToValue rest
end

/-- The members of a finished table, opened again for dotted keys inside an inline table. -/
def reopen (fields : List (String × Value)) : Members := fields.map fun (k, v) => (k, .value v)

/-- Walks down `path` from a table of the document and applies `f` to the members of the
table at its end, passing that table's `dotted` flag. Missing tables are made implicit, and
dotted when the walk follows a dotted key. An array of tables is entered at its last table.
The walk cannot pass a value, and a dotted key cannot pass a table a header defined. -/
def descend {α : Type} (dotted : Bool) (f : Members → Bool → Except String (Members × α)) :
    List String → Members → Bool → Except String (Members × α)
  | [], ms, isDotted => f ms isDotted
  | k :: rest, ms, _ =>
    match lookup ms k with
    | none => do
      let (sub, a) ← descend dotted f rest [] dotted
      .ok (setMember ms k (.table sub true dotted), a)
    | some (.value _) => .error ("cannot add to the value " ++ k)
    | some (.tables ts) =>
      match ts.getLast? with
      | some last => do
        let (sub, a) ← descend dotted f rest last false
        .ok (setMember ms k (.tables (ts.dropLast ++ [sub])), a)
      | none => .error ("empty array of tables " ++ k)
    | some (.table sub imp dot) =>
      if dotted && !imp then .error ("duplicate key " ++ k)
      else do
        let (sub, a) ← descend dotted f rest sub dot
        .ok (setMember ms k (.table sub imp dot), a)

/-- Walks down `path` inside an inline table, making missing tables dotted ones, and applies
`f` at its end as `descend` does. Any table inside the inline table may be entered, one
written out in braces too. -/
def descendInline (f : Members → Bool → Except String Members) :
    List String → Members → Bool → Except String Members
  | [], ms, isDotted => f ms isDotted
  | k :: rest, ms, _ =>
    match lookup ms k with
    | none => do
      let sub ← descendInline f rest [] true
      .ok (setMember ms k (.table sub true true))
    | some (.table sub imp dot) => do
      let sub ← descendInline f rest sub dot
      .ok (setMember ms k (.table sub imp dot))
    | some (.value (.table fields)) => do
      let sub ← descendInline f rest (reopen fields) false
      .ok (setMember ms k (.table sub false false))
    | some _ => .error ("cannot add to the value " ++ k)

/-- Adds `key = v` below the dotted `path` of a table whose members are `ms`. A plain key
goes into a table no dotted key made, a dotted one into a table dotted keys made; a key
already there is refused. -/
def addPair (ms : Members) (path : List String) (key : String) (v : Value) (inline : Bool) :
    Except String Members :=
  let put (ms : Members) (isDotted : Bool) : Except String Members :=
    if isDotted == path.isEmpty then .error ("duplicate key " ++ key)
    else if (lookup ms key).isSome then .error ("duplicate key " ++ key)
    else .ok (ms ++ [(key, .value v)])
  if inline then descendInline put path ms false
  else (descend true (fun ms d => (put ms d).map (·, ())) path ms false).map (·.1)

/-- The inline table written as these dotted keys and values, in order. -/
def inlineTable (pairs : List (List String × Value)) : Except String Value := do
  let ms ← pairs.foldlM (fun ms (parts, v) =>
    match parts.getLast? with
    | some key => addPair ms parts.dropLast key v true
    | none => .error "empty key") []
  .ok (.table (membersToValue ms))

/-- A document being read: the tables finished so far, and the table the last header
opened, kept apart until the next header. -/
structure Reader where
  root : Members := []
  current : Members := []
  currentPath : List String := []
  currentIsArray : Bool := false
  deriving Inhabited

namespace Reader

/-- Adds a line `path.key = v` to the open table. -/
def pair (r : Reader) (path : List String) (key : String) (v : Value) : Except String Reader := do
  .ok { r with current := ← addPair r.current path key v false }

/-- Puts the open table in its place in the document. -/
def finish (r : Reader) : Except String Reader :=
  match r.currentPath.getLast? with
  | none => .ok { r with root := r.current, current := [] }
  | some key => do
    let table := r.current
    let place (ms : Members) (_ : Bool) : Except String (Members × Unit) :=
      if r.currentIsArray then
        match lookup ms key with
        | none => .ok (setMember ms key (.tables [table]), ())
        | some (.tables ts) => .ok (setMember ms key (.tables (ts ++ [table])), ())
        | some _ => .error ("duplicate key " ++ key)
      else
        match lookup ms key with
        | none => .ok (setMember ms key (.table table false false), ())
        | some (.table _ true _) => .ok (setMember ms key (.table table false false), ())
        | some _ => .error ("duplicate key " ++ key)
    let (root, _) ← descend false place r.currentPath.dropLast r.root false
    .ok { root, current := [], currentPath := [], currentIsArray := false }

/-- Opens the table of a header `[path]`; a table that was only implicit so far is taken up
with what it holds. -/
def header (r : Reader) (path : List String) : Except String Reader := do
  let r ← r.finish
  match path.getLast? with
  | none => .error "empty header"
  | some key =>
    let take (ms : Members) (_ : Bool) : Except String (Members × Members) :=
      match lookup ms key with
      | none => .ok (ms, [])
      | some (.table sub true false) => .ok (removeMember ms key, sub)
      | some _ => .error ("duplicate table " ++ key)
    let (root, taken) ← descend false take path.dropLast r.root false
    .ok { root, current := taken, currentPath := path, currentIsArray := false }

/-- Opens a new table of the array of tables of a header `[[path]]`. -/
def arrayHeader (r : Reader) (path : List String) : Except String Reader := do
  let r ← r.finish
  match path.getLast? with
  | none => .error "empty header"
  | some key =>
    let make (ms : Members) (_ : Bool) : Except String (Members × Unit) :=
      match lookup ms key with
      | none => .ok (setMember ms key (.tables []), ())
      | some (.tables _) => .ok (ms, ())
      | some _ => .error ("duplicate key " ++ key)
    let (root, _) ← descend false make path.dropLast r.root false
    .ok { root, current := [], currentPath := path, currentIsArray := true }

/-- The finished document. -/
def close (r : Reader) : Except String Value := do
  let r ← r.finish
  .ok (.table (membersToValue r.root))

end Reader

end LintWatch.Toml
