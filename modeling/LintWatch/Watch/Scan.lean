import LintWatch.FileSystem.Listing
import LintWatch.Watch.Filter

/-! The initial scan: every file below the root that the filter admits, in walking order.
The walk visits a directory's entries in the order the directory lists them, and goes into a
directory as soon as it meets it; an ignored entry is passed over, and an ignored directory
is not entered. -/
namespace LintWatch.Watch

/-- The admitted files below `dir`, in walking order; `fuel` bounds the depth. -/
def scanBelow (fs : FileSystem) (f : Filter) (dir : String) : (fuel : Nat) → List String
  | 0 => []
  | fuel + 1 =>
    (fs.listing dir).flatMap fun (name, node) =>
      let path := Path.join dir name
      if f.isIgnored path then []
      else match node with
        | .directory => scanBelow fs f path fuel
        | .file _ => if f.admits path then [path] else []

/-- The admitted files of the tree below `root`, in walking order. -/
def scanTree (fs : FileSystem) (f : Filter) (root : String) : List String :=
  if f.isIgnored root || !fs.isDirectory root then []
  else scanBelow fs f root (fs.nodes.size + 1)

end LintWatch.Watch
