import LintWatch.Config.Basic
import LintWatch.Change
import LintWatch.Error
import LintWatch.Glob.Braced.Match
import LintWatch.Path

/-! Priorities of changed paths. A path is matched below the watched root (a path outside
it is matched as written) against three sets of globs. Its priority starts at one, gains
two for source, one for configuration and one for a new file, loses one for a test, and is
never below one. -/
namespace LintWatch.Schedule

open Glob.Braced

/-- The three glob sets, and the root that paths are matched below. -/
structure Classifier where
  root : Option String
  source : GlobSet
  config : GlobSet
  test : GlobSet
  deriving Inhabited

/-- Parses one list of patterns; a pattern that fails is named in the error. -/
def parsePatterns (patterns : List String) : Except Error GlobSet :=
  match GlobSet.parse patterns with
  | .ok set => .ok set
  | .error e => .error (.pattern e.glob e.message)

namespace Classifier

def new (c : ClassifyConfig) (root : Option String) : Except Error Classifier := do
  let source ← parsePatterns c.sourcePatterns
  let config ← parsePatterns c.configPatterns
  let test ← parsePatterns c.testPatterns
  .ok { root, source, config, test }

/-- The text matched against the globs. -/
def relative (c : Classifier) (path : String) : String :=
  match c.root with
  | some root => Path.relativeTo root path
  | none => path

def isSource (c : Classifier) (path : String) : Bool := c.source.accepts (c.relative path)

def isConfig (c : Classifier) (path : String) : Bool := c.config.accepts (c.relative path)

def isTest (c : Classifier) (path : String) : Bool := c.test.accepts (c.relative path)

def priority (c : Classifier) (path : String) (kind : ChangeKind) : Nat :=
  let raised := 1 + (if c.isSource path then 2 else 0) + (if c.isConfig path then 1 else 0) +
    (if kind == .added then 1 else 0)
  max (raised - (if c.isTest path then 1 else 0)) 1

end Classifier

end LintWatch.Schedule
