import LintWatch.Config.Basic
import LintWatch.Error
import LintWatch.Glob.Wildcard
import LintWatch.Path

/-! Which paths the watch passes on: a path must have one of the supported extensions and
escape every ignore pattern, which is matched against the whole text of the path. -/
namespace LintWatch.Watch

open Glob

/-- The extensions validated when the settings name none. -/
def builtinExtensions : List String :=
  ["rs", "ts", "tsx", "js", "jsx", "mjs", "cjs", "py", "java", "cs", "cpp", "cxx", "cc", "c",
    "h", "hpp", "go", "php", "rb", "swift", "kt", "lua", "sql", "html", "htm", "css", "scss",
    "vue", "sh", "bash", "dart", "r", "R", "md", "markdown", "json", "toml", "yml", "yaml", "ini",
    "xml"]

/-- Parses ignore patterns; the first that fails is named in the error. -/
def parseIgnore (patterns : List String) : Except Error (List Wildcard.Pattern) :=
  patterns.mapM fun p => match Wildcard.Pattern.parse p with
    | .ok pattern => .ok pattern
    | .error e => .error (.pattern p e.message)

/-- The extensions and ignore patterns of a watch. -/
structure Filter where
  extensions : List String
  ignore : List Wildcard.Pattern
  deriving Inhabited

namespace Filter

/-- Settings' extensions lose their leading dots; none at all means the built-in list. -/
def new (c : WatchConfig) : Except Error Filter := do
  let extensions := if c.extensions.isEmpty then builtinExtensions
    else c.extensions.map fun e => String.ofList (e.toList.dropWhile (· == '.'))
  .ok { extensions, ignore := ← parseIgnore c.ignorePatterns }

def isIgnored (f : Filter) (path : String) : Bool := f.ignore.any (·.matchesPath path)

/-- A supported extension and no ignore pattern; whether the path is a file is the
caller's to ask. -/
def admits (f : Filter) (path : String) : Bool :=
  match Path.extension? path with
  | some ext => f.extensions.contains ext && !f.isIgnored path
  | none => false

end Filter

end LintWatch.Watch
