import LintWatch.Api.Classify
import LintWatch.Api.Scratch
import LintWatch.Watch.Filter

/-! Requests on the watch filter: which paths it passes, and the built-in extensions. -/
namespace LintWatch.Api

open Watch

def answerFilter (j : Json) : Decode Json := do
  let watch ← sectionOr j "watch" {} WatchConfig.ofJson
  let f ← lift (Filter.new watch)
  let requireFile ← boolOr j "require_file" false
  let items ← listOr j "items"
  let (tree, place) ← match member? j "files" with
    | some _ => do .ok (← requestTree j, requestPath)
    | none => .ok (({} : FileSystem), id)
  let results ← items.mapM fun item => do
    let path ← match item with
      | .str s => .ok (place s)
      | _ => bad "item is not a string"
    .ok (.obj [("accepts", .bool ((!requireFile || tree.isFile path) && f.admits path)),
      ("ignored", .bool (f.isIgnored path))])
  .ok (.obj [("results", .arr results)])

def answerExtensions : Json :=
  .obj [("extensions", .arr ((builtinExtensions.mergeSort fun a b => a ≤ b).map .str))]

end LintWatch.Api
