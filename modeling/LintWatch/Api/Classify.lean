import LintWatch.Api.Fields
import LintWatch.Config.Decode
import LintWatch.Schedule.Cost
import LintWatch.Schedule.Priority

/-! Requests on single paths: their validation cost and their classification. -/
namespace LintWatch.Api

open Schedule

def answerCost (j : Json) : Decode Json := do
  let items ← listOr j "items"
  let results ← items.mapM fun item => do
    let path ← string item "path"
    let size ← natOr item "size" 0
    let cls := FileClass.ofPath path
    .ok (.obj [("class", .str cls.label), ("baseline_ms", .ofNat cls.baselineMs),
      ("size_factor", floatAnswer (sizeFactor size)),
      ("cost_ms", .ofNat (estimateCostMs path size))])
  .ok (.obj [("results", .arr results)])

def answerClassify (j : Json) : Decode Json := do
  let config ← sectionOr j "classify" {} ClassifyConfig.ofJson
  let root := match member? j "root" with
    | some (.str r) => some r
    | _ => none
  let c ← lift (Classifier.new config root)
  let items ← listOr j "items"
  let results ← items.mapM fun item => do
    let path ← string item "path"
    let kind ← kindOr item
    .ok (.obj [("is_source", .bool (c.isSource path)), ("is_config", .bool (c.isConfig path)),
      ("is_test", .bool (c.isTest path)), ("priority", .ofNat (c.priority path kind))])
  .ok (.obj [("results", .arr results)])

end LintWatch.Api
