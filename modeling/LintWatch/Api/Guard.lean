import LintWatch.Api.Fields
import LintWatch.Config.Decode
import LintWatch.Guard

/-! Requests on the resource guard, with a fixed sample of the process's use. -/
namespace LintWatch.Api

def sampleOf (j : Json) : Decode Sample := do
  match member? j "sample" with
  | none => .ok {}
  | some s => .ok { heapBytes := ← natOr s "heap_bytes" 0,
                    cpuPercent := (← floatOr s "cpu_percent" 0.0).toFloat32 }

def float32Answer (x : Float32) : Json := floatAnswer x.toFloat

def refusalJson : Refusal → Json
  | .noWorkers => .obj [("kind", .str "NoWorkers")]
  | .batchTime spent limit =>
    .obj [("kind", .str "BatchTime"), ("spent_ms", .ofNat spent), ("limit_ms", .ofNat limit)]
  | .heap used limit =>
    .obj [("kind", .str "Heap"), ("used_bytes", .ofNat used), ("limit_bytes", .ofNat limit)]
  | .cpu usage limit =>
    .obj [("kind", .str "Cpu"), ("usage_percent", float32Answer usage),
      ("limit_percent", float32Answer limit)]

/-- One step of a guard request. -/
inductive GuardStep where
  | grant
  | evaluate
  | record (ms : Nat)
  | beginBatch
  | checkSize (size : Nat)
  | debug

def guardStepOf (j : Json) : Decode GuardStep := do
  match ← string j "op" with
  | "admit" => .ok .grant
  | "evaluate" => .ok .evaluate
  | "record" => .record <$> natOr j "ms" 0
  | "begin_batch" => .ok .beginBatch
  | "check_size" => .checkSize <$> natOr j "size" 0
  | "debug" => .ok .debug
  | other => bad s!"unknown guard step {other}"

def answerGuard (j : Json) : Decode Json := do
  let config ← sectionOr j "guard" {} GuardConfig.ofJson
  let sample ← sampleOf j
  let steps ← (← listOr j "steps").mapM guardStepOf
  let run (g : Guard) : GuardStep → List Field × Guard
    | .grant => let (ok, g) := g.grant sample
      ([("admitted", .bool ok)], g)
    | .evaluate => match g.evaluate sample with
      | .admitted => ([("admission", .str "Admitted")], g)
      | .refused r => ([("admission", .str "Refused"), ("refusal", refusalJson r)], g)
    | .record ms => ([], g.recordProcessing ms)
    | .beginBatch => ([], g.beginBatch)
    | .checkSize size => match checkSize config.maxFileSizeBytes size with
      | .accepted n => ([("size", .str "Accepted"), ("size_bytes", .ofNat n)], g)
      | .tooLarge n limit =>
        ([("size", .str "TooLarge"), ("size_bytes", .ofNat n), ("limit_bytes", .ofNat limit)], g)
    | .debug => ([("debug", .str g.debugText)], g)
  let guard := Guard.new config
  let (answers, _) := steps.foldl (fun (acc, g) step =>
    let (fields, g) := run g step
    (acc ++ [Json.obj (fields ++ [("batch_time_ms", .ofNat g.batchTimeMs),
      ("refusals_total", .ofNat g.refusals)])], g)) ([], guard)
  .ok (.obj [("max_workers", .ofNat guard.maxWorkers), ("steps", .arr answers)])

end LintWatch.Api
