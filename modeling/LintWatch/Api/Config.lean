import LintWatch.Api.Scratch
import LintWatch.Config.Store

/-! Requests on settings: read from settings text written to the settings file of the
working directory, from a JSON document, or the defaults; then, on request, written back
and read again. The answer shows the settings and the durations and limits drawn from
them. -/
namespace LintWatch.Api

/-- The settings of a request, and the tree they were read from. -/
def requestSettings (j : Json) : Decode (FileSystem × Settings) :=
  let fs := freshTree
  match member? j "toml", member? j "json" with
  | some (.str text), _ => do
    let fs ← liftIo (fs.writeFileAll (Settings.filePath scratchRoot) (.bytes text.toUTF8))
    .ok (fs, ← lift (Settings.load fs scratchRoot))
  | some _, _ => bad "field toml is not a string"
  | none, some doc => do
    let s ← shaped (Settings.ofJson doc)
    lift s.validate
    .ok (fs, s)
  | none, none => do .ok (fs, ← lift (Settings.load fs scratchRoot))

def answerConfig (j : Json) : Decode Json := do
  let (fs, s) ← requestSettings j
  let roundtrip ← boolOr j "roundtrip" false
  let same ← if roundtrip then do
      let fs ← lift (s.save fs scratchRoot)
      let back ← lift (Settings.load fs scratchRoot)
      pure (Json.bool (s.same back))
    else pure .null
  let c := s.scheduler
  .ok (.obj [("config", s.toJson), ("standard_delay_ms", .ofNat c.standardDelayMs),
    ("burst_delay_ms", .ofNat c.burstDelayMs), ("trickle_delay_ms", .ofNat c.trickleDelayMs),
    ("tick_ms", .ofNat c.tickIntervalMs), ("age_boost_ms", .ofNat c.ageBoostMs),
    ("max_heap_bytes", .ofNat s.guard.maxHeapBytes), ("read_timeout_ms", .ofNat s.guard.readTimeoutMs),
    ("shutdown_grace_ms", .ofNat s.shutdown.graceMs),
    ("history_path", .str (shownPath (s.historyFile scratchRoot))), ("roundtrip_equal", same)])

end LintWatch.Api
