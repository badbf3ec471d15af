import Std.Data.TreeMap
import LintWatch.Guard
import LintWatch.FileSystem
import LintWatch.Schedule.Debounce
import LintWatch.Rules.Validate

/-! Processing a batch. Entries are taken in batch order. A removal is skipped and its
fingerprint forgotten. Every other entry must be granted by the resource guard, or it is
handed back to the pending set; a granted entry is then checked for size, read, compared
with the fingerprint of its last successful validation, and validated. A file that is
missing, unreadable, slow to read or refused by the validator counts as failed; a file
over the size limit is skipped; a file whose content has not changed since its last
successful validation is unchanged. Validation takes no measurable time here, so the
batch's time budget is never spent by it. -/
namespace LintWatch.Service

open Schedule

/-- What a validator makes of a file: violations, an error, or a crash. -/
inductive Verdict where
  | ok (violations : List Violation)
  | error (reason : String)
  | crash
  deriving Inhabited

/-- A validator: the path of a file and its bytes to a verdict. -/
abbrev Validator := String → ByteArray → Verdict

/-- The built-in rules with a line limit. -/
def rulesValidator (limit : Nat) : Validator := fun path bytes =>
  match Rules.validate limit path bytes with
  | .ok vs => .ok vs
  | .error e => .error e.message

/-- What happened to the entries of a batch. -/
structure Report where
  sequence : Nat
  /-- Results of the files validated, in the order they were validated. -/
  results : List ValidationResult := []
  /-- Entries the guard refused, in batch order. -/
  refused : List Entry := []
  failed : Nat := 0
  skipped : Nat := 0
  unchanged : Nat := 0
  deriving Inhabited

namespace Report

def validated (r : Report) : Nat := r.results.length

def deferred (r : Report) : Nat := r.refused.length

end Report

/-- What became of one granted entry. -/
inductive Outcome where
  | validated (r : ValidationResult)
  | unchanged
  | oversized
  | failed
  deriving Inhabited

/-- The parts of a service that process batches: the validator, the guard with the sample
its probe reports, the file limits, and the content of each path at its last successful
validation, keyed by the canonical text of the path. -/
structure Processor where
  validator : Validator
  guard : Guard
  sample : Sample
  maxFileSizeBytes : Nat
  readTimeoutMs : Nat
  fingerprints : Std.TreeMap String ByteArray := ∅

namespace Processor

/-- Whether the last successful validation of a path saw these bytes. -/
def seen (p : Processor) (path : String) (bytes : ByteArray) : Bool :=
  match p.fingerprints[Path.normalize path]? with
  | some old => old.data == bytes.data
  | none => false

def remember (p : Processor) (path : String) (bytes : ByteArray) : Processor :=
  { p with fingerprints := p.fingerprints.insert (Path.normalize path) bytes }

def forget (p : Processor) (path : String) : Processor :=
  { p with fingerprints := p.fingerprints.erase (Path.normalize path) }

/-- Validates one granted entry against the files of `fs`. A read with no time allowed
always runs out of time. -/
def check (p : Processor) (fs : FileSystem) (e : Entry) : Outcome × Processor :=
  match fs.size? e.path with
  | none => (.failed, p)
  | some size =>
    match checkSize p.maxFileSizeBytes size with
    | .tooLarge _ _ => (.oversized, p)
    | .accepted _ =>
      match fs.read e.path with
      | .error _ => (.failed, p)
      | .ok bytes =>
        if p.readTimeoutMs == 0 then (.failed, p)
        else if p.seen e.path bytes then (.unchanged, p)
        else match p.validator e.path bytes with
          | .ok vs => (.validated ⟨e.path, vs, 0⟩, p.remember e.path bytes)
          | _ => (.failed, p)

/-- Processes entries in order, adding to the report. -/
def run (fs : FileSystem) : Processor → Report → List Entry → Report × Processor
  | p, r, [] => (r, p)
  | p, r, e :: rest =>
    if e.kind == .removed then run fs (p.forget e.path) { r with skipped := r.skipped + 1 } rest
    else
      let (granted, guard) := p.guard.grant p.sample
      let p := { p with guard }
      if !granted then run fs p { r with refused := r.refused ++ [e] } rest
      else
        let (outcome, p) := p.check fs e
        let r := match outcome with
          | .validated result => { r with results := r.results ++ [result] }
          | .unchanged => { r with unchanged := r.unchanged + 1 }
          | .oversized => { r with skipped := r.skipped + 1 }
          | .failed => { r with failed := r.failed + 1 }
        run fs p r rest

/-- Processes a batch: the guard's time budget starts afresh, then every entry is taken in
turn. -/
def process (p : Processor) (fs : FileSystem) (b : Batch) : Report × Processor :=
  run fs { p with guard := p.guard.beginBatch } { sequence := b.sequence } b.entries

end Processor

end LintWatch.Service
