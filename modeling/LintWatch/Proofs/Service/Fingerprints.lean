import LintWatch.Proofs.Service.Accounting

/-! What the processor remembers of the files it validated, over whole runs of batches. The
content remembered for a path is what the latest validation of the path read, unless a
removal of it came later; no other fate bears on it. So an entry whose file reads as that
content again is unchanged and goes no further, and every other entry that is admitted,
small enough and read goes to the validator. -/
namespace LintWatch.Service

open Schedule

/-- An entry taken through a batch, with the files as they stood and what became of it. -/
structure Visit where
  files : FileSystem
  entry : Entry
  fate : Fate

/-- Whether a fate bears on what is remembered of its path: a removal erases it, a
validation replaces it. -/
def Fate.bearsOnMemory : Fate → Bool
  | .removed | .checked (.validated _) => true
  | _ => false

/-- What a visit leaves remembered of its path when it bears on it: the bytes a validation
read, or nothing after a removal. -/
def Visit.leaves (v : Visit) : Option ByteArray :=
  match v.fate with
  | .checked (.validated _) => (v.files.read v.entry.path).toOption
  | _ => none

/-- The content remembered for a path after a log of visits: what the latest visit of the
path that removed or validated it left, or `before` when no visit did. -/
def remembered (before : Option ByteArray) (log : List Visit) (key : String) : Option ByteArray :=
  match log.reverse.find? (fun v => Path.normalize v.entry.path == key && v.fate.bearsOnMemory) with
  | some v => v.leaves
  | none => before

/-- What a validator's verdict on the bytes read makes of an entry. -/
def Outcome.ofVerdict (path : String) : Verdict → Outcome
  | .ok vs => .validated ⟨path, vs, 0⟩
  | _ => .failed

namespace Processor

/-- The visits of a batch's entries, taken in turn. -/
def visits (fs : FileSystem) : Processor → List Entry → List Visit
  | _, [] => []
  | p, e :: rest => ⟨fs, e, (p.visit fs e).1⟩ :: visits fs (p.visit fs e).2 rest

/-- The processor after visiting a batch's entries in turn. -/
def visitAll (fs : FileSystem) : Processor → List Entry → Processor
  | p, [] => p
  | p, e :: rest => visitAll fs (p.visit fs e).2 rest

/-- The processor after processing batches in turn, each against the files as they stood
while it was processed. -/
def processAll : Processor → List (FileSystem × Batch) → Processor
  | p, [] => p
  | p, (fs, b) :: rest => processAll (p.process fs b).2 rest

/-- Every visit of those batches, in order. -/
def history : Processor → List (FileSystem × Batch) → List Visit
  | _, [] => []
  | p, (fs, b) :: rest => p.opened.visits fs b.entries ++ history (p.process fs b).2 rest

end Processor

theorem rememberedAppend (before : Option ByteArray) (l l' : List Visit) (key : String) :
    remembered before (l ++ l') key = remembered (remembered before l key) l' key := by
  unfold remembered
  rw [List.reverse_append,List.find?_append]
  cases l'.reverse.find? (fun v => Path.normalize v.entry.path == key && v.fate.bearsOnMemory) <;> rfl

theorem rememberedCons (before : Option ByteArray) (v : Visit) (l : List Visit) (key : String) :
    remembered before (v :: l) key = remembered (remembered before [v] key) l key :=
  rememberedAppend before [v] l key

theorem rememberedSingle (before : Option ByteArray) (v : Visit) (key : String) :
    remembered before [v] key =
      if Path.normalize v.entry.path == key && v.fate.bearsOnMemory then v.leaves else before := by
  unfold remembered
  rw [List.reverse_singleton,List.find?_singleton]
  by_cases marks : (Path.normalize v.entry.path == key && v.fate.bearsOnMemory) = true <;> simp [marks]

namespace Processor

theorem seenIff (p : Processor) (path : String) (bytes : ByteArray) :
    p.seen path bytes = true ↔ p.fingerprints[Path.normalize path]? = some bytes := by
  unfold seen
  cases p.fingerprints[Path.normalize path]? with
  | none => simp
  | some old => simp [ByteArray.ext_iff]

theorem checkCases (p : Processor) (fs : FileSystem) (e : Entry) :
    (Fate.checked (p.check fs e).1).bearsOnMemory = false ∧ (p.check fs e).2 = p ∨
    ∃ bytes vs, fs.read e.path = .ok bytes ∧
      p.check fs e = (.validated ⟨e.path, vs, 0⟩, p.remember e.path bytes) := by
  -- every branch but a validation returns the processor as it was
  unfold check
  cases fs.size? e.path with
  | none => exact .inl ⟨rfl,rfl⟩
  | some size =>
    dsimp only
    cases checkSize p.maxFileSizeBytes size with
    | tooLarge _ _ => exact .inl ⟨rfl,rfl⟩
    | accepted _ =>
      dsimp only
      cases fs.read e.path with
      | error _ => exact .inl ⟨rfl,rfl⟩
      | ok bytes =>
        dsimp only
        split
        · exact .inl ⟨rfl,rfl⟩
        · split
          · exact .inl ⟨rfl,rfl⟩
          · cases p.validator e.path bytes with
            | ok vs => exact .inr ⟨bytes,vs,rfl,rfl⟩
            | error _ => exact .inl ⟨rfl,rfl⟩
            | crash => exact .inl ⟨rfl,rfl⟩

theorem checkRead {p : Processor} {fs : FileSystem} {e : Entry} {size : Nat} {c : ByteArray}
    (sized : fs.size? e.path = some size) (fits : size ≤ p.maxFileSizeBytes)
    (read : fs.read e.path = .ok c) (timely : p.readTimeoutMs ≠ 0) :
    (p.check fs e).1 = (if p.seen e.path c then .unchanged else Outcome.ofVerdict e.path (p.validator e.path c)) ∧
    (p.seen e.path c = true → (p.check fs e).2 = p) := by
  have accepted : checkSize p.maxFileSizeBytes size = .accepted size := by
    simp [checkSize,Nat.not_lt.mpr fits]
  have waits : (p.readTimeoutMs == 0) = false := by simpa using timely
  unfold check
  simp only [sized,accepted,read,waits,Bool.false_eq_true,if_false]
  by_cases known : p.seen e.path c = true
  · simp [known]
  · simp only [known,Bool.false_eq_true,if_false,false_implies,and_true]
    cases p.validator e.path c <;> rfl

theorem visitRemembered (p : Processor) (fs : FileSystem) (e : Entry) (k : String) :
    (p.visit fs e).2.fingerprints[k]? = remembered p.fingerprints[k]? [⟨fs,e,(p.visit fs e).1⟩] k := by
  rw [rememberedSingle]
  by_cases same : Path.normalize e.path = k
  · subst same
    rcases visitCases p fs e with ⟨-,h⟩ | ⟨-,-,h⟩ | ⟨-,-,h⟩ <;> rw [h]
    · simp [forget,Fate.bearsOnMemory,Visit.leaves]
    · simp [restate,Fate.bearsOnMemory]
    · rcases checkCases p fs e with ⟨quiet,unchanged⟩ | ⟨bytes,vs,read,checked⟩
      · simp [quiet,unchanged]
      · simp [checked,remember,Fate.bearsOnMemory,Visit.leaves,read,Except.toOption]
  · rw [visitFrame p fs e (Ne.symm same)]
    simp [same]

theorem visitAllRemembered (fs : FileSystem) (p : Processor) (es : List Entry) (k : String) :
    (p.visitAll fs es).fingerprints[k]? = remembered p.fingerprints[k]? (p.visits fs es) k := by
  induction es generalizing p with
  | nil => rfl
  | cons e rest ih => rw [visitAll,visits,ih,rememberedCons,visitRemembered]

theorem runVisitAll (fs : FileSystem) (p : Processor) (r : Report) (es : List Entry) :
    (run fs p r es).2 = p.visitAll fs es := by
  induction es generalizing p r with
  | nil => rfl
  | cons e rest ih => rw [runCons,ih]; rfl

theorem processAllRemembered (p : Processor) (rounds : List (FileSystem × Batch)) (k : String) :
    (p.processAll rounds).fingerprints[k]? = remembered p.fingerprints[k]? (p.history rounds) k := by
  induction rounds generalizing p with
  | nil => rfl
  | cons round rest ih =>
    obtain ⟨fs,b⟩ := round
    rw [processAll,history,ih,rememberedAppend,process,runVisitAll,visitAllRemembered]
    rfl

theorem visitKeepsMemory (p : Processor) (fs : FileSystem) (e : Entry)
    (bears : (p.visit fs e).1.bearsOnMemory = false) : (p.visit fs e).2.fingerprints = p.fingerprints := by
  rcases visitCases p fs e with ⟨-,h⟩ | ⟨-,-,h⟩ | ⟨-,-,h⟩ <;> rw [h] at bears ⊢
  · cases bears
  · rfl
  · rcases checkCases p fs e with ⟨-,unchanged⟩ | ⟨bytes,vs,-,checked⟩
    · rw [unchanged]
    · rw [checked] at bears
      cases bears

end Processor

/-- Over every run of batches from a processor with nothing remembered, each against the
files as they stood, and every entry of the next batch: what is remembered of a path is
what the latest validation of it read since it was last removed. An entry that is admitted,
small enough and read is unchanged, and leaves the processor as it was, exactly when that
content is what it reads; otherwise the validator judges it. Only validations and removals
change what is remembered, and a removal erases its path. -/
theorem fingerprintsSkipUnchanged (p0 : Processor) (rounds : List (FileSystem × Batch))
    (fs : FileSystem) (pre : List Entry) (e : Entry) (c : ByteArray) :
    let start := { p0 with fingerprints := ∅ }
    let p := (start.processAll rounds).opened
    let q := p.visitAll fs pre
    let past := start.history rounds ++ p.visits fs pre
    (∀ k, q.fingerprints[k]? = remembered none past k) ∧
    (e.kind ≠ .removed → q.admits = true →
      (∃ size, fs.size? e.path = some size ∧ size ≤ q.maxFileSizeBytes) →
      fs.read e.path = .ok c → q.readTimeoutMs ≠ 0 →
      (q.visit fs e).1 = .checked (if remembered none past (Path.normalize e.path) = some c then .unchanged
        else Outcome.ofVerdict e.path (q.validator e.path c)) ∧
      (remembered none past (Path.normalize e.path) = some c → (q.visit fs e).2 = q)) ∧
    (∀ (p : Processor) fs e, (p.visit fs e).1.bearsOnMemory = false →
      (p.visit fs e).2.fingerprints = p.fingerprints) ∧
    (∀ (p : Processor) fs e, e.kind = .removed → (p.visit fs e).2.fingerprints[Path.normalize e.path]? = none) := by
  intro start p q past
  have memory : ∀ k, q.fingerprints[k]? = remembered none past k := by
    intro k
    have initial : start.fingerprints[k]? = none := Std.TreeMap.getElem?_emptyc
    rw [Processor.visitAllRemembered,rememberedAppend,← initial,← Processor.processAllRemembered]
    rfl
  refine ⟨memory,?_,Processor.visitKeepsMemory,fun p fs e removal => Processor.visitForgets p fs removal⟩
  intro kept admitted ⟨size,sized,fits⟩ read timely
  have visited : q.visit fs e = (.checked (q.check fs e).1, (q.check fs e).2) := by
    simp [Processor.visit,kept,admitted]
  -- what the processor saw last is what the history remembers
  have seen : q.seen e.path c = true ↔ remembered none past (Path.normalize e.path) = some c := by
    rw [Processor.seenIff,memory]
  obtain ⟨outcome,unchanged⟩ := Processor.checkRead sized fits read timely
  rw [visited,outcome]
  refine ⟨?_,fun known => unchanged (seen.mpr known)⟩
  by_cases known : remembered none past (Path.normalize e.path) = some c
  · simp [known,seen.mpr known]
  · have unseen : q.seen e.path c = false := Bool.eq_false_iff.mpr fun saw => known (seen.mp saw)
    simp [known,unseen]

/-- A file validated once and offered again with the same bytes: the first visit goes to the
validator, the second is unchanged. -/
theorem secondReadOfSameBytesIsUnchanged :
    let fs : FileSystem :=
      { nodes := ((∅ : Std.TreeMap String Node).insert "/" .directory).insert "/a.ts" (.file (.bytes ⟨#[65]⟩)) }
    let e : Entry := ⟨"/a.ts",.modified,0,0,0,0,1,0⟩
    let p0 : Processor := {
      validator := fun _ _ => .ok [], sample := {}, maxFileSizeBytes := 1000, readTimeoutMs := 10
      guard := { maxHeapBytes := 1, maxBatchTimeMs := 100, maxWorkers := 1, maxCpuPercent := none } }
    let p := ({ p0 with fingerprints := ∅ }.processAll []).opened
    (p.visit fs e).1 = .checked (.validated ⟨"/a.ts",[],0⟩) ∧
      ((p.visitAll fs [e]).visit fs e).1 = .checked .unchanged := by
  intro fs e p0 p
  have sized : fs.size? e.path = some 1 := by cbv
  have read : fs.read e.path = .ok ⟨#[65]⟩ := by cbv
  -- the first visit finds nothing remembered, so the validator judges the file
  obtain ⟨-,first,-,-⟩ := fingerprintsSkipUnchanged p0 [] fs [] e ⟨#[65]⟩
  obtain ⟨validated,-⟩ := first (by decide) (by decide) ⟨1,sized,by decide⟩ read (by decide)
  rw [if_neg (by simp [remembered,Processor.history,Processor.visits])] at validated
  have firstFate : (p.visit fs e).1 = .checked (.validated ⟨"/a.ts",[],0⟩) := validated
  -- the second visit finds what the first one read
  obtain ⟨-,second,-,-⟩ := fingerprintsSkipUnchanged p0 [] fs [e] e ⟨#[65]⟩
  have after : p.visitAll fs [e] = p.restate _ _ := Processor.visitRestate p fs e
  have admitted : (p.visitAll fs [e]).admits = true := by rw [after,Processor.restateAdmits]; decide
  have known : remembered none (({ p0 with fingerprints := ∅ } : Processor).history [] ++ p.visits fs [e])
      (Path.normalize e.path) = some ⟨#[65]⟩ := by
    show remembered none [⟨fs,e,(p.visit fs e).1⟩] _ = _
    rw [rememberedSingle,firstFate]
    simp [Fate.bearsOnMemory,Visit.leaves,read,Except.toOption]
  obtain ⟨unchanged,-⟩ := second (by decide) admitted ⟨1,sized,by rw [after]; decide⟩ read (by rw [after]; decide)
  rw [if_pos known] at unchanged
  exact ⟨firstFate,unchanged⟩

end LintWatch.Service
