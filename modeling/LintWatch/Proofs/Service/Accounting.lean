import Mathlib
import LintWatch.Service.Core

/-! How a batch's entries are accounted for. Each entry meets one fate: a removal is
skipped and its fingerprint forgotten; any other entry is offered to the guard, which
decides alike for the whole batch, and is then refused or checked. Each fate adds one to
exactly one count of the report, so the counts add up to the batch's size; the guard
counts one refusal per deferred entry; and the files and the validator are consulted only
for the entries the guard admits. -/
namespace LintWatch.Service

open Schedule

deriving instance ReflBEq, LawfulBEq for ChangeKind

inductive Fate where
  | removed
  | refused
  | checked (o : Outcome)

namespace Fate

def isRefused : Fate → Bool
  | .refused => true
  | _ => false

def skips : Fate → Bool
  | .removed | .checked .oversized => true
  | _ => false

end Fate

namespace Report

def total (r : Report) : Nat := r.validated + r.deferred + r.failed + r.skipped + r.unchanged

def add (r : Report) (e : Entry) : Fate → Report
  | .removed => { r with skipped := r.skipped + 1 }
  | .refused => { r with refused := r.refused ++ [e] }
  | .checked (.validated result) => { r with results := r.results ++ [result] }
  | .checked .unchanged => { r with unchanged := r.unchanged + 1 }
  | .checked .oversized => { r with skipped := r.skipped + 1 }
  | .checked .failed => { r with failed := r.failed + 1 }

theorem addTotal (r : Report) (e : Entry) (f : Fate) : (r.add e f).total = r.total + 1 := by
  rcases f with _ | _ | (_ | _ | _ | _) <;> simp [add,total,validated,deferred] <;> omega

@[simp] theorem addSequence (r : Report) (e : Entry) (f : Fate) :
    (r.add e f).sequence = r.sequence := by
  rcases f with _ | _ | (_ | _ | _ | _) <;> rfl

theorem addRefused (r : Report) (e : Entry) (f : Fate) :
    (r.add e f).refused = r.refused ++ if f.isRefused then [e] else [] := by
  rcases f with _ | _ | (_ | _ | _ | _) <;> simp [add,Fate.isRefused]

theorem addSkipped (r : Report) (e : Entry) (f : Fate) :
    (r.add e f).skipped = r.skipped + if f.skips then 1 else 0 := by
  rcases f with _ | _ | (_ | _ | _ | _) <;> simp [add,Fate.skips]

end Report

theorem Guard.grantSpec (g : Guard) (s : Sample) :
    g.grant s = if (g.grant s).1 then (true, g) else (false, { g with refusals := g.refusals + 1 }) := by
  unfold Guard.grant
  cases g.evaluate s <;> rfl

theorem Guard.evaluateRefusals (g : Guard) (n : Nat) (s : Sample) :
    ({ g with refusals := n }).evaluate s = g.evaluate s := rfl

@[simp] theorem Guard.grantRefusals (g : Guard) (n : Nat) (s : Sample) :
    ({ g with refusals := n }.grant s).1 = (g.grant s).1 := by
  unfold Guard.grant
  rw [Guard.evaluateRefusals]
  cases g.evaluate s <;> rfl

def offered (es : List Entry) : List Entry := es.filter (·.kind != .removed)

theorem removalsAddOffered (es : List Entry) :
    es.countP (·.kind == .removed) + (offered es).length = es.length := by
  induction es with
  | nil => rfl
  | cons e rest ih =>
    by_cases removal : e.kind = .removed <;> simp [offered,removal] at ih ⊢ <;> omega

namespace Processor

def admits (p : Processor) : Bool := (p.guard.grant p.sample).1

def oversized (p : Processor) (fs : FileSystem) (e : Entry) : Bool :=
  match fs.size? e.path with
  | some size => p.maxFileSizeBytes < size
  | none => false

def restate (p : Processor) (refusals : Nat) (fingerprints : Std.TreeMap String ByteArray) :
    Processor :=
  { p with guard.refusals := refusals, fingerprints }

@[simp] theorem restateRestate (p : Processor) (n n' : Nat) (f f' : Std.TreeMap String ByteArray) :
    (p.restate n f).restate n' f' = p.restate n' f' := rfl

@[simp] theorem restateAdmits (p : Processor) (n : Nat) (f : Std.TreeMap String ByteArray) :
    (p.restate n f).admits = p.admits :=
  Guard.grantRefusals p.guard n p.sample

@[simp] theorem restateOversized (p : Processor) (n : Nat) (f : Std.TreeMap String ByteArray) :
    (p.restate n f).oversized = p.oversized := rfl

@[simp] theorem restateValidator (p : Processor) (n : Nat) (f : Std.TreeMap String ByteArray) :
    (p.restate n f).validator = p.validator := rfl

@[simp] theorem restateRefusals (p : Processor) (n : Nat) (f : Std.TreeMap String ByteArray) :
    (p.restate n f).guard.refusals = n := rfl

@[simp] theorem restateFingerprints (p : Processor) (n : Nat) (f : Std.TreeMap String ByteArray) :
    (p.restate n f).fingerprints = f := rfl

def visit (p : Processor) (fs : FileSystem) (e : Entry) : Fate × Processor :=
  if e.kind == .removed then (.removed, p.forget e.path)
  else if p.admits then
    let (o, q) := p.check fs e
    (.checked o, q)
  else (.refused, p.restate (p.guard.refusals + 1) p.fingerprints)

theorem runCons (fs : FileSystem) (p : Processor) (r : Report) (e : Entry) (rest : List Entry) :
    run fs p r (e :: rest) = run fs (p.visit fs e).2 (r.add e (p.visit fs e).1) rest := by
  by_cases removal : e.kind = .removed
  · simp [run,visit,removal,Report.add]
  · rw [run,if_neg (by simpa using removal)]
    by_cases granted : p.admits
    · have grant : p.guard.grant p.sample = (true, p.guard) := by
        rw [Guard.grantSpec,if_pos (show (p.guard.grant p.sample).1 = true from granted)]
      rcases checked : p.check fs e with ⟨o,q⟩
      simp only [grant,visit,granted,removal,checked,beq_iff_eq,if_false,if_true,Bool.not_true]
      cases o <;> rfl
    · have grant : p.guard.grant p.sample = (false, { p.guard with refusals := p.guard.refusals + 1 }) := by
        rw [Guard.grantSpec,if_neg (show ¬(p.guard.grant p.sample).1 = true from granted)]
      simp [grant,visit,granted,removal,Report.add,restate]

theorem checkRestate (p : Processor) (fs : FileSystem) (e : Entry) :
    (p.check fs e).2 = p.restate p.guard.refusals (p.check fs e).2.fingerprints := by
  unfold check
  repeat' split
  all_goals rfl

theorem checkFrame (p : Processor) (fs : FileSystem) (e : Entry) {k : String}
    (other : k ≠ Path.normalize e.path) :
    (p.check fs e).2.fingerprints[k]? = p.fingerprints[k]? := by
  unfold check
  repeat' split
  all_goals simp [remember,Std.TreeMap.getElem?_insert,Ne.symm other]

theorem checkSkips (p : Processor) (fs : FileSystem) (e : Entry) :
    (Fate.checked (p.check fs e).1).skips = p.oversized fs e := by
  unfold check oversized checkSize
  cases fs.size? e.path with
  | none => rfl
  | some size =>
    by_cases large : p.maxFileSizeBytes < size
    · simp [large,Fate.skips]
    · simp only [large,if_false,decide_false]
      repeat' split
      all_goals rfl

theorem checkCongr {p : Processor} {fs fs' : FileSystem} {e : Entry} {v : Validator}
    (sizes : fs'.size? e.path = fs.size? e.path) (reads : fs'.read e.path = fs.read e.path)
    (judges : v e.path = p.validator e.path) :
    { p with validator := v }.check fs' e = ((p.check fs e).1, { (p.check fs e).2 with validator := v }) := by
  unfold check
  rw [sizes,reads]
  dsimp only
  cases fs.size? e.path with
  | none => rfl
  | some size =>
    dsimp only
    cases checkSize p.maxFileSizeBytes size with
    | tooLarge => rfl
    | accepted =>
      dsimp only
      cases fs.read e.path with
      | error => rfl
      | ok bytes =>
        have seenSame : ({ p with validator := v } : Processor).seen e.path bytes = p.seen e.path bytes := rfl
        simp only [seenSame,remember,judges]
        by_cases timeout : (p.readTimeoutMs == 0) = true
        · simp only [timeout,if_true]
        · by_cases known : p.seen e.path bytes = true
          · simp [timeout,known]
          · simp only [timeout,known,Bool.false_eq_true,if_false]
            cases p.validator e.path bytes <;> rfl

theorem visitCases (p : Processor) (fs : FileSystem) (e : Entry) :
    (e.kind = .removed ∧ p.visit fs e = (.removed, p.forget e.path)) ∨
    (e.kind ≠ .removed ∧ p.admits = false ∧
      p.visit fs e = (.refused, p.restate (p.guard.refusals + 1) p.fingerprints)) ∨
    (e.kind ≠ .removed ∧ p.admits = true ∧ p.visit fs e = (.checked (p.check fs e).1, (p.check fs e).2)) := by
  by_cases removal : e.kind = .removed
  · exact .inl ⟨removal,by simp [visit,removal]⟩
  · cases admitted : p.admits
    · exact .inr (.inl ⟨removal,rfl,by simp [visit,removal,admitted]⟩)
    · exact .inr (.inr ⟨removal,rfl,by simp [visit,removal,admitted]⟩)

theorem visitRestate (p : Processor) (fs : FileSystem) (e : Entry) :
    (p.visit fs e).2 =
      p.restate (p.guard.refusals + if (p.visit fs e).1.isRefused then 1 else 0) (p.visit fs e).2.fingerprints := by
  rcases visitCases p fs e with ⟨-,h⟩ | ⟨-,-,h⟩ | ⟨-,-,h⟩ <;> rw [h]
  · rfl
  · rfl
  · exact checkRestate p fs e

@[simp] theorem visitAdmits (p : Processor) (fs : FileSystem) (e : Entry) :
    (p.visit fs e).2.admits = p.admits := by
  rw [visitRestate,restateAdmits]

@[simp] theorem visitOversized (p : Processor) (fs : FileSystem) (e : Entry) :
    (p.visit fs e).2.oversized = p.oversized := by
  rw [visitRestate,restateOversized]

@[simp] theorem visitValidator (p : Processor) (fs : FileSystem) (e : Entry) :
    (p.visit fs e).2.validator = p.validator := by
  rw [visitRestate,restateValidator]

theorem visitIsRefused (p : Processor) (fs : FileSystem) (e : Entry) :
    (p.visit fs e).1.isRefused = (e.kind != .removed && !p.admits) := by
  rcases visitCases p fs e with ⟨removal,h⟩ | ⟨kept,refusing,h⟩ | ⟨kept,admitted,h⟩
  · simp [h,Fate.isRefused,removal]
  · simp [h,Fate.isRefused,kept,refusing]
  · simp [h,Fate.isRefused,admitted]

theorem visitSkips (p : Processor) (fs : FileSystem) (e : Entry) :
    (p.visit fs e).1.skips = (e.kind == .removed || (p.admits && p.oversized fs e)) := by
  rcases visitCases p fs e with ⟨removal,h⟩ | ⟨kept,refusing,h⟩ | ⟨kept,admitted,h⟩
  · simp [h,Fate.skips,removal]
  · simp [h,Fate.skips,kept,refusing]
  · simp [h,checkSkips,kept,admitted]

theorem visitFrame (p : Processor) (fs : FileSystem) (e : Entry) {k : String}
    (other : k ≠ Path.normalize e.path) :
    (p.visit fs e).2.fingerprints[k]? = p.fingerprints[k]? := by
  rcases visitCases p fs e with ⟨-,h⟩ | ⟨-,-,h⟩ | ⟨-,-,h⟩ <;> rw [h]
  · simp [forget,Std.TreeMap.getElem?_erase,Ne.symm other]
  · rfl
  · exact checkFrame p fs e other

theorem visitForgets (p : Processor) (fs : FileSystem) {e : Entry} (removal : e.kind = .removed) :
    (p.visit fs e).2.fingerprints[Path.normalize e.path]? = none := by
  rcases visitCases p fs e with ⟨-,h⟩ | ⟨kept,-⟩ | ⟨kept,-⟩
  · simp [h,forget]
  · exact absurd removal kept
  · exact absurd removal kept

theorem visitCongr {p : Processor} {fs fs' : FileSystem} {e : Entry} {v : Validator}
    (agree : p.admits = true → e.kind ≠ .removed →
      fs'.size? e.path = fs.size? e.path ∧ fs'.read e.path = fs.read e.path ∧ v e.path = p.validator e.path) :
    { p with validator := v }.visit fs' e = ((p.visit fs e).1, { (p.visit fs e).2 with validator := v }) := by
  have admitsSame : ({ p with validator := v } : Processor).admits = p.admits := rfl
  rcases visitCases p fs e with ⟨removal,h⟩ | ⟨kept,refusing,h⟩ | ⟨kept,admitted,h⟩ <;> rw [h]
  · simp [visit,removal,forget]
  · simp [visit,kept,admitsSame,refusing,restate]
  · obtain ⟨sizes,reads,judges⟩ := agree admitted kept
    simp [visit,kept,admitsSame,admitted,checkCongr sizes reads judges]

theorem runReport (fs : FileSystem) (p : Processor) (r : Report) (es : List Entry) :
    (run fs p r es).1.sequence = r.sequence ∧
    (run fs p r es).1.total = r.total + es.length ∧
    (run fs p r es).1.refused = r.refused ++ (if p.admits then [] else offered es) ∧
    (run fs p r es).1.skipped = r.skipped + es.countP (·.kind == .removed) +
      (if p.admits then (offered es).countP (p.oversized fs) else 0) := by
  induction es generalizing p r with
  | nil => simp [run,offered]
  | cons e rest ih =>
    rw [runCons]
    obtain ⟨sequence,total,refused,skipped⟩ := ih (p.visit fs e).2 (r.add e (p.visit fs e).1)
    -- a visit leaves the guard's decision and the size limit as they were
    rw [visitAdmits] at refused skipped
    rw [visitOversized] at skipped
    refine ⟨by simpa using sequence,?_,?_,?_⟩
    · rw [total,Report.addTotal,List.length_cons]
      omega
    · rw [refused,Report.addRefused,visitIsRefused]
      by_cases removal : e.kind = .removed <;> cases p.admits <;> simp [offered,removal]
    · rw [skipped,Report.addSkipped,visitSkips]
      by_cases removal : e.kind = .removed <;> cases p.admits <;>
        simp [offered,removal,List.countP_cons] <;> omega

theorem runRestate (fs : FileSystem) (p : Processor) (r : Report) (es : List Entry) :
    (run fs p r es).2 = p.restate (p.guard.refusals + if p.admits then 0 else (offered es).length)
      (run fs p r es).2.fingerprints := by
  induction es generalizing p r with
  | nil => cases p.admits <;> rfl
  | cons e rest ih =>
    rw [runCons,ih,visitAdmits]
    have shape := visitRestate p fs e
    rw [shape,restateRestate,restateRefusals,visitIsRefused]
    by_cases removal : e.kind = .removed <;> cases p.admits <;> simp [offered,removal,Nat.add_assoc,Nat.add_comm 1]

theorem runCongr {fs fs' : FileSystem} {p : Processor} {v : Validator} (r : Report) {es : List Entry}
    (agree : p.admits = true → ∀ e ∈ offered es,
      fs'.size? e.path = fs.size? e.path ∧ fs'.read e.path = fs.read e.path ∧ v e.path = p.validator e.path) :
    run fs' { p with validator := v } r es = ((run fs p r es).1, { (run fs p r es).2 with validator := v }) := by
  induction es generalizing p r with
  | nil => rfl
  | cons e rest ih =>
    have here : { p with validator := v }.visit fs' e =
        ((p.visit fs e).1, { (p.visit fs e).2 with validator := v }) :=
      visitCongr fun admitted kept => agree admitted e (by simp [offered,kept])
    rw [runCons,runCons,here]
    apply ih
    intro admitted e' mem
    rw [visitAdmits] at admitted
    rw [visitValidator]
    exact agree admitted e' (by simp only [offered,List.filter_cons] at mem ⊢; split <;> simp [mem])

def opened (p : Processor) : Processor := { p with guard := p.guard.beginBatch }

end Processor

/-- The report of a batch and the pending set it leaves: the batch's number, one count per
entry, the refusals of a guard that decides alike for the whole batch, and the refused
entries put back. -/
theorem processBatchReport (s : Service) (b : Batch) :
    let r := (s.processBatch b).1
    let p := s.processor.opened
    r.sequence = b.sequence ∧
    r.validated + r.deferred + r.failed + r.skipped + r.unchanged = b.entries.length ∧
    r.refused = (if p.admits then [] else offered b.entries) ∧
    r.skipped = b.entries.countP (·.kind == .removed) +
      (if p.admits then (offered b.entries).countP (p.oversized s.tree) else 0) ∧
    (s.processBatch b).2.pending = r.refused.foldl PendingSet.requeue s.pending := by
  intro r p
  obtain ⟨sequence,total,refused,skipped⟩ := Processor.runReport s.tree p { sequence := b.sequence } b.entries
  refine ⟨sequence,?_,refused,?_,rfl⟩
  · rw [show ({ sequence := b.sequence } : Report).total = 0 from rfl,Nat.zero_add] at total
    exact total
  · rw [show ({ sequence := b.sequence } : Report).skipped = 0 from rfl,Nat.zero_add] at skipped
    exact skipped

end LintWatch.Service
