import LintWatch.Service.Core

/-! Starting and stopping. A start is refused while the service runs; otherwise it checks
the history file and then the watcher before it changes anything, so every failed start
leaves the service exactly as it was, and one that passes its checks runs. The history
file fails only to be read or written, or to be a history, and the watcher only to watch,
so a refusal for running means the service runs. A stop of a stopped service is refused
and changes nothing; any other stop stops the service, even when its final record cannot
be persisted, so the start that follows a stop is never refused for running. -/
namespace LintWatch

theorem Except.bindError {ε α β : Type} {x : Except ε α} {f : α → Except ε β} {e : ε}
    (failed : (x >>= f) = .error e) : x = .error e ∨ ∃ a, x = .ok a ∧ f a = .error e := by
  cases x with
  | error e' =>
    change Except.error e' = Except.error e at failed
    cases failed
    exact .inl rfl
  | ok a => exact .inr ⟨a,rfl,failed⟩

theorem Except.mapErrorConst {ε ε' α : Type} {x : Except ε α} {c e : ε'}
    (failed : x.mapError (fun _ => c) = .error e) : e = c := by
  cases x with
  | error e' => exact (Except.error.inj failed).symm
  | ok a => cases failed

namespace Metrics

theorem History.loadError {fs : FileSystem} {path : String} {e : Error}
    (failed : History.load fs path = .error e) : e = .io ∨ e = .historyFormat := by
  unfold History.load at failed
  cases read : fs.read path with
  | error _ =>
    rw [read] at failed
    cases failed
    exact .inl rfl
  | ok bytes =>
    rw [read] at failed
    dsimp only [Except.mapError,bind,Except.bind] at failed
    -- past the read, only a bad encoding or a text that is no history can fail
    split at failed
    · cases failed
      exact .inl rfl
    · split at failed
      · cases failed
        exact .inr rfl
      · cases shaped : historyOfFile _ <;> rw [shaped] at failed <;> cases failed
        exact .inr rfl

theorem History.loadOrDefaultError {fs : FileSystem} {path : String} {e : Error}
    (failed : History.loadOrDefault fs path = .error e) : e = .io ∨ e = .historyFormat := by
  unfold History.loadOrDefault at failed
  split at failed
  · exact History.loadError failed
  · cases failed

theorem History.saveError {h : History} {fs : FileSystem} {path : String} {e : Error}
    (failed : h.save fs path = .error e) : e = .io := by
  unfold History.save at failed
  -- each step reports its failure as a failure to write; directories are made only for a
  -- path with a parent
  split at failed <;> dsimp only at failed
  · rcases Except.bindError failed with made | ⟨fs',-,failed⟩
    · exact Except.mapErrorConst made
    rcases Except.bindError failed with staged | ⟨fs'',-,renamed⟩
    · exact Except.mapErrorConst staged
    · exact Except.mapErrorConst renamed
  · rcases Except.bindError failed with made | ⟨fs',-,failed⟩
    · cases made
    rcases Except.bindError failed with staged | ⟨fs'',-,renamed⟩
    · exact Except.mapErrorConst staged
    · exact Except.mapErrorConst renamed

theorem HistorySink.verifyError {sink : HistorySink} {fs : FileSystem} {e : Error}
    (failed : sink.verify fs = .error e) : e = .io ∨ e = .historyFormat := by
  rcases Except.bindError failed with loaded | ⟨h,-,impossible⟩
  · exact History.loadOrDefaultError loaded
  · cases impossible

theorem HistorySink.persistError {sink : HistorySink} {fs : FileSystem} {r : Record} {e : Error}
    (failed : sink.persist fs r = .error e) : e = .io ∨ e = .historyFormat := by
  rcases Except.bindError failed with loaded | ⟨h,-,saved⟩
  · exact History.loadOrDefaultError loaded
  · exact .inl (History.saveError saved)

end Metrics

theorem Watch.attachError {backend : Watch.Backend} {tree : FileSystem} {root : String} {e : Error}
    (failed : Watch.attach backend tree root = .error e) : e = .watcher ∧ backend tree root = false := by
  unfold Watch.attach at failed
  split at failed
  · cases failed
  · cases failed
    exact ⟨rfl,by simpa using ‹¬backend tree root = true›⟩

namespace Service.Service

variable (backend : Watch.Backend) (s : Service)

theorem startCheckRunning (running : s.running = true) :
    s.startCheck backend = .error .alreadyRunning := by
  rw [startCheck,running]
  rfl

@[simp] theorem launchRunning : s.launch.running = true := rfl

@[simp] theorem launchSession : s.launch.sessionStartMs = s.nowMs := by
  unfold launch
  dsimp only
  split <;> rfl

@[simp] theorem recordRunning : s.record.2.running = s.running := by
  unfold record
  dsimp only
  split
  · split <;> rfl
  · rfl

-- past the running check, a start fails exactly when the history file does not verify or
-- the backend cannot watch the root
theorem startCheckStopped (stopped : s.running = false) (e : Error) :
    s.startCheck backend = .error e ↔
      (∃ sink, s.sink = some sink ∧ sink.verify s.tree = .error e) ∨
      ((∀ sink, s.sink = some sink → sink.verify s.tree = .ok ()) ∧ s.watchEnabled = true ∧
        backend s.tree s.root = false ∧ e = .watcher) := by
  have attach : ∀ e', (if s.watchEnabled then Watch.attach backend s.tree s.root else pure ()) = .error e' ↔
      s.watchEnabled = true ∧ backend s.tree s.root = false ∧ e' = .watcher := by
    intro e'
    cases enabled : s.watchEnabled <;> cases watches : backend s.tree s.root <;>
      simp [Watch.attach,watches,pure,Except.pure,@eq_comm Error]
  cases sink : s.sink with
  | none => simpa [startCheck,stopped,sink] using attach e
  | some k =>
    cases verified : k.verify s.tree with
    | error e' => simp [startCheck,stopped,sink,verified,bind,Except.bind]
    | ok u => simpa [startCheck,stopped,sink,verified,bind,Except.bind] using attach e

theorem startCheckRefusesOnlyRunning (stopped : s.running = false) :
    s.startCheck backend ≠ .error .alreadyRunning := by
  intro refused
  rcases (startCheckStopped backend s stopped _).mp refused with ⟨sink,-,verify⟩ | ⟨-,-,-,impossible⟩
  · rcases Metrics.HistorySink.verifyError verify with impossible | impossible <;> cases impossible
  · cases impossible

theorem startOutcome :
    s.start backend = match s.startCheck backend with
      | .ok () => (.ok (),s.launch)
      | .error e => (.error e,s) := rfl

theorem startFailureKeeps {e : Error} (failed : (s.start backend).1 = .error e) :
    (s.start backend).2 = s ∧ s.startCheck backend = .error e := by
  rw [startOutcome] at failed ⊢
  split at failed
  · cases failed
  · rename_i e' checked
    cases failed
    exact ⟨rfl,checked⟩

theorem startSuccessRuns (started : (s.start backend).1 = .ok ()) :
    (s.start backend).2 = s.launch ∧ s.launch.running = true ∧ s.launch.sessionStartMs = s.nowMs := by
  rw [startOutcome] at started ⊢
  split at started
  · exact ⟨rfl,launchRunning s,launchSession s⟩
  · cases started

theorem recordError {e : Error} (failed : s.record.1 = .error e) : e = .io ∨ e = .historyFormat := by
  unfold record at failed
  dsimp only at failed
  -- only persisting the record can fail
  split at failed
  · split at failed
    · cases failed
    · cases failed
      exact Metrics.HistorySink.persistError ‹_›
  · cases failed

theorem stopStopped (stopped : s.running = false) : s.stop = (.error .notRunning,s) := by
  simp [stop,stopped]

theorem stopRunning (running : s.running = true) :
    s.stop.2.running = false ∧ ∀ e, s.stop.1 = .error e → e = .io ∨ e = .historyFormat := by
  simp only [stop,running,Bool.not_true,Bool.false_eq_true,if_false]
  split
  · refine ⟨recordRunning _,fun e failed => recordError { s with running := false } ?_⟩
    -- a stop fails only when persisting its final record does
    change Except.map _ ({ s with running := false } : Service).record.1 = _ at failed
    cases recorded : ({ s with running := false } : Service).record.1 <;> rw [recorded] at failed <;>
      cases failed
    rfl
  · exact ⟨rfl,fun e failed => by cases failed⟩

theorem stopStops : s.stop.2.running = false := by
  cases running : s.running
  · rw [stopStopped s running]
    exact running
  · exact (stopRunning s running).1

theorem startRefusedIff : (s.start backend).1 = .error .alreadyRunning ↔ s.running = true := by
  constructor
  · intro refused
    cases running : s.running
    · exact absurd (startFailureKeeps backend s refused).2
        (startCheckRefusesOnlyRunning backend s running)
    · rfl
  · intro running
    simp [startOutcome,startCheckRunning backend s running]

end Service.Service

namespace Service

/-- The lifecycle of a service over any notification backend: a start is refused for running
exactly when the service runs, and then changes nothing; any other failed start is a
history file that does not verify or a watcher that does not attach, and changes nothing
either; a start that succeeds runs. A stop is refused exactly when the service is stopped,
and then changes nothing; any other stop leaves the service stopped, whatever became of its
final record; so a start right after a stop is never refused for running. -/
theorem lifecycleFailuresChangeNothing (backend : Watch.Backend) (s : Service) :
    ((s.start backend).1 = .error .alreadyRunning ↔ s.running = true) ∧
    (s.running = true → s.start backend = (.error .alreadyRunning,s)) ∧
    (∀ e, (s.start backend).1 = .error e → (s.start backend).2 = s) ∧
    (∀ e, e ≠ .alreadyRunning → ((s.start backend).1 = .error e ↔ s.running = false ∧
      ((∃ sink, s.sink = some sink ∧ sink.verify s.tree = .error e) ∨
        ((∀ sink, s.sink = some sink → sink.verify s.tree = .ok ()) ∧ s.watchEnabled = true ∧
          backend s.tree s.root = false ∧ e = .watcher)))) ∧
    ((s.start backend).1 = .ok () → (s.start backend).2.running = true ∧
      (s.start backend).2.sessionStartMs = s.nowMs) ∧
    (s.stop.1 = .error .notRunning ↔ s.running = false) ∧
    (s.running = false → s.stop = (.error .notRunning,s)) ∧
    (s.running = true → s.stop.2.running = false) ∧
    (s.stop.2.start backend).1 ≠ .error .alreadyRunning := by
  refine ⟨Service.startRefusedIff backend s,fun running => ?_,
    fun e failed => (Service.startFailureKeeps backend s failed).1,
    fun e other => ⟨fun failed => ?_,fun ⟨stopped,why⟩ => ?_⟩,fun started => ?_,⟨fun refused => ?_,?_⟩,
    Service.stopStopped s,fun running => (Service.stopRunning s running).1,?_⟩
  · simp [Service.startOutcome,Service.startCheckRunning backend s running]
  · -- a failure other than the refusal for running happens past the running check
    have checked := (Service.startFailureKeeps backend s failed).2
    have stopped : s.running = false := by
      cases running : s.running
      · rfl
      · rw [Service.startCheckRunning backend s running] at checked
        cases checked
        exact absurd rfl other
    exact ⟨stopped,(Service.startCheckStopped backend s stopped e).mp checked⟩
  · rw [Service.startOutcome,(Service.startCheckStopped backend s stopped e).mpr why]
  · obtain ⟨launched,running,session⟩ := Service.startSuccessRuns backend s started
    rw [launched]
    exact ⟨running,session⟩
  · cases running : s.running
    · rfl
    · rcases (Service.stopRunning s running).2 _ refused with impossible | impossible <;> cases impossible
  · intro stopped
    rw [Service.stopStopped s stopped]
  · rw [ne_eq,Service.startRefusedIff,Service.stopStops]
    exact Bool.false_ne_true

end Service

end LintWatch
