import Mathlib
import LintWatch.Proofs.FileSystem.Writes
import LintWatch.Metrics.HistoryFile
import LintWatch.Proofs.Service.Lifecycle

/-! Retention of the history. However long a history is, pushing records with a retention
`R` leaves the last `max R 1` of everything pushed, in order, the newest record last. The
history file follows the records persisted into it: as long as the text a history is saved
as reads back as that history, a run of persists that succeed leaves a file that loads as the
history pushed in memory. A persist writes the new text beside the file and moves it over the
file last, so a persist that fails, at whichever step, leaves the file as it was. -/
namespace LintWatch.Metrics

open FileSystem

theorem rtakeRtake {α : Type} (l : List α) (m n : Nat) : (l.rtake m).rtake n = l.rtake (min n m) := by
  simp only [List.rtake_eq_reverse_take_reverse,List.reverse_reverse,List.take_take]

theorem rtakeAppendRtake {α : Type} (l m : List α) (n : Nat) : (l.rtake n ++ m).rtake n = (l ++ m).rtake n := by
  simp only [List.rtake_eq_reverse_take_reverse,List.reverse_append,List.reverse_reverse,List.take_append,
    List.take_take,List.length_reverse]
  rw [Nat.min_eq_left (Nat.sub_le n m.length)]

namespace History

/-- The history after pushing `rs` in order, each with retention `retention`. -/
def pushAll (h : History) (rs : List Record) (retention : Nat) : History :=
  rs.foldl (fun h r => h.push r retention) h

theorem pushEntries (h : History) (r : Record) (retention : Nat) :
    (h.push r retention).entries = (h.entries ++ [r]).rtake (max retention 1) := rfl

theorem pushAllCons (h : History) (r : Record) (rs : List Record) (retention : Nat) :
    h.pushAll (r :: rs) retention = (h.push r retention).pushAll rs retention := rfl

theorem pushAllEntries (h : History) (rs : List Record) (r : Record) (retention : Nat) :
    (h.pushAll (rs ++ [r]) retention).entries = (h.entries ++ rs ++ [r]).rtake (max retention 1) := by
  induction rs generalizing h with
  | nil =>
    rw [List.nil_append,List.append_nil]
    rfl
  | cons x rest ih =>
    rw [List.cons_append,pushAllCons,ih,pushEntries,List.append_assoc,List.append_assoc,rtakeAppendRtake]
    simp

theorem pushAllLatest (h : History) (rs : List Record) (r : Record) (retention : Nat) :
    (h.pushAll (rs ++ [r]) retention).latest = some r := by
  -- a retention of at least one keeps the record pushed last
  obtain ⟨k,kept⟩ : ∃ k, max retention 1 = k + 1 := ⟨max retention 1 - 1,by omega⟩
  rw [latest,pushAllEntries,kept,List.rtake_concat_succ,List.getLast?_append_of_ne_nil _ (by simp)]
  rfl

/-- The text a history is saved as reads back as that history. -/
def ReadsBack (h : History) : Prop :=
  ∃ doc, Json.parse (Json.pretty h.toJson) = .ok doc ∧ historyOfFile doc = .ok h

theorem textOfBytes (s : String) : String.fromUTF8? s.toByteArray = some s := by
  simp [String.fromUTF8?,String.fromUTF8,s.isValidUTF8]

theorem loadOfText {fs : FileSystem} {path text : String} {doc : Json} {h : History}
    (held : fs.read path = .ok text.toUTF8) (parsed : Json.parse text = .ok doc)
    (decoded : historyOfFile doc = .ok h) : load fs path = .ok h := by
  simp [load,held,textOfBytes,parsed,decoded,Except.mapError,bind,Except.bind]

theorem loadSaved {fs : FileSystem} {path : String} {h : History}
    (held : fs.read path = .ok (Json.pretty h.toJson).toUTF8) (back : h.ReadsBack) : load fs path = .ok h := by
  obtain ⟨doc,parsed,decoded⟩ := back
  exact loadOfText held parsed decoded

theorem readOfLoad {fs : FileSystem} {path : String} {h : History} (loaded : load fs path = .ok h) :
    ∃ bytes, fs.read path = .ok bytes := by
  unfold load at loaded
  cases read : fs.read path with
  | error e =>
    rw [read] at loaded
    cases loaded
  | ok bytes => exact ⟨bytes,rfl⟩

def prepare (fs : FileSystem) (path : String) : Except IoError FileSystem :=
  match Path.parent? path with
  | some dir => fs.createDirAll dir
  | none => .ok fs

def stagedPath (path : String) : String := Path.withExtension path "json.tmp"

def content (h : History) : Content := .bytes (Json.pretty h.toJson).toUTF8

theorem prepareAdds {fs fs₁ : FileSystem} {path : String} (made : prepare fs path = .ok fs₁) :
    AddsDirectories fs fs₁ := by
  unfold prepare at made
  split at made
  · exact createDirAllAdds made
  · cases made
    exact .refl _

theorem saveSteps (h : History) (fs : FileSystem) (path : String) :
    h.save fs path = ((prepare fs path).mapError fun _ => Error.io) >>= fun fs₁ =>
      ((fs₁.writeFile (stagedPath path) h.content).mapError fun _ => Error.io) >>= fun fs₂ =>
        (fs₂.rename (stagedPath path) path).mapError fun _ => Error.io := by
  unfold save prepare
  cases Path.parent? path <;> rfl

theorem saveOk {h : History} {fs fs' : FileSystem} {path : String} :
    h.save fs path = .ok fs' ↔ ∃ fs₁ fs₂, prepare fs path = .ok fs₁ ∧
      fs₁.writeFile (stagedPath path) h.content = .ok fs₂ ∧ fs₂.rename (stagedPath path) path = .ok fs' := by
  rw [saveSteps]
  constructor
  · intro saved
    obtain ⟨fs₁,made,saved⟩ := Except.bindOk saved
    obtain ⟨fs₂,staged,moved⟩ := Except.bindOk saved
    exact ⟨fs₁,fs₂,Except.mapErrorOk made,Except.mapErrorOk staged,Except.mapErrorOk moved⟩
  · rintro ⟨fs₁,fs₂,made,staged,moved⟩
    simp [made,staged,moved,Except.mapError,bind,Except.bind]

/-- What a save does to the tree, whether it completes or not: each step that succeeded has
happened, and nothing after the first that failed. -/
def saveEffect (h : History) (fs : FileSystem) (path : String) : FileSystem :=
  match prepare fs path with
  | .error _ => fs
  | .ok fs₁ =>
    match fs₁.writeFile (stagedPath path) h.content with
    | .error _ => fs₁
    | .ok fs₂ =>
      match fs₂.rename (stagedPath path) path with
      | .error _ => fs₂
      | .ok fs₃ => fs₃

theorem saveEffectOk {h : History} {fs fs' : FileSystem} {path : String} (saved : h.save fs path = .ok fs') :
    h.saveEffect fs path = fs' := by
  obtain ⟨fs₁,fs₂,made,staged,moved⟩ := saveOk.mp saved
  simp [saveEffect,made,staged,moved]

/- Only the move can fail after the staged write; it fails only if the staged file lies
elsewhere than the history file, since a move onto itself succeeds. -/
theorem moveFails {h : History} {fs fs₁ fs₂ : FileSystem} {path : String} {e : Error}
    (failed : h.save fs path = .error e) (made : prepare fs path = .ok fs₁)
    (staged : fs₁.writeFile (stagedPath path) h.content = .ok fs₂) :
    ∀ fs₃, fs₂.rename (stagedPath path) path ≠ .ok fs₃ := by
  intro fs₃ moved
  have saved := saveOk.mpr ⟨fs₁,fs₂,made,staged,moved⟩
  rw [failed] at saved
  cases saved

theorem stagedKeepsFile {h : History} {fs₁ fs₂ : FileSystem} {path : String}
    (staged : fs₁.writeFile (stagedPath path) h.content = .ok fs₂)
    (stuck : ∀ fs₃, fs₂.rename (stagedPath path) path ≠ .ok fs₃) :
    (fs₂.read path).toOption = (fs₁.read path).toOption := by
  obtain ⟨cwd,nodes,-⟩ := writeFileSets staged
  have apart : (fs₁.locate (stagedPath path)).1 ≠ (fs₁.locate path).1 := by
    intro same
    apply stuck fs₂
    apply renameOntoItself (writtenFile staged)
    rw [locateOfCwd cwd,locateOfCwd cwd,same]
  rw [readToOption,readToOption]
  simp only [node?,locateOfCwd cwd,nodes,Std.TreeMap.getElem?_insert,Std.compare_eq_iff_eq,if_neg apart]

theorem saveFailureKeepsFile {h : History} {fs : FileSystem} {path : String} {e : Error}
    (failed : h.save fs path = .error e) :
    ((h.saveEffect fs path).read path).toOption = (fs.read path).toOption := by
  unfold saveEffect
  -- one case per step that failed; the directories change no read, the staged write none
  -- that a failing move follows
  split
  · rfl
  · rename_i fs₁ made
    have grown := (prepareAdds made).read path
    split
    · exact grown
    · rename_i fs₂ staged
      have stuck := moveFails failed made staged
      split
      · rw [stagedKeepsFile staged stuck,grown]
      · exact absurd ‹_› (stuck _)

theorem saveWrites {h : History} {fs fs' : FileSystem} {path : String} (saved : h.save fs path = .ok fs')
    (asks : (fs.locate path).2 = false) : fs'.read path = .ok (Json.pretty h.toJson).toUTF8 := by
  obtain ⟨fs₁,fs₂,made,staged,moved⟩ := saveOk.mp saved
  have cwd₁ := (prepareAdds made).1
  obtain ⟨cwd₂,-,-⟩ := writeFileSets staged
  obtain ⟨cwd',placed⟩ := renameFile moved (writtenFile staged)
  have located : fs'.locate path = fs₂.locate path := locateOfCwd cwd' path
  have same : fs₂.locate path = fs.locate path := by
    rw [locateOfCwd cwd₂,locateOfCwd cwd₁]
  rw [← located] at placed
  exact readOfFile placed (by rw [located,same,asks])

end History

namespace HistorySink

/-- The persists of the records `rs`, in order, each into the tree the one before left. -/
def persistAll (s : HistorySink) (fs : FileSystem) (rs : List Record) : Except Error FileSystem :=
  rs.foldlM s.persist fs

/-- What a persist does to the tree, whether it completes or not: a failed read changes
nothing, and a save does what its steps that succeeded did. -/
def persistEffect (s : HistorySink) (fs : FileSystem) (r : Record) : FileSystem :=
  match History.loadOrDefault fs s.path with
  | .ok h => (h.push r s.retention).saveEffect fs s.path
  | .error _ => fs

theorem persistEffectOk {s : HistorySink} {fs fs' : FileSystem} {r : Record} (done : s.persist fs r = .ok fs') :
    s.persistEffect fs r = fs' := by
  obtain ⟨h,loaded,saved⟩ := Except.bindOk done
  simp [persistEffect,loaded,History.saveEffectOk saved]

theorem persistFailureKeepsFile {s : HistorySink} {fs : FileSystem} {r : Record} {e : Error}
    (failed : s.persist fs r = .error e) :
    ((s.persistEffect fs r).read s.path).toOption = (fs.read s.path).toOption := by
  rcases Except.bindError failed with unread | ⟨h,loaded,saved⟩
  · simp [persistEffect,unread]
  · simp only [persistEffect,loaded]
    exact History.saveFailureKeepsFile saved

theorem persistLoads {s : HistorySink} {fs fs' : FileSystem} {h : History} {r : Record}
    (start : History.load fs s.path = .ok h) (back : (h.push r s.retention).ReadsBack)
    (done : s.persist fs r = .ok fs') : History.load fs' s.path = .ok (h.push r s.retention) := by
  obtain ⟨bytes,read⟩ := History.readOfLoad start
  obtain ⟨c,named,-⟩ := fileOfRead read
  have whole : History.loadOrDefault fs s.path = .ok h := by
    rw [History.loadOrDefault,presentOfRead read,if_pos rfl,start]
  obtain ⟨h',loaded,saved⟩ := Except.bindOk done
  rw [whole] at loaded
  cases loaded
  exact History.loadSaved (History.saveWrites saved (nodeFile.mp named).2) back

theorem persistAllLoads {s : HistorySink} {fs fs' : FileSystem} {h : History} {rs : List Record}
    (start : History.load fs s.path = .ok h)
    (back : ∀ i < rs.length, (h.pushAll (rs.take (i + 1)) s.retention).ReadsBack)
    (done : s.persistAll fs rs = .ok fs') : History.load fs' s.path = .ok (h.pushAll rs s.retention) := by
  induction rs generalizing fs h with
  | nil =>
    cases done
    exact start
  | cons r rest ih =>
    obtain ⟨fs₁,first,done⟩ := Except.bindOk done
    have loaded := persistLoads start (back 0 (by simp)) first
    exact ih loaded (fun i within => back (i + 1) (by simpa using within)) done

end HistorySink

/-- Retention of the history. Pushing the records `rs ++ [r]` with retention `R` into any
history keeps the last `max R 1` of its entries and the records, in order; the latest is `r`,
and the newest `n` are the last `min n (max R 1)` of them. A run of persists that succeed,
from a file that loads as `h`, leaves a file that loads as `h` with the records pushed, when
every history written reads back; a persist's effect is its result when it succeeds, and
when it fails the history file holds what it held before. -/
theorem historyRetainsNewest :
    (∀ (h : History) (rs : List Record) (r : Record) (retention n : Nat),
      let g := h.pushAll (rs ++ [r]) retention
      g.entries = (h.entries ++ rs ++ [r]).rtake (max retention 1) ∧
      g.size = min (h.size + rs.length + 1) (max retention 1) ∧
      g.latest = some r ∧
      g.lastN n = (h.entries ++ rs ++ [r]).rtake (min n (max retention 1))) ∧
    (∀ (s : HistorySink) (fs fs' : FileSystem) (h : History) (rs : List Record),
      History.load fs s.path = .ok h →
      (∀ i < rs.length, (h.pushAll (rs.take (i + 1)) s.retention).ReadsBack) →
      s.persistAll fs rs = .ok fs' →
      History.load fs' s.path = .ok (h.pushAll rs s.retention)) ∧
    (∀ (s : HistorySink) (fs fs' : FileSystem) (r : Record),
      s.persist fs r = .ok fs' → s.persistEffect fs r = fs') ∧
    (∀ (s : HistorySink) (fs : FileSystem) (r : Record) (e : Error),
      s.persist fs r = .error e → ((s.persistEffect fs r).read s.path).toOption = (fs.read s.path).toOption) := by
  refine ⟨fun h rs r retention n => ?_,fun s fs fs' h rs start back done => HistorySink.persistAllLoads start back done,
    fun s fs fs' r done => HistorySink.persistEffectOk done,fun s fs r e failed => HistorySink.persistFailureKeepsFile failed⟩
  have entries := History.pushAllEntries h rs r retention
  refine ⟨entries,?_,History.pushAllLatest h rs r retention,?_⟩
  · simp only [History.size,entries,List.rtake,List.length_drop,List.length_append,List.length_singleton]
    omega
  · rw [History.lastN,← List.rtake,entries,rtakeRtake]

theorem historyFilesKeepTheirText :
    let s : HistorySink := { path := "/h.json", retention := 3 }
    let tree (text : String) : FileSystem :=
      { nodes := ((∅ : Std.TreeMap String Node).insert "/" .directory).insert "/h.json" (.file (.bytes text.toUTF8)) }
    (History.load (tree "\x7b\"version\":1,\"entries\":[]\x7d") s.path = .ok {} ∧
      History.load (tree "\x7b\"version\":1,\"entries\":[]\x7d") s.path = .ok (({} : History).pushAll [] s.retention)) ∧
    (s.persist (tree "[]") default = .error .historyFormat ∧
      ((s.persistEffect (tree "[]") default).read s.path).toOption = ((tree "[]").read s.path).toOption) := by
  intro s tree
  have read : (tree "\x7b\"version\":1,\"entries\":[]\x7d").read s.path =
      .ok "\x7b\"version\":1,\"entries\":[]\x7d".toUTF8 := by
    cbv
  have chars : "\x7b\"version\":1,\"entries\":[]\x7d".toList =
      ['{','"','v','e','r','s','i','o','n','"',':','1',',','"','e','n','t','r','i','e','s','"',':','[',']','}'] := by
    cbv
  have parsed : Json.parse "\x7b\"version\":1,\"entries\":[]\x7d" =
      .ok (.obj [("version",.int 1),("entries",.arr [])]) := by
    simp +decide [Json.parse,chars,Json.readValue,Json.readFields,Json.skipBlanks,Json.stringBody,
      Json.readNumber,Json.digitsValue,bind,Except.bind,Char.isDigit,List.takeWhile,List.dropWhile]
  have decoded : historyOfFile (.obj [("version",.int 1),("entries",.arr [])]) = .ok {} := by
    simp +decide [historyOfFile,Json.readObject,memberOnce,Json.memberReq,Json.lookup,Json.readU32,
      Json.readUnsigned,Json.readList,bind,Except.bind,pure,Except.pure]
  have loaded := History.loadOfText read parsed decoded
  have failed : s.persist (tree "[]") default = .error .historyFormat := by
    cbv
  exact ⟨⟨loaded,historyRetainsNewest.2.1 s _ _ {} [] loaded (by simp) rfl⟩,failed,
    historyRetainsNewest.2.2.2 s _ default _ failed⟩

end LintWatch.Metrics
