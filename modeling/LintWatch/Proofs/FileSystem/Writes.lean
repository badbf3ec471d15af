import Mathlib
import LintWatch.FileSystem

/-! What the writing operations of the tree do to the node a path names. Making directories
only adds directories where nothing stood, so no file changes and a missing file stays
missing; writing a file puts it at its own key and nowhere else; moving a file puts its
bytes at the target's key. Every operation keeps the working directory, so a path names the
same key before and after. -/
namespace LintWatch

theorem Except.bindOk {ε α β : Type} {x : Except ε α} {f : α → Except ε β} {b : β}
    (done : (x >>= f) = .ok b) : ∃ a, x = .ok a ∧ f a = .ok b := by
  cases x with
  | error e => cases done
  | ok a => exact ⟨a,rfl,done⟩

theorem Except.mapErrorOk {ε ε' α : Type} {x : Except ε α} {f : ε → ε'} {a : α}
    (done : x.mapError f = .ok a) : x = .ok a := by
  cases x with
  | error e => cases done
  | ok a' =>
    cases done
    rfl

namespace FileSystem

variable {fs fs' : FileSystem} {p : String} {c : Content}

theorem locateOfCwd (cwd : fs'.cwd = fs.cwd) (p : String) : fs'.locate p = fs.locate p := by
  simp only [locate,cwd]

theorem nodeFile : fs.node? p = some (.file c) ↔ fs.nodes[(fs.locate p).1]? = some (.file c) ∧ (fs.locate p).2 = false := by
  rcases located : fs.locate p with ⟨key,dirOnly⟩
  simp only [node?,located]
  split <;> rename_i held <;> simp [held,and_comm]

theorem readToOption (fs : FileSystem) (p : String) :
    (fs.read p).toOption = match fs.node? p with
      | some (.file c) => some c.toBytes
      | _ => none := by
  unfold read
  split <;> rename_i named <;> simp [named,Except.toOption]

theorem readOfFile (held : fs.nodes[(fs.locate p).1]? = some (.file c)) (asks : (fs.locate p).2 = false) :
    fs.read p = .ok c.toBytes := by
  simp [read,nodeFile.mpr ⟨held,asks⟩]

theorem fileOfRead {bytes : ByteArray} (read : fs.read p = .ok bytes) :
    ∃ c, fs.node? p = some (.file c) ∧ c.toBytes = bytes := by
  unfold FileSystem.read at read
  split at read
  · cases read
    exact ⟨_,‹_›,rfl⟩
  · cases read
  · cases read

theorem presentOfRead {bytes : ByteArray} (read : fs.read p = .ok bytes) : fs.present p = true := by
  obtain ⟨c,named,-⟩ := fileOfRead read
  simp [present,named]

/-- `fs'` is `fs` with directories made where nothing stood. -/
def AddsDirectories (fs fs' : FileSystem) : Prop :=
  fs'.cwd = fs.cwd ∧
    ∀ k : String, fs'.nodes[k]? = fs.nodes[k]? ∨ (fs.nodes[k]? = none ∧ fs'.nodes[k]? = some Node.directory)

theorem AddsDirectories.refl (fs : FileSystem) : AddsDirectories fs fs :=
  ⟨rfl,fun _ => .inl rfl⟩

theorem AddsDirectories.trans {fs₁ fs₂ fs₃ : FileSystem} (first : AddsDirectories fs₁ fs₂)
    (second : AddsDirectories fs₂ fs₃) : AddsDirectories fs₁ fs₃ := by
  refine ⟨second.1.trans first.1,fun k => ?_⟩
  rcases first.2 k with same | ⟨none₁,dir₂⟩ <;> rcases second.2 k with same' | ⟨none₂,dir₃⟩
  · exact .inl (same'.trans same)
  · exact .inr ⟨same ▸ none₂,dir₃⟩
  · exact .inr ⟨none₁,same'.trans dir₂⟩
  · rw [dir₂] at none₂
    cases none₂

theorem AddsDirectories.read (adds : AddsDirectories fs fs') (p : String) :
    (fs'.read p).toOption = (fs.read p).toOption := by
  rw [readToOption,readToOption]
  rcases located : fs.locate p with ⟨key,dirOnly⟩
  simp only [node?,locateOfCwd adds.1,located]
  rcases adds.2 key with same | ⟨missing,made⟩
  · rw [same]
  · rw [missing,made]

theorem createDirAllAdds {dir : String} (made : fs.createDirAll dir = .ok fs') : AddsDirectories fs fs' := by
  unfold createDirAll at made
  dsimp only at made
  generalize names fs.cwd dir = ns at made
  generalize List.range (ns.length + 1) = steps at made
  -- one step per prefix of the names: the directory is there, or it is made where nothing was
  induction steps generalizing fs with
  | nil =>
    cases made
    exact .refl _
  | cons i rest ih =>
    rw [List.foldlM_cons] at made
    obtain ⟨fs₁,step,made⟩ := Except.bindOk made
    refine AddsDirectories.trans ?_ (ih made)
    split at step
    · cases step
      exact .refl _
    · split at step <;> cases step
    · cases step
      rename_i missing
      refine ⟨rfl,fun k => ?_⟩
      simp only [Std.TreeMap.getElem?_insert,Std.compare_eq_iff_eq]
      split
      · subst k
        exact .inr ⟨missing,rfl⟩
      · exact .inl rfl

theorem writeFileSets (written : fs.writeFile p c = .ok fs') :
    fs'.cwd = fs.cwd ∧ fs'.nodes = fs.nodes.insert (fs.locate p).1 (.file c) ∧ (fs.locate p).2 = false := by
  rcases located : fs.locate p with ⟨key,dirOnly⟩
  simp only [writeFile,located] at written
  split at written
  · cases written
  · split at written
    · cases written
    · split at written
      · cases written
        rename_i asks _ _
        exact ⟨rfl,rfl,by simpa using asks⟩
      · cases written

theorem writtenFile (written : fs.writeFile p c = .ok fs') : fs'.node? p = some (.file c) := by
  obtain ⟨cwd,nodes,asks⟩ := writeFileSets written
  rw [nodeFile,locateOfCwd cwd,nodes,Std.TreeMap.getElem?_insert_self]
  exact ⟨rfl,asks⟩

theorem renameOntoItself {src dst : String} {n : Node} (source : fs.node? src = some n)
    (same : (fs.locate src).1 = (fs.locate dst).1) : fs.rename src dst = .ok fs := by
  rcases locatedSrc : fs.locate src with ⟨origin,srcDir⟩
  rcases locatedDst : fs.locate dst with ⟨dest,dstDir⟩
  rw [locatedSrc,locatedDst] at same
  simp only at same
  simp [rename,locatedSrc,locatedDst,source,same]

theorem renameFile {src dst : String} (moved : fs.rename src dst = .ok fs')
    (source : fs.node? src = some (.file c)) :
    fs'.cwd = fs.cwd ∧ fs'.nodes[(fs.locate dst).1]? = some (.file c) := by
  have held := (nodeFile.mp source).1
  rcases locatedSrc : fs.locate src with ⟨origin,srcDir⟩
  rcases locatedDst : fs.locate dst with ⟨dest,dstDir⟩
  rw [locatedSrc] at held
  simp only [rename,locatedSrc,locatedDst,source] at moved
  split at moved
  · -- a file moved onto itself stays where it is
    cases moved
    rename_i same
    simpa [← beq_iff_eq.mp same] using held
  · split at moved
    · simp only [Bool.not_true,Bool.false_eq_true,if_false] at moved
      split at moved
      · cases moved
      -- a file is never moved down a directory's branches
      · rename_i kind _
        cases kind
      · rename_i kind _
        cases kind
      · rename_i kind _
        cases kind
      · rename_i kind _
        cases kind
        cases moved
        simp
    · simp at moved

end FileSystem

end LintWatch
