import LintWatch.Proofs.Pending.Cap

/-! The three operations of the pending set, each cut at the cap: an enqueue or a requeue
places one entry under its path and then enforces the cap; a batch takes the first
entries of the ranked set and erases their keys. Callers use these equations and never
unfold the operations. -/
namespace LintWatch.Schedule.PendingSet

def place (s : PendingSet) (key : List Path.Component) (e : Entry) : PendingSet :=
  { s with entries := s.entries.insert key e }

/-- The entry an enqueue places under the change's path: the change's kind, time, size,
priority and cost, over the place in line of an entry already there. -/
def enqueued (s : PendingSet) (c : Change) (sizeBytes now : Nat) : Entry :=
  let size := if c.kind == .removed then 0 else sizeBytes
  let base := s.classifier.priority c.path c.kind
  let old := s.entries[Path.components c.path]?
  { path := (old.map (·.path)).getD c.path, kind := c.kind, detectedMs := c.detectedMs
    basePriority := base, priority := base, costMs := estimateCostMs c.path size
    sizeBytes := size, enqueuedMs := (old.map (·.enqueuedMs)).getD now }

def requeued (s : PendingSet) (e : Entry) : Entry :=
  match s.entries[Path.components e.path]? with
  | some old => { old with enqueuedMs := min e.enqueuedMs old.enqueuedMs }
  | none => { e with priority := e.basePriority }

@[simp] theorem placeEntries (s : PendingSet) (key : List Path.Component) (e : Entry) :
    (s.place key e).entries = s.entries.insert key e := rfl

@[simp] theorem placeMaxPending (s : PendingSet) (key : List Path.Component) (e : Entry) :
    (s.place key e).maxPending = s.maxPending := rfl

@[simp] theorem placeClassifier (s : PendingSet) (key : List Path.Component) (e : Entry) :
    (s.place key e).classifier = s.classifier := rfl

theorem enqueueAsPlace (s : PendingSet) (c : Change) (sizeBytes now : Nat) :
    s.enqueue c sizeBytes now =
      (s.place (Path.components c.path) (s.enqueued c sizeBytes now)).enforceCap
        (Path.components c.path) (s.place (Path.components c.path) (s.enqueued c sizeBytes now)).size := by
  unfold enqueue enqueued place
  cases h : s.entries[Path.components c.path]? <;> simp only [h] <;> rfl

theorem requeueAsPlace (s : PendingSet) (e : Entry) :
    s.requeue e =
      (s.place (Path.components e.path) (s.requeued e)).enforceCap
        (Path.components e.path) (s.place (Path.components e.path) (s.requeued e)).size := by
  unfold requeue requeued place
  cases h : s.entries[Path.components e.path]? with
  | none => simp only [h]
  | some old =>
    simp only [h]
    by_cases earlier : e.enqueuedMs < old.enqueuedMs
    · simp [earlier,Nat.min_eq_left (Nat.le_of_lt earlier)]
    · simp [earlier,Nat.min_eq_right (Nat.le_of_not_lt earlier)]

theorem placeSizeLe (s : PendingSet) (key : List Path.Component) (e : Entry) :
    (s.place key e).size ≤ s.size + 1 :=
  Std.TreeMap.size_insert_le

theorem placeSizePos (s : PendingSet) (key : List Path.Component) (e : Entry) :
    0 < (s.place key e).size := by
  have filled := Std.TreeMap.isEmpty_insert (t := s.entries) (k := key) (v := e)
  rw [Std.TreeMap.isEmpty_eq_size_eq_zero,beq_eq_false_iff_ne] at filled
  exact Nat.pos_of_ne_zero filled

theorem placeLookup {s : PendingSet} {key p : List Path.Component} {e e' : Entry}
    (found : (s.place key e).entries[p]? = some e') :
    (key = p ∧ e' = e) ∨ (key ≠ p ∧ s.entries[p]? = some e') := by
  rw [placeEntries,Std.TreeMap.getElem?_insert] at found
  split at found
  · rename_i same
    exact .inl ⟨Std.LawfulEqCmp.eq_of_compare same,(Option.some.inj found).symm⟩
  · rename_i other
    exact .inr ⟨fun same => other (same ▸ Std.ReflCmp.compare_self),found⟩

theorem enqueueKeeps (s : PendingSet) (c : Change) (sizeBytes now : Nat) :
    (s.enqueue c sizeBytes now).entries[Path.components c.path]? = some (s.enqueued c sizeBytes now) := by
  rw [enqueueAsPlace,enforceCapKeeps]
  simp

theorem enqueueLookup {s : PendingSet} {c : Change} {sizeBytes now : Nat} {p : List Path.Component}
    {e : Entry} (found : (s.enqueue c sizeBytes now).entries[p]? = some e) :
    (Path.components c.path = p ∧ e = s.enqueued c sizeBytes now) ∨
      (Path.components c.path ≠ p ∧ s.entries[p]? = some e) := by
  rw [enqueueAsPlace] at found
  exact placeLookup (enforceCapLookup _ _ _ found)

theorem requeueKeeps (s : PendingSet) (e : Entry) :
    (s.requeue e).entries[Path.components e.path]? = some (s.requeued e) := by
  rw [requeueAsPlace,enforceCapKeeps]
  simp

theorem requeueLookup {s : PendingSet} {e : Entry} {p : List Path.Component} {e' : Entry}
    (found : (s.requeue e).entries[p]? = some e') :
    (Path.components e.path = p ∧ e' = s.requeued e) ∨
      (Path.components e.path ≠ p ∧ s.entries[p]? = some e') := by
  rw [requeueAsPlace] at found
  exact placeLookup (enforceCapLookup _ _ _ found)

def ranked (s : PendingSet) (now : Nat) : List Keyed :=
  (s.entries.toList.map fun (k,e) =>
    ((k,{ e with priority := e.boostedPriority now s.ageBoostMs }) : Keyed)).mergeSort
      (fun a b => batchOrder a b != .gt)

def eraseKeys (l : List Keyed) (m : Std.TreeMap (List Path.Component) Entry) :
    Std.TreeMap (List Path.Component) Entry :=
  l.foldl (fun m (k,_) => m.erase k) m

theorem takeBatchAsRanked (s : PendingSet) (max now : Nat) :
    s.takeBatch max now = (((s.ranked now).take max).map (·.2),
      { s with entries := eraseKeys ((s.ranked now).take max) s.entries }) := rfl

theorem eraseKeysLookup (l : List Keyed) (m : Std.TreeMap (List Path.Component) Entry)
    (a : List Path.Component) :
    (eraseKeys l m)[a]? = if a ∈ l.map (·.1) then none else m[a]? := by
  induction l generalizing m with
  | nil => simp [eraseKeys]
  | cons x l ih =>
    simp only [eraseKeys,List.foldl_cons] at ih ⊢
    rw [ih,Std.TreeMap.getElem?_erase]
    by_cases same : x.1 = a
    · simp [same]
    · have : compare x.1 a ≠ .eq := fun h => same (Std.LawfulEqCmp.eq_of_compare h)
      rw [if_neg this]
      simp only [List.map_cons,List.mem_cons,Ne.symm same,false_or]

theorem eraseKeysSize {l : List Keyed} {m : Std.TreeMap (List Path.Component) Entry}
    (present : ∀ x ∈ l, x.1 ∈ m) (distinct : (l.map (·.1)).Nodup) :
    (eraseKeys l m).size = m.size - l.length := by
  induction l generalizing m with
  | nil => simp [eraseKeys]
  | cons x l ih =>
    rw [List.map_cons,List.nodup_cons] at distinct
    have rest : ∀ y ∈ l, y.1 ∈ m.erase x.1 := by
      intro y mem
      rw [Std.TreeMap.mem_erase]
      refine ⟨fun h => distinct.1 ?_,present y (List.mem_cons_of_mem x mem)⟩
      rw [Std.LawfulEqCmp.eq_of_compare h]
      exact List.mem_map_of_mem mem
    have shrunk := ih rest distinct.2
    simp only [eraseKeys,List.foldl_cons] at shrunk ⊢
    rw [shrunk,Std.TreeMap.size_erase,if_pos (Std.TreeMap.contains_iff_mem.mpr
      (present x List.mem_cons_self)),List.length_cons]
    omega

theorem memRanked {s : PendingSet} {now : Nat} {k : List Path.Component} {e' : Entry} :
    (k,e') ∈ s.ranked now ↔
      ∃ e, s.entries[k]? = some e ∧ e' = { e with priority := e.boostedPriority now s.ageBoostMs } := by
  simp only [ranked,List.mem_mergeSort,List.mem_map,Prod.mk.injEq]
  constructor
  · rintro ⟨⟨k',e⟩,mem,rfl,rfl⟩
    exact ⟨e,Std.TreeMap.mem_toList_iff_getElem?_eq_some.mp mem,rfl⟩
  · rintro ⟨e,found,rfl⟩
    exact ⟨(k,e),Std.TreeMap.mem_toList_iff_getElem?_eq_some.mpr found,rfl,rfl⟩

theorem rankedKeysPerm (s : PendingSet) (now : Nat) :
    ((s.ranked now).map (·.1)).Perm s.entries.keys := by
  rw [← Std.TreeMap.map_fst_toList_eq_keys]
  have sorted := List.mergeSort_perm (s.entries.toList.map fun (k,e) =>
    ((k,{ e with priority := e.boostedPriority now s.ageBoostMs }) : Keyed))
    (fun a b => batchOrder a b != .gt)
  have := sorted.map (·.1)
  simpa [ranked,List.map_map,Function.comp_def] using this

theorem rankedKeysNodup (s : PendingSet) (now : Nat) : ((s.ranked now).map (·.1)).Nodup :=
  (rankedKeysPerm s now).nodup_iff.mpr Std.TreeMap.nodup_keys

theorem rankedLength (s : PendingSet) (now : Nat) : (s.ranked now).length = s.size := by
  rw [← List.length_map (f := (·.1)),(rankedKeysPerm s now).length_eq,Std.TreeMap.length_keys]
  rfl

theorem takeBatchLookup (s : PendingSet) (max now : Nat) (k : List Path.Component) :
    (s.takeBatch max now).2.entries[k]? =
      if k ∈ ((s.ranked now).take max).map (·.1) then none else s.entries[k]? := by
  rw [takeBatchAsRanked]
  exact eraseKeysLookup _ _ _

/-- What a batch leaves was pending before it, unchanged. -/
theorem takeBatchLeftStored {s : PendingSet} {max now : Nat} {k : List Path.Component} {e : Entry}
    (left : (s.takeBatch max now).2.entries[k]? = some e) : s.entries[k]? = some e := by
  rw [takeBatchLookup] at left
  split at left
  · cases left
  · exact left

theorem takeBatchSize (s : PendingSet) (max now : Nat) :
    (s.takeBatch max now).2.size = s.size - min max s.size := by
  have distinct : (((s.ranked now).take max).map (·.1)).Nodup := by
    rw [List.map_take]
    exact (rankedKeysNodup s now).sublist (List.take_sublist _ _)
  have present : ∀ x ∈ (s.ranked now).take max, x.1 ∈ s.entries := by
    intro ⟨k,e'⟩ mem
    obtain ⟨e,found,-⟩ := memRanked.mp (List.mem_of_mem_take mem)
    exact Std.TreeMap.mem_iff_isSome_getElem?.mpr (by rw [found]; rfl)
  rw [takeBatchAsRanked]
  change (eraseKeys _ s.entries).size = _
  rw [eraseKeysSize present distinct,List.length_take,rankedLength]
  rfl

theorem takeBatchLength (s : PendingSet) (max now : Nat) :
    (s.takeBatch max now).1.length = min max s.size := by
  rw [takeBatchAsRanked,List.length_map,List.length_take,rankedLength]

end LintWatch.Schedule.PendingSet
