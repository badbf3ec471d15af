import LintWatch.Proofs.Components
import LintWatch.Schedule.Pending

/-! The cap of the pending set. The search for a victim finds the oldest entry under
`(enqueued, path)` among all but the kept one, and when the set is at most one over its
cap exactly that entry is dropped and counted. Nothing here speaks of batches. -/
namespace LintWatch.Schedule

theorem ageOrderIsLex :
    ageOrder = compareLex (compareOn fun x : Keyed => x.2.enqueuedMs) (compareOn Prod.fst) := rfl

instance : Std.TransCmp ageOrder := by
  rw [ageOrderIsLex]
  infer_instance

instance : Std.ReflCmp ageOrder := by
  rw [ageOrderIsLex]
  infer_instance

namespace PendingSet

def closer (keep : List Path.Component) (best : Option Keyed) (x : Keyed) : Option Keyed :=
  if x.1 == keep then best
  else match best with
    | some b => if ageOrder x b == .lt then some x else some b
    | none => some x

theorem oldestBesidesFold (s : PendingSet) (keep : List Path.Component) :
    s.oldestBesides keep = (s.entries.toList.foldl (closer keep) none).map (·.1) := by
  simp only [oldestBesides,Std.TreeMap.foldl_eq_foldl_toList]
  rfl

variable {keep : List Path.Component}

theorem closerSkipsKept {best : Option Keyed} {x : Keyed} (same : x.1 = keep) :
    closer keep best x = best := by
  simp [closer,same]

theorem closerStarts {x : Keyed} (other : x.1 ≠ keep) : closer keep none x = some x := by
  simp [closer,other]

theorem closerTakesEarlier {b x : Keyed} (other : x.1 ≠ keep) (earlier : ageOrder x b = .lt) :
    closer keep (some b) x = some x := by
  simp [closer,other,earlier]

theorem closerKeepsEarlier {b x : Keyed} (other : x.1 ≠ keep) (later : ageOrder x b ≠ .lt) :
    closer keep (some b) x = some b := by
  simp [closer,other,later]

theorem closerNoneIff {best : Option Keyed} {x : Keyed} :
    closer keep best x = none ↔ best = none ∧ x.1 = keep := by
  by_cases same : x.1 = keep
  · simp [closerSkipsKept same,same]
  · cases best with
    | none => simp [closerStarts same,same]
    | some b =>
      by_cases earlier : ageOrder x b = .lt
      · simp [closerTakesEarlier same earlier]
      · simp [closerKeepsEarlier same earlier]

theorem closerSource {best : Option Keyed} {x c : Keyed} (h : closer keep best x = some c) :
    best = some c ∨ (c = x ∧ x.1 ≠ keep) := by
  by_cases same : x.1 = keep
  · rw [closerSkipsKept same] at h
    exact .inl h
  · cases best with
    | none =>
      rw [closerStarts same] at h
      exact .inr ⟨(Option.some.inj h).symm,same⟩
    | some b =>
      by_cases earlier : ageOrder x b = .lt
      · rw [closerTakesEarlier same earlier] at h
        exact .inr ⟨(Option.some.inj h).symm,same⟩
      · rw [closerKeepsEarlier same earlier] at h
        exact .inl h

theorem closerLeast {best : Option Keyed} {x c : Keyed} (h : closer keep best x = some c) :
    (∀ b, best = some b → (ageOrder c b).isLE) ∧ (x.1 ≠ keep → (ageOrder c x).isLE) := by
  by_cases same : x.1 = keep
  · rw [closerSkipsKept same] at h
    subst h
    exact ⟨fun b hb => (by cases hb; exact Std.ReflCmp.isLE_rfl),fun other => absurd same other⟩
  · cases best with
    | none =>
      rw [closerStarts same] at h
      cases h
      exact ⟨fun b hb => (by cases hb),fun _ => Std.ReflCmp.isLE_rfl⟩
    | some b =>
      by_cases earlier : ageOrder x b = .lt
      · rw [closerTakesEarlier same earlier] at h
        cases h
        refine ⟨fun b' hb => ?_,fun _ => Std.ReflCmp.isLE_rfl⟩
        cases hb
        exact Ordering.isLE_of_eq_lt earlier
      · rw [closerKeepsEarlier same earlier] at h
        cases h
        refine ⟨fun b' hb => (by cases hb; exact Std.ReflCmp.isLE_rfl),fun _ => ?_⟩
        -- the kept candidate is not later than `x`, since `x` was not earlier than it
        have swap : ageOrder c x = (ageOrder x c).swap := Std.OrientedCmp.eq_swap
        rw [swap]
        cases hx : ageOrder x c <;> simp_all

theorem foldCloserNoneIff {l : List Keyed} {best : Option Keyed} :
    l.foldl (closer keep) best = none ↔ best = none ∧ ∀ x ∈ l, x.1 = keep := by
  induction l generalizing best with
  | nil => simp
  | cons x l ih =>
    rw [List.foldl_cons,ih,closerNoneIff]
    simp [and_assoc]

theorem foldCloserSource {l : List Keyed} {best : Option Keyed} {r : Keyed}
    (h : l.foldl (closer keep) best = some r) : best = some r ∨ (r ∈ l ∧ r.1 ≠ keep) := by
  induction l generalizing best with
  | nil => exact .inl h
  | cons x l ih =>
    rw [List.foldl_cons] at h
    rcases ih h with kept | found
    · rcases closerSource kept with old | ⟨rfl,other⟩
      · exact .inl old
      · exact .inr ⟨List.mem_cons_self,other⟩
    · exact .inr ⟨List.mem_cons_of_mem x found.1,found.2⟩

theorem foldCloserLeast {l : List Keyed} {best : Option Keyed} {r : Keyed}
    (h : l.foldl (closer keep) best = some r) :
    (∀ b, best = some b → (ageOrder r b).isLE) ∧ ∀ x ∈ l, x.1 ≠ keep → (ageOrder r x).isLE := by
  induction l generalizing best with
  | nil =>
    rw [List.foldl_nil] at h
    subst h
    exact ⟨fun b hb => (by cases hb; exact Std.ReflCmp.isLE_rfl),fun x mem => absurd mem List.not_mem_nil⟩
  | cons x l ih =>
    rw [List.foldl_cons] at h
    obtain ⟨belowStep,belowRest⟩ := ih h
    -- a step that had or saw a candidate keeps one, and `r` is no later than it
    have viaStep : ∀ c, closer keep best x = some c → ∀ y, (ageOrder c y).isLE →
        (ageOrder r y).isLE :=
      fun c hc y cy => Std.TransCmp.isLE_trans (belowStep c hc) cy
    have kept : ¬ (best = none ∧ x.1 = keep) → ∃ c, closer keep best x = some c ∧
        ((∀ b, best = some b → (ageOrder c b).isLE) ∧ (x.1 ≠ keep → (ageOrder c x).isLE)) := by
      intro some
      cases hc : closer keep best x with
      | none => exact absurd (closerNoneIff.mp hc) some
      | some c => exact ⟨c,rfl,closerLeast hc⟩
    refine ⟨fun b hb => ?_,fun y mem other => ?_⟩
    · obtain ⟨c,hc,cb,-⟩ := kept (fun h => by simp [h.1] at hb)
      exact viaStep c hc b (cb b hb)
    · rcases List.mem_cons.mp mem with rfl | rest
      · obtain ⟨c,hc,-,cx⟩ := kept (fun h => other h.2)
        exact viaStep c hc y (cx other)
      · exact belowRest y rest other

theorem oldestBesidesNoneIff {s : PendingSet} :
    s.oldestBesides keep = none ↔ ∀ k ∈ s.entries, k = keep := by
  rw [oldestBesidesFold,Option.map_eq_none_iff,foldCloserNoneIff]
  constructor
  · rintro ⟨-,all⟩ k mem
    obtain ⟨e,he⟩ := Option.isSome_iff_exists.mp (Std.TreeMap.mem_iff_isSome_getElem?.mp mem)
    exact all (k,e) (Std.TreeMap.mem_toList_iff_getElem?_eq_some.mpr he)
  · intro all
    refine ⟨rfl,fun x mem => all x.1 ?_⟩
    exact Std.TreeMap.mem_iff_isSome_getElem?.mpr
      (by rw [Std.TreeMap.mem_toList_iff_getElem?_eq_some.mp mem]; rfl)

theorem oldestBesidesSome {s : PendingSet} {v : List Path.Component}
    (h : s.oldestBesides keep = some v) :
    v ≠ keep ∧ ∃ e, s.entries[v]? = some e ∧
      ∀ k e', s.entries[k]? = some e' → k ≠ keep → (ageOrder (v,e) (k,e')).isLE := by
  rw [oldestBesidesFold,Option.map_eq_some_iff] at h
  obtain ⟨⟨v',e⟩,found,rfl⟩ := h
  rcases foldCloserSource found with start | ⟨mem,other⟩
  · cases start
  · refine ⟨other,e,Std.TreeMap.mem_toList_iff_getElem?_eq_some.mp mem,fun k e' he' ne => ?_⟩
    exact (foldCloserLeast found).2 (k,e') (Std.TreeMap.mem_toList_iff_getElem?_eq_some.mpr he') ne

theorem enforceCapWithin {s : PendingSet} (within : s.size ≤ s.maxPending) (fuel : Nat) :
    s.enforceCap keep fuel = s := by
  cases fuel <;> simp [enforceCap,within]

theorem sizeLeOneOfOnlyKey {s : PendingSet} (only : ∀ k ∈ s.entries, k = keep) : s.size ≤ 1 := by
  have empty : (s.entries.erase keep).isEmpty := by
    rw [Std.TreeMap.isEmpty_iff_forall_not_mem]
    intro k mem
    rw [Std.TreeMap.mem_erase] at mem
    exact mem.1 (by rw [only k mem.2]; exact Std.ReflCmp.compare_self)
  have below := Std.TreeMap.size_le_size_erase (t := s.entries) (k := keep)
  rw [Std.TreeMap.isEmpty_eq_size_eq_zero,beq_iff_eq] at empty
  unfold size
  omega

theorem enforceCapSettings (s : PendingSet) (keep : List Path.Component) (fuel : Nat) :
    (s.enforceCap keep fuel).classifier = s.classifier ∧
      (s.enforceCap keep fuel).maxPending = s.maxPending ∧
      (s.enforceCap keep fuel).ageBoostMs = s.ageBoostMs := by
  induction fuel generalizing s with
  | zero => exact ⟨rfl,rfl,rfl⟩
  | succ fuel ih =>
    unfold enforceCap
    split
    · exact ⟨rfl,rfl,rfl⟩
    · split
      · exact ih _
      · exact ⟨rfl,rfl,rfl⟩

theorem enforceCapLookup (s : PendingSet) (keep : List Path.Component) (fuel : Nat)
    {k : List Path.Component} {e : Entry} (found : (s.enforceCap keep fuel).entries[k]? = some e) :
    s.entries[k]? = some e := by
  induction fuel generalizing s with
  | zero => exact found
  | succ fuel ih =>
    unfold enforceCap at found
    split at found
    · exact found
    · split at found
      · have erased := ih _ found
        rw [Std.TreeMap.getElem?_erase] at erased
        split at erased
        · cases erased
        · exact erased
      · exact found

theorem enforceCapKeeps (s : PendingSet) (keep : List Path.Component) (fuel : Nat) :
    (s.enforceCap keep fuel).entries[keep]? = s.entries[keep]? := by
  induction fuel generalizing s with
  | zero => rfl
  | succ fuel ih =>
    unfold enforceCap
    split
    · rfl
    · split
      · rename_i v victim
        rw [ih]
        have other := (oldestBesidesSome victim).1
        exact Std.TreeMap.getElem?_erase.trans
          (if_neg fun same => other (Std.LawfulEqCmp.eq_of_compare same))
      · rfl

/-- `after` is `s`, or `s` less its oldest entry other than `keep`, counted as evicted. -/
def EvictsOldest (s after : PendingSet) (keep : List Path.Component) : Prop :=
  after = s ∨ ∃ v e, v ≠ keep ∧ s.entries[v]? = some e ∧
    (∀ k e', s.entries[k]? = some e' → k ≠ keep → (ageOrder (v,e) (k,e')).isLE) ∧
    after = { s with entries := s.entries.erase v, evicted := s.evicted + 1 }

theorem enforceCapEvictsOldest {s : PendingSet} (keep : List Path.Component) (least : 1 ≤ s.maxPending)
    (within : s.size ≤ s.maxPending + 1) {fuel : Nat} (pos : 0 < fuel) :
    EvictsOldest s (s.enforceCap keep fuel) keep ∧ (s.enforceCap keep fuel).size ≤ s.maxPending := by
  by_cases under : s.size ≤ s.maxPending
  · rw [enforceCapWithin under]
    exact ⟨.inl rfl,under⟩
  obtain ⟨fuel,rfl⟩ : ∃ f, fuel = f + 1 := ⟨fuel - 1,by omega⟩
  cases victim : s.oldestBesides keep with
  | none =>
    have := sizeLeOneOfOnlyKey (oldestBesidesNoneIff.mp victim)
    omega
  | some v =>
    obtain ⟨other,e,found,oldest⟩ := oldestBesidesSome victim
    have dropped : (s.entries.erase v).size = s.size - 1 := by
      rw [Std.TreeMap.size_erase,if_pos (Std.TreeMap.contains_iff_mem.mpr
        (Std.TreeMap.mem_iff_isSome_getElem?.mpr (by rw [found]; rfl)))]
      rfl
    have fits : ({ s with entries := s.entries.erase v, evicted := s.evicted + 1 } : PendingSet).size ≤
        s.maxPending := by
      change (s.entries.erase v).size ≤ s.maxPending
      omega
    have step : s.enforceCap keep (fuel + 1) =
        { s with entries := s.entries.erase v, evicted := s.evicted + 1 } := by
      rw [enforceCap,if_neg under,victim]
      exact enforceCapWithin fits fuel
    rw [step]
    exact ⟨.inr ⟨v,e,other,found,oldest,rfl⟩,fits⟩

end PendingSet

end LintWatch.Schedule
