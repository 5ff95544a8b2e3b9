import Sheetflow.Proofs.Service.Ending

/-!
# Admission in steady worlds

A submission is admitted or denied.  If it is denied nothing is counted for it; if it is admitted
one unit of each count is, and the jobs under way are still within their limit
(`Quota.exec_reserve`).
-/

namespace Sheetflow

open Service

namespace Quota
variable {w : World}

/-- What remains of admission when a unit of the month was taken. -/
def takeSlot (s : Settings) (org : String) (month : Counter) (used : Int) : Service Decision := do
  if exceeds s.monthlyLimit used then
    let _ : Int ← command (.decrement month)
    return .denied ("Monthly conversion limit reached (" ++ toString s.monthlyLimit ++ ")")
      ⟨none, some (used - 1)⟩
  else
    let active : Int ← command (.increment (.active org))
    if exceeds s.concurrentLimit active then
      let _ : Int ← command (.decrement (.active org))
      let _ : Int ← command (.decrement month)
      return .denied ("Concurrent conversion limit reached (" ++ toString s.concurrentLimit ++ ")")
        ⟨some (active - 1), none⟩
    else return .allowed ⟨some active, some used⟩

theorem reserve_of_size (s : Settings) (org : String) {size : Int}
    (h : sizeRefusal? s size = none) :
    reserve s org size = (do
      let month := monthly org (← now)
      let used : Int ← command (.increment month)
      if used = 1 then
        let _ ← command (.setLifetime month monthlyLifetime)
        takeSlot s org month used
      else takeSlot s org month used) := by
  rw [reserve, h]
  rfl

theorem le_of_not_exceeds {limit n : Int} (h : ¬ exceeds limit n = true) (hl : 0 < limit) :
    n ≤ limit := by
  refine Int.not_lt.mp fun hn => h ?_
  rw [exceeds, Bool.and_eq_true, bne_iff_ne, decide_eq_true_eq]
  omega

/-- A store in which one has been added to the counts of some counters. -/
structure Took (s : Store) (p : Counter → Prop) [DecidablePred p] (t : Store) : Prop where
  records : s.SameRecords t
  counts : ∀ c, t.count c = s.count c + if p c then 1 else 0

/-- How admission ends: denied with nothing taken, or allowed with a unit of both counts taken. -/
inductive Admits (s : Settings) (w : World) (org : String) :
    World × Except ServiceError Decision → Prop
  | denied (t : Store) (reason : String) (counts : Counts) (h : Took w.store (fun _ => False) t) :
    Admits s w org (w.withStore t, .ok (.denied reason counts))
  | allowed (t : Store) (counts : Counts)
    (h : Took w.store (fun c => c = .active org ∨ c = monthly org w.time) t)
    (within : 0 < s.concurrentLimit → t.count (.active org) ≤ s.concurrentLimit) :
    Admits s w org (w.withStore t, .ok (.allowed counts))

/-- The rest of admission, where the unit of the month was taken already. -/
theorem exec_takeSlot {s : Settings} {org : String} (hw : w.Steady) {t : Store}
    (ht : Took w.store (fun c => c = monthly org w.time) t) (used : Int) :
    Admits s w org (exec (takeSlot s org (monthly org w.time) used) (w.withStore t)) := by
  have hne : Counter.active org ≠ monthly org w.time := by
    rw [monthly]
    exact fun h => nomatch h
  have hw' := hw.withStore t
  unfold takeSlot
  by_cases hmonth : exceeds s.monthlyLimit used = true
  · rw [if_pos hmonth, exec_bind_of_ok (exec_decrement hw' _), exec_pure]
    refine .denied _ _ _ ⟨ht.records.trans (.addTo _ _ _), fun c => ?_⟩
    rw [World.withStore_store, Store.count_addTo, ht.counts, ht.counts]
    by_cases hc : c = monthly org w.time
    · rw [if_pos hc, if_pos rfl, if_neg not_false, hc]
      omega
    · simp [hc]
  · rw [if_neg hmonth, exec_bind_of_ok (exec_increment hw' _)]
    have hw'' := hw'.withStore ((w.withStore t).store.addTo (.active org) 1)
    by_cases hactive : exceeds s.concurrentLimit ((w.withStore t).store.count (.active org) + 1) = true
    · rw [if_pos hactive, exec_bind_of_ok (exec_decrement hw'' _),
        exec_bind_of_ok (exec_decrement (hw''.withStore _) _), exec_pure]
      refine .denied _ _ _
        ⟨ht.records.trans (.trans (.addTo _ _ _) (.trans (.addTo _ _ _) (.addTo _ _ _))),
        fun c => ?_⟩
      simp only [World.withStore_store, Store.count_addTo, ht.counts]
      by_cases hc : c = monthly org w.time
      · simp only [hc, hne.symm, if_true, if_false]
        omega
      · by_cases hc' : c = .active org
        · simp only [hc', hne, if_true, if_false]
          omega
        · simp [hc, hc']
    · rw [if_neg hactive, exec_pure]
      have hcount : (t.addTo (.active org) 1).count (.active org) = t.count (.active org) + 1 := by
        rw [Store.count_addTo, if_pos rfl]
      refine .allowed _ _ ⟨ht.records.trans (.addTo _ _ _), fun c => ?_⟩ fun hl => ?_
      · simp only [World.withStore_store, Store.count_addTo, ht.counts]
        by_cases hc : c = .active org
        · simp [hc, hne]
        · simp [hc]
      · rw [World.withStore_store, hcount]
        exact le_of_not_exceeds hactive hl

/-- **Admission** is denied with nothing taken, or allowed with a unit of each count taken. -/
theorem exec_reserve (hw : w.Steady) (s : Settings) (org : String) (size : Int) :
    Admits s w org (exec (reserve s org size) w) := by
  cases hsize : sizeRefusal? s size with
  | some reason =>
    rw [reserve, hsize]
    exact .denied w.store reason ⟨none, none⟩ ⟨.rfl' _, fun c => by simp⟩
  | none =>
    have hw' := hw.withStore (w.store.addTo (monthly org w.time) 1)
    have htook : Took w.store (fun c => c = monthly org w.time)
        (w.store.addTo (monthly org w.time) 1) := by
      refine ⟨.addTo _ _ _, fun c => ?_⟩
      rw [Store.count_addTo]
      by_cases hc : c = monthly org w.time <;> simp [hc]
    rw [reserve_of_size s org hsize, exec_bind_of_ok (exec_now w),
      exec_bind_of_ok (exec_increment hw _)]
    split
    · rw [exec_bind_of_ok (exec_setLifetime hw' _ _)]
      refine exec_takeSlot hw ⟨htook.records.trans (.setLifetime _ _ _), fun c => ?_⟩ _
      rw [Store.count_setLifetime, htook.counts]
    · exact exec_takeSlot hw htook _

end Quota

end Sheetflow
