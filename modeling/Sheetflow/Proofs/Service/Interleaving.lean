import Mathlib.Algebra.BigOperators.Group.List.Basic
import Mathlib.Algebra.Order.BigOperators.Group.List
import Mathlib.Algebra.Order.Ring.Int
import Sheetflow.Proofs.Service.Admission
import Sheetflow.Proofs.Service.Stepping

/-!
# Admission in the midst of other calls

Callers ask for admission of one organization, and those that are admitted may return what they took,
each unit once.  A command is carried out at once, but between two commands of one call those of others
may come, in any order.  `Admissions` is a world with its callers, and a `Turn` is a step of one of them.

A count is at all times what callers have added to it and not taken back; this includes those that are
about to be denied (`Stage.slots`, `Stage.units`).  So no more is held than the limits allow, no count
falls below zero, and when no call is under way the counts are what is held
(`Admissions.never_oversold`).
-/

namespace Sheetflow

open Service

namespace Quota

/-- One who asks for admission, and may later return the slot and the unit of the month. -/
structure Caller where
  reserving : Service Decision
  releasing : Option (Service Unit) := none
  refunding : Option (Service Int) := none

/-- Which of its calls a caller goes on with. -/
inductive Act where
  | reserve
  | release
  | refund

namespace Caller

def isAdmitted (c : Caller) : Bool :=
  match c.reserving.value? with
  | some (.allowed _) => true
  | _ => false

/-- Was it admitted, and has it not returned its slot? -/
def hasSlot (c : Caller) : Bool := c.isAdmitted && (c.releasing.bind value?).isNone

/-- Was it admitted, and has it not returned its unit of the month? -/
def hasUnit (c : Caller) : Bool := c.isAdmitted && (c.refunding.bind value?).isNone

/-- Is none of its calls under way? -/
def isOver (c : Caller) : Bool :=
  c.reserving.isOver && c.releasing.all Service.isOver && c.refunding.all Service.isOver

/-- The commands that its calls give next. -/
def commands (c : Caller) : List Command :=
  c.reserving.command?.toList ++ (c.releasing.bind command?).toList ++
    (c.refunding.bind command?).toList

/-- A step of one of its calls.  It begins to return something only if it was admitted. -/
def step (org : String) (c : Caller) (w : World) : Act → World × Caller
  | .reserve =>
    let (w, p) := c.reserving.step w
    (w, { c with reserving := p })
  | .release =>
    match c.releasing with
    | none => (w, if c.isAdmitted then { c with releasing := some (release org) } else c)
    | some p =>
      let (w, p) := p.step w
      (w, { c with releasing := some p })
  | .refund =>
    match c.refunding with
    | none => (w, if c.isAdmitted then { c with refunding := some (refund org) } else c)
    | some p =>
      let (w, p) := p.step w
      (w, { c with refunding := some p })

end Caller

/-- A world, and those who ask for admission there. -/
structure Admissions where
  world : World
  callers : List Caller := []

/-- What happens next. -/
inductive Turn where
  /-- Someone asks for admission of a file of a size. -/
  | arrive (size : Int)
  | act (caller : Nat) (a : Act)
  /-- The clock is set to another time of the month. -/
  | tick (clock : Instant)

namespace Admissions

def step (s : Settings) (org : String) (a : Admissions) : Turn → Admissions
  | .arrive size => { a with callers := a.callers ++ [{ reserving := reserve s org size }] }
  | .act i act =>
    match a.callers[i]? with
    | none => a
    | some c =>
      let (world, c) := c.step org a.world act
      { world, callers := a.callers.set i c }
  | .tick clock =>
    if monthly org (.ofInstant clock) = monthly org a.world.time then
      { a with world := { a.world with clock } }
    else a

def run (s : Settings) (org : String) (a : Admissions) (turns : List Turn) : Admissions :=
  turns.foldl (step s org) a

end Admissions

/-! ### Where callers stand -/

/-- How far the return of something is. -/
inductive Giving where
  | idle
  | asked
  /-- The counter is known. -/
  | ready
  | given (left : Int)

namespace Giving

def units : Giving → Int
  | .given _ => 0
  | _ => 1

def releasing (org : String) : Giving → Option (Service Unit)
  | .idle => none
  | .asked => some (release org)
  | .ready => some (release org)
  | .given _ => some (pure ())

def refunding (org : String) (month : Counter) : Giving → Option (Service Int)
  | .idle => none
  | .asked => some (refund org)
  | .ready => some (giveBack month)
  | .given n => some (pure n)

end Giving

/-- How far a caller is with its admission, and if it was admitted, with returning what it took. -/
inductive Stage where
  | before
  /-- The month is known. -/
  | counting
  /-- The unit of the month that was taken was the first. -/
  | marking
  | counted (used : Int)
  /-- A slot too many was taken. -/
  | overSlots (active : Int)
  /-- The slot was taken back, the unit of the month was not. -/
  | returning (active : Int)
  | denied (reason : String) (counts : Counts)
  | admitted (counts : Counts) (releasing refunding : Giving)

/-- What remains of admission when the month is known. -/
def countMonth (s : Settings) (org : String) (month : Counter) : Service Decision := do
  let used : Int ← command (.increment month)
  if used = 1 then
    let _ ← command (.setLifetime month monthlyLifetime)
    takeSlot s org month used
  else takeSlot s org month used

/-- What remains of a denial that the organization has too many jobs under way. -/
def denyAfter (s : Settings) (month : Counter) (active : Int) : Service Decision := do
  let _ : Int ← command (.decrement month)
  return .denied ("Concurrent conversion limit reached (" ++ toString s.concurrentLimit ++ ")")
    ⟨some (active - 1), none⟩

namespace Stage
variable (s : Settings) (org : String) (month : Counter)

def reserving : Stage → Service Decision
  | .before => do countMonth s org (monthly org (← now))
  | .counting => countMonth s org month
  | .marking => do
    let _ ← command (.setLifetime month monthlyLifetime)
    takeSlot s org month 1
  | .counted used => takeSlot s org month used
  | .overSlots active => do
    let _ : Int ← command (.decrement (.active org))
    denyAfter s month active
  | .returning active => denyAfter s month active
  | .denied reason counts => return .denied reason counts
  | .admitted counts _ _ => return .allowed counts

def caller : Stage → Caller
  | .admitted counts rel ref =>
    ⟨reserving s org month (.admitted counts rel ref), rel.releasing org, ref.refunding org month⟩
  | st => ⟨reserving s org month st, none, none⟩

/-- What the caller has added to the count of jobs under way. -/
def slots : Stage → Int
  | .overSlots _ => 1
  | .admitted _ rel _ => rel.units
  | _ => 0

/-- What the caller has added to the count of the month. -/
def units : Stage → Int
  | .marking => 1
  | .counted _ => 1
  | .overSlots _ => 1
  | .returning _ => 1
  | .admitted _ _ ref => ref.units
  | _ => 0

/-- The slots of those that were admitted. -/
def heldSlots : Stage → Int
  | .admitted _ rel _ => rel.units
  | _ => 0

/-- The units of the month of those that were admitted, or may be. -/
def heldUnits : Stage → Int
  | .marking => if exceeds s.monthlyLimit 1 then 0 else 1
  | .counted used => if exceeds s.monthlyLimit used then 0 else 1
  | .admitted _ _ ref => ref.units
  | _ => 0

/-! ### What a step of a caller does -/

variable {s : Settings} {org : String} {month : Counter} {w : World} {st : Stage}

/-- Who was not admitted has nothing, and returns nothing. -/
theorem caller_cases (s : Settings) (org : String) (month : Counter) (st : Stage) :
    (∃ counts rel ref, st = .admitted counts rel ref) ∨
      (st.caller s org month).isAdmitted = false ∧ (st.caller s org month).releasing = none ∧
        (st.caller s org month).refunding = none ∧ st.heldSlots = 0 := by
  cases st with
  | admitted counts rel ref => exact .inl ⟨counts, rel, ref, rfl⟩
  | counted used =>
    refine .inr ⟨?_, rfl, rfl, rfl⟩
    show Caller.isAdmitted ⟨takeSlot s org month used, none, none⟩ = false
    unfold takeSlot
    split <;> rfl
  | _ => exact .inr ⟨rfl, rfl, rfl, rfl⟩

/-- What a step of a caller changes: the counts go with what the callers took, and what is held only
grows within the limits. -/
structure Goes (s : Settings) (org : String) (month : Counter) (w : World) (st : Stage) (w' : World)
    (st' : Stage) : Prop where
  steady : w'.Steady
  time : w'.time = w.time
  slots : w'.store.count (.active org) = w.store.count (.active org) + st'.slots - st.slots
  units : w'.store.count month = w.store.count month + st'.units - st.units
  heldSlots : st'.heldSlots ≤ st.heldSlots ∨ w'.store.count (.active org) ≤ s.concurrentLimit
  heldUnits : st'.heldUnits s ≤ st.heldUnits s ∨ w'.store.count month ≤ s.monthlyLimit

theorem Goes.stay (hw : w.Steady) {st' : Stage} (hslots : st'.slots = st.slots)
    (hunits : st'.units = st.units) (hheldSlots : st'.heldSlots = st.heldSlots)
    (hheldUnits : st'.heldUnits s = st.heldUnits s) : Goes s org month w st w st' :=
  ⟨hw, rfl, by omega, by omega, .inl hheldSlots.le, .inl hheldUnits.le⟩

theorem active_ne_of_monthly (h : monthly org w.time = month) : Counter.active org ≠ month := by
  rw [← h, monthly]
  exact Counter.noConfusion

/-- A command on the count of the month. -/
theorem Goes.count_month (hw : w.Steady) (hne : Counter.active org ≠ month) {n : Int} {st' : Stage}
    (hslots : st'.slots = st.slots) (hunits : st'.units = st.units + n)
    (hheldSlots : st'.heldSlots = st.heldSlots)
    (hheldUnits : st'.heldUnits s ≤ st.heldUnits s ∨ w.store.count month + n ≤ s.monthlyLimit) :
    Goes s org month w st (w.withStore (w.store.addTo month n)) st' := by
  refine ⟨hw.withStore _, rfl, ?_, ?_, .inl hheldSlots.le, ?_⟩
  · rw [World.withStore_store, Store.count_addTo, if_neg hne]
    omega
  · rw [World.withStore_store, Store.count_addTo, if_pos rfl]
    omega
  · rw [World.withStore_store, Store.count_addTo, if_pos rfl]
    exact hheldUnits

/-- A command on the count of jobs under way. -/
theorem Goes.count_active (hw : w.Steady) (hne : Counter.active org ≠ month) {n : Int} {st' : Stage}
    (hslots : st'.slots = st.slots + n) (hunits : st'.units = st.units)
    (hheldSlots : st'.heldSlots ≤ st.heldSlots ∨
      w.store.count (.active org) + n ≤ s.concurrentLimit)
    (hheldUnits : st'.heldUnits s ≤ st.heldUnits s) :
    Goes s org month w st (w.withStore (w.store.addTo (.active org) n)) st' := by
  refine ⟨hw.withStore _, rfl, ?_, ?_, ?_, .inl hheldUnits⟩
  · rw [World.withStore_store, Store.count_addTo, if_pos rfl]
    omega
  · rw [World.withStore_store, Store.count_addTo, if_neg hne.symm]
    omega
  · rw [World.withStore_store, Store.count_addTo, if_pos rfl]
    exact hheldSlots

/-- A step of the admission of a caller that returns nothing yet. -/
theorem step_reserving {p p' : Service Decision} {w' : World} (h : p.step w = (w', p')) :
    (⟨p, none, none⟩ : Caller).step org w .reserve = (w', ⟨p', none, none⟩) := by
  simp only [Caller.step, h]

/-- A unit of the month is taken.  It may be held only if it is within the limit. -/
theorem goes_counting (hw : w.Steady) (hne : Counter.active org ≠ month)
    (hlimit : 0 < s.monthlyLimit) :
    ∃ w' st', (counting.caller s org month).step org w .reserve = (w', st'.caller s org month) ∧
      Goes s org month w .counting w' st' := by
  have hcount : (countMonth s org month).step w = (w.withStore (w.store.addTo month 1),
      if w.store.count month + 1 = 1 then (do
        let _ ← command (.setLifetime month monthlyLifetime)
        takeSlot s org month (w.store.count month + 1))
      else takeSlot s org month (w.store.count month + 1)) :=
    step_command_bind (World.perform_increment hw month) _
  have hheld : (if exceeds s.monthlyLimit (w.store.count month + 1) then 0 else 1) ≤ (0 : Int) ∨
      w.store.count month + 1 ≤ s.monthlyLimit := by
    by_cases hover : exceeds s.monthlyLimit (w.store.count month + 1) = true
    · exact .inl (by rw [if_pos hover])
    · exact .inr (le_of_not_exceeds hover hlimit)
  by_cases hfirst : w.store.count month + 1 = 1
  · rw [if_pos hfirst, hfirst] at hcount
    refine ⟨_, .marking, step_reserving hcount, .count_month hw hne rfl rfl rfl ?_⟩
    rwa [hfirst] at hheld ⊢
  · rw [if_neg hfirst] at hcount
    exact ⟨_, .counted _, step_reserving hcount, .count_month hw hne rfl rfl rfl hheld⟩

/-- A unit of the month too many is taken back; else a slot is taken, which is held if it is within the
limit. -/
theorem goes_counted (hw : w.Steady) (hne : Counter.active org ≠ month)
    (hlimit : 0 < s.concurrentLimit) (used : Int) :
    ∃ w' st', ((counted used).caller s org month).step org w .reserve =
        (w', st'.caller s org month) ∧ Goes s org month w (.counted used) w' st' := by
  by_cases hover : exceeds s.monthlyLimit used = true
  · have hdeny : (takeSlot s org month used).step w = (w.withStore (w.store.addTo month (-1)),
        return .denied ("Monthly conversion limit reached (" ++ toString s.monthlyLimit ++ ")")
          ⟨none, some (used - 1)⟩) := by
      unfold takeSlot
      rw [if_pos hover]
      exact step_command_bind (World.perform_decrement hw month) _
    have hheld : (counted used).heldUnits s = 0 := if_pos hover
    exact ⟨_, .denied _ _, step_reserving hdeny,
      .count_month hw hne rfl (Int.add_right_neg 1).symm rfl (.inl hheld.ge)⟩
  · have htake : (takeSlot s org month used).step w = (w.withStore (w.store.addTo (.active org) 1),
        if exceeds s.concurrentLimit (w.store.count (.active org) + 1) then (do
          let _ : Int ← command (.decrement (.active org))
          denyAfter s month (w.store.count (.active org) + 1))
        else return .allowed ⟨some (w.store.count (.active org) + 1), some used⟩) := by
      unfold takeSlot
      rw [if_neg hover]
      exact step_command_bind (World.perform_increment hw (.active org)) _
    have hheld : (counted used).heldUnits s = 1 := if_neg hover
    by_cases hactive : exceeds s.concurrentLimit (w.store.count (.active org) + 1) = true
    · rw [if_pos hactive] at htake
      exact ⟨_, .overSlots _, step_reserving htake,
        .count_active hw hne rfl rfl (.inl (Int.le_refl _)) (hheld ▸ Int.one_nonneg)⟩
    · rw [if_neg hactive] at htake
      exact ⟨_, .admitted _ .idle .idle, step_reserving htake,
        .count_active hw hne rfl rfl (.inr (le_of_not_exceeds hactive hlimit)) hheld.ge⟩

/-- A step of the admission. -/
theorem goes_reserve (hw : w.Steady) (hmonth : monthly org w.time = month)
    (hlimit : 0 < s.concurrentLimit) (hlimit' : 0 < s.monthlyLimit) (st : Stage) :
    ∃ w' st', (st.caller s org month).step org w .reserve = (w', st'.caller s org month) ∧
      Goes s org month w st w' st' := by
  have hne := active_ne_of_monthly hmonth
  cases st with
  | before =>
    refine ⟨w, .counting, step_reserving ?_, .stay hw rfl rfl rfl rfl⟩
    show (w, countMonth s org (monthly org w.time)) = _
    rw [hmonth]
    rfl
  | counting => exact goes_counting hw hne hlimit'
  | marking =>
    have hmark := step_command_bind (World.perform_setLifetime hw month monthlyLifetime)
      fun _ => takeSlot s org month 1
    refine ⟨_, .counted 1, step_reserving hmark, hw.withStore _, rfl, ?_, ?_, .inl (Int.le_refl _),
      .inl (Int.le_refl _)⟩
    · rw [World.withStore_store, Store.count_setLifetime]
      exact (Int.add_sub_cancel _ _).symm
    · rw [World.withStore_store, Store.count_setLifetime]
      exact (Int.add_sub_cancel _ _).symm
  | counted used => exact goes_counted hw hne hlimit used
  | overSlots active =>
    have hdeny := step_command_bind (World.perform_decrement hw (.active org))
      fun _ => denyAfter s month active
    exact ⟨_, .returning active, step_reserving hdeny,
      .count_active hw hne (Int.add_right_neg 1).symm rfl (.inl (Int.le_refl _)) (Int.le_refl _)⟩
  | returning active =>
    have hdeny := step_command_bind (World.perform_decrement hw month)
      fun _ => (return .denied ("Concurrent conversion limit reached (" ++
        toString s.concurrentLimit ++ ")") ⟨some (active - 1), none⟩ : Service Decision)
    exact ⟨_, .denied _ _, step_reserving hdeny,
      .count_month hw hne rfl (Int.add_right_neg 1).symm rfl (.inl (Int.le_refl _))⟩
  | denied reason counts =>
    exact ⟨w, .denied reason counts, rfl, .stay hw rfl rfl rfl rfl⟩
  | admitted counts rel ref =>
    exact ⟨w, .admitted counts rel ref, rfl, .stay hw rfl rfl rfl rfl⟩

theorem step_giveBack (hw : w.Steady) {c : Counter} (hc : 1 ≤ w.store.count c) :
    (giveBack c).step w = (w.withStore (w.store.addTo c (-1)), return w.store.count c - 1) := by
  refine (step_command_bind (World.perform_decrement hw c) _).trans ?_
  rw [if_neg (by omega)]
  rfl

theorem step_release (hw : w.Steady) (hc : 1 ≤ w.store.count (.active org)) :
    (release org).step w = (w.withStore (w.store.addTo (.active org) (-1)), return ()) :=
  step_bind (step_giveBack hw hc) rfl _

/-- A step of the return of the slot.  The caller has taken it, so the count is not zero. -/
theorem goes_release (hw : w.Steady) (hne : Counter.active org ≠ month)
    (hslots : st.slots ≤ w.store.count (.active org)) :
    ∃ w' st', (st.caller s org month).step org w .release = (w', st'.caller s org month) ∧
      Goes s org month w st w' st' := by
  obtain ⟨counts, rel, ref, rfl⟩ | ⟨hadmitted, hreleasing, -, -⟩ := caller_cases s org month st
  · have hgive (hrel : rel.units = 1) (hcalled : rel.releasing org = some (release org)) :
        ∃ w' st', ((admitted counts rel ref).caller s org month).step org w .release =
            (w', st'.caller s org month) ∧
          Goes s org month w (.admitted counts rel ref) w' st' := by
      have hone : 1 ≤ w.store.count (.active org) := hrel ▸ hslots
      have hless : (admitted counts (.given 0) ref).slots = (admitted counts rel ref).slots + -1 := by
        rw [slots, slots, hrel]
        rfl
      refine ⟨_, .admitted counts (.given 0) ref, ?_,
        .count_active hw hne hless rfl (.inl ?_) (Int.le_refl _)⟩
      · simp only [caller, Caller.step, hcalled, step_release hw hone]
        rfl
      · rw [heldSlots, heldSlots, hrel]
        decide
    cases rel with
    | idle => exact ⟨w, .admitted counts .asked ref, rfl, .stay hw rfl rfl rfl rfl⟩
    | asked => exact hgive rfl rfl
    | ready => exact hgive rfl rfl
    | given n => exact ⟨w, .admitted counts (.given n) ref, rfl, .stay hw rfl rfl rfl rfl⟩
  · refine ⟨w, st, ?_, .stay hw rfl rfl rfl rfl⟩
    simp only [Caller.step, hreleasing, hadmitted]
    rfl

/-- A step of the return of the unit of the month, which is taken back in the month in which it was
counted. -/
theorem goes_refund (hw : w.Steady) (hmonth : monthly org w.time = month)
    (hunits : st.units ≤ w.store.count month) :
    ∃ w' st', (st.caller s org month).step org w .refund = (w', st'.caller s org month) ∧
      Goes s org month w st w' st' := by
  have hne := active_ne_of_monthly hmonth
  obtain ⟨counts, rel, ref, rfl⟩ | ⟨hadmitted, -, hrefunding, -⟩ := caller_cases s org month st
  · cases ref with
    | idle => exact ⟨w, .admitted counts rel .asked, rfl, .stay hw rfl rfl rfl rfl⟩
    | asked =>
      refine ⟨w, .admitted counts rel .ready, ?_, .stay hw rfl rfl rfl rfl⟩
      show (w, Caller.mk _ _ (some (giveBack (monthly org w.time)))) = _
      rw [hmonth]
      rfl
    | ready =>
      have hone : 1 ≤ w.store.count month := hunits
      refine ⟨_, .admitted counts rel (.given (w.store.count month - 1)), ?_,
        .count_month hw hne rfl (Int.add_right_neg 1).symm rfl (.inl Int.one_nonneg)⟩
      simp only [caller, Caller.step, Giving.refunding, step_giveBack hw hone]
      rfl
    | given n => exact ⟨w, .admitted counts rel (.given n), rfl, .stay hw rfl rfl rfl rfl⟩
  · refine ⟨w, st, ?_, .stay hw rfl rfl rfl rfl⟩
    simp only [Caller.step, hrefunding, hadmitted]
    rfl

/-- **A step of a caller**, whichever of its calls it goes on with. -/
theorem goes (hw : w.Steady) (hmonth : monthly org w.time = month)
    (hlimit : 0 < s.concurrentLimit) (hlimit' : 0 < s.monthlyLimit)
    (hslots : st.slots ≤ w.store.count (.active org)) (hunits : st.units ≤ w.store.count month)
    (act : Act) :
    ∃ w' st', (st.caller s org month).step org w act = (w', st'.caller s org month) ∧
      Goes s org month w st w' st' := by
  cases act with
  | reserve => exact goes_reserve hw hmonth hlimit hlimit' st
  | release => exact goes_release hw (active_ne_of_monthly hmonth) hslots
  | refund => exact goes_refund hw hmonth hunits

theorem heldSlots_le (st : Stage) : st.heldSlots ≤ st.slots := by
  cases st <;> first | exact Int.le_refl _ | exact Int.one_nonneg

theorem heldUnits_le (s : Settings) (st : Stage) : st.heldUnits s ≤ st.units := by
  have hite (b : Bool) : (if b = true then 0 else 1) ≤ (1 : Int) := by cases b <;> decide
  cases st <;> first | exact Int.le_refl _ | exact Int.one_nonneg | exact hite _

theorem slots_nonneg (st : Stage) : 0 ≤ st.slots := by
  cases st with
  | overSlots active => exact Int.one_nonneg
  | admitted counts rel ref => cases rel <;> first | exact Int.one_nonneg | exact Int.le_refl _
  | _ => exact Int.le_refl _

theorem units_nonneg (st : Stage) : 0 ≤ st.units := by
  cases st with
  | admitted counts rel ref => cases ref <;> first | exact Int.one_nonneg | exact Int.le_refl _
  | _ => first | exact Int.one_nonneg | exact Int.le_refl _

/-- Where one stands who asks for admission: a file that is too large is denied at once. -/
def arrival (s : Settings) (size : Int) : Stage :=
  match sizeRefusal? s size with
  | some reason => .denied reason ⟨none, none⟩
  | none => .before

theorem caller_arrival (s : Settings) (org : String) (month : Counter) (size : Int) :
    (arrival s size).caller s org month = { reserving := reserve s org size } := by
  unfold arrival
  cases h : sizeRefusal? s size with
  | some reason =>
    rw [reserve, h]
    rfl
  | none =>
    rw [reserve_of_size s org h]
    rfl

theorem arrival_zero (s : Settings) (size : Int) :
    (arrival s size).slots = 0 ∧ (arrival s size).units = 0 ∧ (arrival s size).heldSlots = 0 ∧
      (arrival s size).heldUnits s = 0 := by
  unfold arrival
  split <;> exact ⟨rfl, rfl, rfl, rfl⟩

/-! ### What callers show -/

theorem heldSlots_eq (s : Settings) (org : String) (month : Counter) (st : Stage) :
    st.heldSlots = if (st.caller s org month).hasSlot = true then 1 else 0 := by
  obtain ⟨counts, rel, ref, rfl⟩ | ⟨hadmitted, -, -, hzero⟩ := caller_cases s org month st
  · cases rel <;> rfl
  · rw [hzero, Caller.hasSlot, hadmitted]
    rfl

theorem units_admitted (s : Settings) (org : String) (month : Counter) (counts : Counts)
    (rel ref : Giving) :
    ref.units =
      if ((admitted counts rel ref).caller s org month).hasUnit = true then 1 else 0 := by
  cases ref <;> rfl

theorem hasUnit_le (s : Settings) (org : String) (month : Counter) (st : Stage) :
    (if (st.caller s org month).hasUnit = true then 1 else 0) ≤ st.heldUnits s := by
  obtain ⟨counts, rel, ref, rfl⟩ | ⟨hadmitted, -, -, -⟩ := caller_cases s org month st
  · exact (units_admitted s org month counts rel ref).ge
  · have hite (b : Bool) : (0 : Int) ≤ if b = true then 0 else 1 := by cases b <;> decide
    rw [Caller.hasUnit, hadmitted]
    cases st with
    | admitted counts rel ref => cases hadmitted
    | marking => exact hite _
    | counted used => exact hite _
    | _ => exact Int.le_refl _

/-- A caller with no call under way has taken what it holds. -/
theorem taken_of_isOver (hover : (st.caller s org month).isOver = true) :
    st.slots = st.heldSlots ∧
      st.units = if (st.caller s org month).hasUnit = true then 1 else 0 := by
  cases st with
  | admitted counts rel ref => exact ⟨rfl, units_admitted s org month counts rel ref⟩
  | denied reason counts => exact ⟨rfl, rfl⟩
  | counted used =>
    have hunder : (takeSlot s org month used).isOver = false := by
      unfold takeSlot
      split <;> rfl
    have hcaller : ((counted used).caller s org month).isOver =
      ((takeSlot s org month used).isOver && true && true) := rfl
    rw [hcaller, hunder] at hover
    cases hover
  | _ => cases hover

/-- No caller is about to set a count to zero. -/
theorem not_mem_commands (s : Settings) (org : String) (month : Counter) (st : Stage) (k : Counter) :
    .resetCounter k ∉ (st.caller s org month).commands := by
  cases st with
  | admitted counts rel ref => cases rel <;> cases ref <;> exact fun h => nomatch h
  | counted used =>
    show .resetCounter k ∉ Caller.commands ⟨takeSlot s org month used, none, none⟩
    unfold takeSlot
    split <;> exact fun h => nomatch h
  | _ => exact fun h => nomatch h

end Stage

namespace Admissions

/-- The counts are what callers have taken, and what is held is within the limits. -/
structure Accounted (s : Settings) (org : String) (month : Counter) (a : Admissions)
    (stages : List Stage) : Prop where
  steady : a.world.Steady
  sameMonth : monthly org a.world.time = month
  callers : a.callers = stages.map (Stage.caller s org month)
  slots : a.world.store.count (.active org) = (stages.map Stage.slots).sum
  units : a.world.store.count month = (stages.map Stage.units).sum
  heldSlots : (stages.map Stage.heldSlots).sum ≤ s.concurrentLimit
  heldUnits : (stages.map (Stage.heldUnits s)).sum ≤ s.monthlyLimit

theorem sum_map_set {α : Type} {l : List α} {i : Nat} {x : α} (h : l[i]? = some x) (f : α → Int)
    (y : α) : ((l.set i y).map f).sum = (l.map f).sum + f y - f x := by
  obtain ⟨hi, hx⟩ := List.getElem?_eq_some_iff.mp h
  rw [List.map_set, List.sum_set', dif_pos (by rwa [List.length_map]), List.getElem_map, hx]
  omega

theorem le_sum_map {α : Type} {l : List α} {i : Nat} {x : α} (h : l[i]? = some x) {f : α → Int}
    (hf : ∀ x, 0 ≤ f x) : f x ≤ (l.map f).sum :=
  List.single_le_sum (List.forall_mem_map.mpr fun x _ => hf x) _
    (List.mem_map_of_mem (List.mem_of_getElem? h))

variable {s : Settings} {org : String} {month : Counter} {a : Admissions} {stages : List Stage}

theorem Accounted.arrive (h : a.Accounted s org month stages) (size : Int) :
    (a.step s org (.arrive size)).Accounted s org month (stages ++ [Stage.arrival s size]) := by
  obtain ⟨hslots, hunits, hheldSlots, hheldUnits⟩ := Stage.arrival_zero s size
  have hsum (f : Stage → Int) (hf : f (Stage.arrival s size) = 0) :
      ((stages ++ [Stage.arrival s size]).map f).sum = (stages.map f).sum := by
    rw [List.map_append, List.sum_append, List.map_singleton, List.sum_singleton, hf, Int.add_zero]
  refine ⟨h.steady, h.sameMonth, ?_, ?_, ?_, ?_, ?_⟩
  · rw [List.map_append, ← h.callers, List.map_singleton, Stage.caller_arrival]
    rfl
  · rw [hsum _ hslots]
    exact h.slots
  · rw [hsum _ hunits]
    exact h.units
  · rw [hsum _ hheldSlots]
    exact h.heldSlots
  · rw [hsum _ hheldUnits]
    exact h.heldUnits

/-- A step of one caller keeps the account of all. -/
theorem Accounted.act (h : a.Accounted s org month stages) (hlimit : 0 < s.concurrentLimit)
    (hlimit' : 0 < s.monthlyLimit) (i : Nat) (act : Act) :
    ∃ stages', (a.step s org (.act i act)).Accounted s org month stages' := by
  cases hst : stages[i]? with
  | none =>
    have hnone : a.callers[i]? = none := by rw [h.callers, List.getElem?_map, hst, Option.map_none]
    refine ⟨stages, ?_⟩
    simp only [step, hnone]
    exact h
  | some st =>
    have hsome : a.callers[i]? = some (st.caller s org month) := by
      rw [h.callers, List.getElem?_map, hst, Option.map_some]
    have hslots : st.slots ≤ a.world.store.count (.active org) :=
      h.slots ▸ le_sum_map hst Stage.slots_nonneg
    have hunits : st.units ≤ a.world.store.count month := h.units ▸ le_sum_map hst Stage.units_nonneg
    obtain ⟨w', st', hstep, hgoes⟩ :=
      Stage.goes h.steady h.sameMonth hlimit hlimit' hslots hunits act
    refine ⟨stages.set i st', ?_⟩
    simp only [step, hsome, hstep]
    have hactive : w'.store.count (.active org) = ((stages.set i st').map Stage.slots).sum := by
      rw [sum_map_set hst, hgoes.slots, h.slots]
    have hmonthly : w'.store.count month = ((stages.set i st').map Stage.units).sum := by
      rw [sum_map_set hst, hgoes.units, h.units]
    refine ⟨hgoes.steady, (congrArg _ hgoes.time).trans h.sameMonth, ?_, hactive, hmonthly, ?_, ?_⟩
    · rw [List.map_set, h.callers]
    · obtain hle | hle := hgoes.heldSlots
      · have := h.heldSlots
        rw [sum_map_set hst]
        omega
      · exact (List.sum_le_sum fun st _ => st.heldSlots_le).trans (hactive ▸ hle)
    · obtain hle | hle := hgoes.heldUnits
      · have := h.heldUnits
        rw [sum_map_set hst]
        omega
      · exact (List.sum_le_sum fun st _ => st.heldUnits_le s).trans (hmonthly ▸ hle)

theorem Accounted.step (h : a.Accounted s org month stages) (hlimit : 0 < s.concurrentLimit)
    (hlimit' : 0 < s.monthlyLimit) (turn : Turn) :
    ∃ stages', (a.step s org turn).Accounted s org month stages' := by
  cases turn with
  | arrive size => exact ⟨_, h.arrive size⟩
  | act i act => exact h.act hlimit hlimit' i act
  | tick clock =>
    refine ⟨stages, ?_⟩
    by_cases hclock : monthly org (.ofInstant clock) = monthly org a.world.time
    · simp only [Admissions.step, if_pos hclock]
      exact ⟨⟨h.steady.races, h.steady.faults, h.steady.connected⟩, hclock.trans h.sameMonth,
        h.callers, h.slots, h.units, h.heldSlots, h.heldUnits⟩
    · simp only [Admissions.step, if_neg hclock]
      exact h

theorem Accounted.run (h : a.Accounted s org month stages) (hlimit : 0 < s.concurrentLimit)
    (hlimit' : 0 < s.monthlyLimit) (turns : List Turn) :
    ∃ stages', (a.run s org turns).Accounted s org month stages' := by
  induction turns generalizing a stages with
  | nil => exact ⟨stages, h⟩
  | cons turn turns ih =>
    obtain ⟨stages', h'⟩ := h.step hlimit hlimit' turn
    exact ih h'

theorem countP_eq_sum {α β : Type} (p : β → Bool) (g : α → β) (l : List α) :
    ((l.map g).countP p : Int) = (l.map fun x => if p (g x) = true then (1 : Int) else 0).sum := by
  induction l with
  | nil => rfl
  | cons x l ih =>
    rw [List.map_cons, List.countP_cons, List.map_cons, List.sum_cons, ← ih]
    split <;> omega

/-- **Callers at the same time are never given too much.**  Whatever the order in which the commands of
their calls come, no more slots are held than may be, and no more units of the month; no count is
about to be set to zero; and when no call is under way the counts are what is held. -/
theorem never_oversold (s : Settings) (org : String) {w : World} (hw : w.Steady)
    (hactive : w.store.count (.active org) = 0) (hmonthly : w.store.count (monthly org w.time) = 0)
    (hlimit : 0 < s.concurrentLimit) (hlimit' : 0 < s.monthlyLimit) (turns : List Turn) :
    let a := (Admissions.mk w []).run s org turns
    (a.callers.countP Caller.hasSlot : Int) ≤ s.concurrentLimit ∧
    (a.callers.countP Caller.hasUnit : Int) ≤ s.monthlyLimit ∧
    (∀ c ∈ a.callers, ∀ k, .resetCounter k ∉ c.commands) ∧
    ((∀ c ∈ a.callers, c.isOver = true) →
      a.world.store.count (.active org) = a.callers.countP Caller.hasSlot ∧
        a.world.store.count (monthly org a.world.time) = a.callers.countP Caller.hasUnit) := by
  intro a
  have hstart : (Admissions.mk w []).Accounted s org (monthly org w.time) [] :=
    ⟨hw, rfl, rfl, hactive, hmonthly, hlimit.le, hlimit'.le⟩
  obtain ⟨stages, h⟩ := hstart.run hlimit hlimit' turns
  have hslots : (a.callers.countP Caller.hasSlot : Int) = (stages.map Stage.heldSlots).sum := by
    rw [h.callers, countP_eq_sum]
    exact congrArg List.sum (List.map_congr_left fun st _ => (st.heldSlots_eq s org _).symm)
  refine ⟨hslots ▸ h.heldSlots, ?_, fun c hc k => ?_, fun hover => ?_⟩
  · rw [h.callers, countP_eq_sum]
    exact (List.sum_le_sum fun st _ => st.hasUnit_le s org _).trans h.heldUnits
  · rw [h.callers] at hc
    obtain ⟨st, -, rfl⟩ := List.mem_map.mp hc
    exact st.not_mem_commands s org _ k
  · have htaken (st : Stage) (hst : st ∈ stages) :=
      Stage.taken_of_isOver (hover _ (h.callers ▸ List.mem_map_of_mem hst))
    rw [h.sameMonth, hslots, h.slots, h.units, h.callers, countP_eq_sum]
    exact ⟨congrArg List.sum (List.map_congr_left fun st hst => (htaken st hst).1),
      congrArg List.sum (List.map_congr_left fun st hst => (htaken st hst).2)⟩

/-- Two ask for one slot: both take a unit of the month before either takes the slot.  The second gets
it and returns it, while the first still takes back what it took. -/
def twoCallers : List Turn :=
  [.arrive 10, .arrive 20, .act 0 .reserve, .act 1 .reserve, .act 0 .reserve, .act 1 .reserve,
    .act 1 .reserve, .act 0 .reserve, .act 0 .reserve, .act 1 .release, .act 0 .reserve,
    .act 1 .release, .act 0 .reserve]

theorem never_oversold_two_callers :
    let a := (Admissions.mk { clock := 0 } []).run { concurrentLimit := 1 } "acme" twoCallers
    (∀ c ∈ a.callers, c.isOver = true) ∧ a.callers.countP Caller.hasUnit = 1 ∧
      a.world.store.count (.active "acme") = a.callers.countP Caller.hasSlot ∧
      a.world.store.count (monthly "acme" a.world.time) = a.callers.countP Caller.hasUnit := by
  intro a
  have hover : ∀ c ∈ a.callers, c.isOver = true := by decide +kernel
  have hw : ({ clock := 0 } : World).Steady := ⟨rfl, fun _ hf => (nomatch hf), rfl⟩
  obtain ⟨-, -, -, hcounts⟩ :=
    never_oversold { concurrentLimit := 1 } "acme" hw rfl rfl (by decide) (by decide) twoCallers
  exact ⟨hover, by decide +kernel, hcounts hover⟩

end Admissions

end Quota

end Sheetflow
