import Sheetflow.Proofs.Number.Quotient
import Sheetflow.Proofs.Service.Expiry
import Sheetflow.Proofs.Service.Months
import Sheetflow.Proofs.Service.Owners

/-!
# Counters within their limits

Admission, releases and refunds are used in any order, for any organizations, while the clock moves on
and the store drops what has expired (`Expiring.uses`).  Then every counter stays between zero and its
limit, and what is counted for a month is kept until the month is over
(`Expiring.counters_within_limits`).  An invariant carries this, `Expiring.Within`: admission adds to a
counter only where it is below its limit, and gives a new lifetime to a count of a month that starts
again at one; whatever takes from a counter leaves the expiry of those that stay above zero.

Counters are told apart by organization and month here; so are their keys in the store
(`Counter.eq_of_key`).
-/

namespace Sheetflow

open Service

/-- All limits are there. -/
structure Settings.HasLimits (s : Settings) : Prop where
  size : (Double.zero false).lt s.maxFileSize.toDouble = true
  concurrent : 0 < s.concurrentLimit
  monthly : 0 < s.monthlyLimit

/-- How far a counter may go. -/
def Counter.limit (s : Settings) : Counter → Int
  | .active _ => s.concurrentLimit
  | .monthly _ _ => s.monthlyLimit

theorem Settings.HasLimits.limit_pos {s : Settings} (hs : s.HasLimits) (c : Counter) :
    0 < c.limit s := by
  cases c with
  | active org => exact hs.concurrent
  | monthly org month => exact hs.monthly

namespace Quota
variable {s : Settings} {w : World}

/-! ### Files that are too large -/

/-- Is a file larger than the limit, in megabytes? -/
def TooLarge (s : Settings) (size : Int) : Prop := s.maxFileSize.toDouble.lt (megabytes size) = true

theorem sizeRefusal?_eq_none_iff (hs : s.HasLimits) (size : Int) :
    sizeRefusal? s size = none ↔ ¬ TooLarge s size := by
  have hlimit : s.maxFileSize.isLimit = true := by
    rw [Megabytes.isLimit, Double.isZero_of_pos hs.size]
    rfl
  simp only [sizeRefusal?, hlimit, Bool.true_and, TooLarge]
  split <;> simp_all

/-- **Megabytes are compared exactly** for files below eight pebibytes, and for all files where the
limit is below that. -/
theorem tooLarge_iff (hfinite : s.maxFileSize.toDouble.isFinite = true) {n : Nat}
    (h : n < 2 ^ 53 ∨ s.maxFileSize.toDouble.value < 2 ^ 33) :
    TooLarge s n ↔ s.maxFileSize.toDouble.value * 2 ^ 20 < n := by
  have hmegabytes : megabytes n = .ofSignedRatio n (2 ^ 20) := rfl
  have hpos : (0 : ℚ) < 2 ^ 20 := pow_pos two_pos 20
  have hsplit : (2 : ℚ) ^ 33 * 2 ^ 20 = 2 ^ 53 := (pow_add _ _ _).symm
  rw [TooLarge, hmegabytes]
  by_cases hn : n < 2 ^ 53
  · obtain ⟨hratio, hvalue⟩ := Double.value_ofSignedRatio (a := n) (k := 20) hn (by decide) (by decide)
    rw [Double.lt_iff_value_lt hfinite hratio, hvalue, lt_div_iff₀ hpos, Int.cast_natCast]
  · have hlimit := h.resolve_left hn
    refine iff_of_true (Double.lt_ofSignedRatio hfinite (Nat.not_lt.mp hn) (by decide) ?_) ?_
    · rwa [← hsplit, mul_div_cancel_right₀ _ hpos.ne']
    · calc s.maxFileSize.toDouble.value * 2 ^ 20 < 2 ^ 33 * 2 ^ 20 :=
          mul_lt_mul_of_pos_right hlimit hpos
        _ = 2 ^ 53 := hsplit
        _ ≤ n := by exact_mod_cast Nat.not_lt.mp hn

/-! ### What admission decides -/

def Decision.isDenied : Decision → Bool
  | .allowed _ => false
  | .denied _ _ => true

theorem active_ne_monthly (org org' : String) (t : DateTime) :
    Counter.active org ≠ monthly org' t := by
  rw [monthly]
  exact Counter.noConfusion

theorem exceeds_iff {limit : Int} (hl : 0 < limit) (n : Int) : exceeds limit n = true ↔ limit < n := by
  rw [exceeds, Bool.and_eq_true, bne_iff_ne, decide_eq_true_eq]
  omega

/-- The rest of admission denies where a limit is passed. -/
theorem exec_takeSlot_isDenied (hw : w.Steady) (s : Settings) (org : String) (month : Counter)
    (used : Int) :
    ∃ w' d, exec (takeSlot s org month used) w = (w', .ok d) ∧
      (d.isDenied = true ↔ exceeds s.monthlyLimit used = true ∨
        exceeds s.concurrentLimit (w.store.count (.active org) + 1) = true) := by
  unfold takeSlot
  by_cases hmonth : exceeds s.monthlyLimit used = true
  · rw [if_pos hmonth, exec_bind_of_ok (exec_decrement hw _), exec_pure]
    exact ⟨_, _, rfl, iff_of_true rfl (.inl hmonth)⟩
  · rw [if_neg hmonth, exec_bind_of_ok (exec_increment hw _)]
    have hw' := hw.withStore (w.store.addTo (.active org) 1)
    by_cases hactive : exceeds s.concurrentLimit (w.store.count (.active org) + 1) = true
    · rw [if_pos hactive, exec_bind_of_ok (exec_decrement hw' _),
        exec_bind_of_ok (exec_decrement (hw'.withStore _) _), exec_pure]
      exact ⟨_, _, rfl, iff_of_true rfl (.inr hactive)⟩
    · rw [if_neg hactive, exec_pure]
      exact ⟨_, _, rfl, iff_of_false Bool.false_ne_true (not_or.mpr ⟨hmonth, hactive⟩)⟩

/-- **Admission denies** what is too large, and where a count has reached its limit. -/
theorem exec_reserve_isDenied (hw : w.Steady) (hs : s.HasLimits) (org : String) (size : Int) :
    ∃ w' d, exec (reserve s org size) w = (w', .ok d) ∧
      (d.isDenied = true ↔ TooLarge s size ∨ s.monthlyLimit ≤ w.store.count (monthly org w.time) ∨
        s.concurrentLimit ≤ w.store.count (.active org)) := by
  by_cases hlarge : TooLarge s size
  · obtain ⟨reason, hreason⟩ :=
      Option.ne_none_iff_exists'.mp (mt (sizeRefusal?_eq_none_iff hs size).mp (not_not.mpr hlarge))
    rw [reserve, hreason]
    exact ⟨_, _, rfl, iff_of_true rfl (.inl hlarge)⟩
  · have hrest {w' : World} (hw' : w'.Steady)
        (hcount : w'.store.count (.active org) = w.store.count (.active org)) :
        ∃ w'' d, exec (takeSlot s org (monthly org w.time)
            (w.store.count (monthly org w.time) + 1)) w' = (w'', .ok d) ∧
          (d.isDenied = true ↔ TooLarge s size ∨
            s.monthlyLimit ≤ w.store.count (monthly org w.time) ∨
            s.concurrentLimit ≤ w.store.count (.active org)) := by
      obtain ⟨w'', d, hd, hiff⟩ := exec_takeSlot_isDenied hw' s org (monthly org w.time)
        (w.store.count (monthly org w.time) + 1)
      rw [exceeds_iff hs.monthly, exceeds_iff hs.concurrent, Int.lt_add_one_iff, Int.lt_add_one_iff,
        hcount] at hiff
      exact ⟨w'', d, hd, hiff.trans (or_iff_right hlarge).symm⟩
    have hw' := hw.withStore (w.store.addTo (monthly org w.time) 1)
    have hcount : (w.store.addTo (monthly org w.time) 1).count (.active org) =
        w.store.count (.active org) := by
      rw [Store.count_addTo, if_neg (active_ne_monthly org org w.time)]
    rw [reserve_of_size s org ((sizeRefusal?_eq_none_iff hs size).mpr hlarge),
      exec_bind_of_ok (exec_now w), exec_bind_of_ok (exec_increment hw _)]
    split
    · rw [exec_bind_of_ok (exec_setLifetime hw' _ _)]
      exact hrest (hw'.withStore _) ((Store.count_setLifetime _ _ _ _).trans hcount)
    · exact hrest hw' hcount

/-- **Admission takes a unit of both counts or nothing**, as it decides. -/
theorem exec_reserve_counts (hw : w.Steady) (hs : s.HasLimits) (org : String) (size : Int) :
    ∃ t d, exec (reserve s org size) w = (w.withStore t, .ok d) ∧
      (d.isDenied = true ↔ TooLarge s size ∨ s.monthlyLimit ≤ w.store.count (monthly org w.time) ∨
        s.concurrentLimit ≤ w.store.count (.active org)) ∧
      ∀ c, t.count c = w.store.count c +
        if d.isDenied = false ∧ (c = .active org ∨ c = monthly org w.time) then 1 else 0 := by
  obtain ⟨w', d, hd, hdenied⟩ := exec_reserve_isDenied hw hs org size
  have hadmits := exec_reserve hw s org size
  rw [hd] at hadmits
  cases hadmits with
  | denied t reason counts ht =>
    exact ⟨t, _, hd, hdenied, fun c => by simp [ht.counts, Decision.isDenied]⟩
  | allowed t counts ht within =>
    exact ⟨t, _, hd, hdenied, fun c => by simp [ht.counts, Decision.isDenied]⟩

/-! ### Uses -/

/-- What is done with counters, and what happens to them. -/
inductive Use where
  | reserve (organization : String) (size : Int)
  | release (organization : String)
  | refund (organization : String)
  /-- The clock moves on. -/
  | advance (micros : Nat)
  /-- The store drops a counter, if it has expired. -/
  | lapse (c : Counter)

/-- The organization that a use is made for. -/
def Use.organization? : Use → Option String
  | .reserve org _ => some org
  | .release org => some org
  | .refund org => some org
  | .advance _ => none
  | .lapse _ => none

end Quota

/-- The store without a counter. -/
def Store.dropped (s : Store) (c : Counter) : Store :=
  { s with counters := s.counters.erase c, lifetimes := s.lifetimes.erase c }

theorem Store.count_dropped (s : Store) (c d : Counter) :
    (s.dropped c).count d = if d = c then 0 else s.count d := by
  by_cases h : d = c
  · rw [if_pos h, h, count, dropped, Table.get?_erase_self, Option.getD_none]
  · rw [if_neg h, count, dropped, Table.get?_erase_ne _ h, count]

namespace Expiring
variable {s : Settings} {x y : Expiring}

/-- The empty world, where no counter was given a lifetime. -/
def empty (s : Settings) (start : Instant) : Expiring := ⟨World.empty s start, fun _ => start⟩

def hasExpired (x : Expiring) (c : Counter) : Bool := (x.expiry c).any fun e => e ≤ x.world.clock

def use (s : Settings) (x : Expiring) : Quota.Use → Expiring
  | .reserve org size => (exec (Quota.reserve s org size) x).1
  | .release org => (exec (Quota.release org) x).1
  | .refund org => (exec (Quota.refund org) x).1
  | .advance micros => { x with world := { x.world with clock := x.world.clock + micros } }
  | .lapse c => if x.hasExpired c then x.withStore (x.world.store.dropped c) else x

def uses (s : Settings) (x : Expiring) (us : List Quota.Use) : Expiring := us.foldl (use s) x

/-! ### What the uses do to counters and expiries -/

section Steady
variable (hx : x.world.Steady)
include hx

theorem exec_giveBack (c : Counter) :
    exec (Quota.giveBack c) x =
      (x.withStore (x.world.store.takeBack c), .ok (max (x.count c - 1) 0)) := by
  rw [Quota.giveBack, exec_bind_of_ok (exec_decrement hx c), Store.takeBack]
  show exec (if x.count c - 1 < 0 then _ else _) _ =
    (x.withStore (if x.count c - 1 < 0 then _ else _), _)
  by_cases h : x.count c - 1 < 0
  · rw [if_pos h, if_pos h, exec_bind_of_ok (exec_resetCounter (x := x.withStore _) (hx.withStore _) c),
      Int.max_eq_right (Int.le_of_lt h)]
    rfl
  · rw [if_neg h, if_neg h, Int.max_eq_left (Int.not_lt.mp h)]
    rfl

theorem exec_release (org : String) :
    exec (Quota.release org) x = (x.withStore (x.world.store.takeBack (.active org)), .ok ()) := by
  rw [Quota.release, exec_bind_of_ok (exec_giveBack hx _)]
  rfl

theorem exec_refund (org : String) :
    exec (Quota.refund org) x =
      (x.withStore (x.world.store.takeBack (Quota.monthly org x.world.time)),
        .ok (max (x.count (Quota.monthly org x.world.time) - 1) 0)) := by
  rw [Quota.refund, exec_bind_of_ok (exec_now x), exec_giveBack hx]

/-- **A count of a month that starts again at one** is given a new lifetime; admission leaves the other
expiries as they are. -/
theorem expiry_reserve (s : Settings) (org : String) (size : Int) :
    (exec (Quota.reserve s org size) x).1.expiry =
      if Quota.sizeRefusal? s size = none ∧ x.count (Quota.monthly org x.world.time) = 0 then
        Function.update x.expiry (Quota.monthly org x.world.time)
          (some (x.world.clock + Quota.monthlyLifetime * microsPerSecond))
      else x.expiry := by
  cases hsize : Quota.sizeRefusal? s size with
  | some reason =>
    rw [Quota.reserve, hsize, if_neg fun h => Option.some_ne_none reason h.1]
    rfl
  | none =>
    have htaken (y : Expiring) (used : Int) :
        (exec (Quota.takeSlot s org (Quota.monthly org x.world.time) used) y).1.expiry = y.expiry :=
      expiry_exec_of_gives (Quota.gives_takeSlot .increment .decrement s org _ used)
    have hadded : (x.withStore (x.world.store.addTo (Quota.monthly org x.world.time) 1)).expiry =
      x.expiry := expiry_congr rfl rfl
    rw [Quota.reserve_of_size s org hsize, exec_bind_of_ok (exec_now x),
      exec_bind_of_ok (exec_increment hx _)]
    by_cases hzero : x.count (Quota.monthly org x.world.time) = 0
    · have hone : x.count (Quota.monthly org x.world.time) + 1 = 1 := by omega
      have hthere : ((x.world.store.addTo (Quota.monthly org x.world.time) 1).counters.get?
          (Quota.monthly org x.world.time)).isSome = true := by
        rw [Store.addTo, Table.get?_set_self]
        rfl
      rw [if_pos hone, if_pos ⟨rfl, hzero⟩,
        exec_bind_of_ok (exec_setLifetime (x := x.withStore _) (hx.withStore _) _ _), htaken, ← hadded]
      exact expiry_withLifetime (x := x.withStore _) hthere _
    · have hone : ¬ x.count (Quota.monthly org x.world.time) + 1 = 1 := by omega
      rw [if_neg hone, htaken, if_neg fun h => hzero h.2]
      exact hadded

end Steady

/-- Taking one from a counter that is above zero leaves all expiries. -/
theorem expiry_takeBack (x : Expiring) (c : Counter) :
    (x.withStore (x.world.store.takeBack c)).expiry =
      if x.count c ≤ 0 then Function.update x.expiry c none else x.expiry := by
  rw [Store.takeBack, count]
  by_cases h : x.world.store.count c ≤ 0
  · -- it is set to zero, which takes its lifetime away
    have hadded : (x.withStore (x.world.store.addTo c (-1))).expiry = x.expiry := expiry_congr rfl rfl
    rw [if_pos h, if_pos (by omega), ← hadded]
    exact expiry_setCounter (x.withStore _) c 0
  · rw [if_neg h, if_neg (by omega)]
    exact expiry_congr rfl rfl

theorem expiry_dropped (x : Expiring) (c : Counter) :
    (x.withStore (x.world.store.dropped c)).expiry = Function.update x.expiry c none :=
  expiry_setCounter x c 0

/-! ### The invariant -/

/-- Counters are within their limits, and a count of a month expires after the month. -/
structure Within (s : Settings) (x : Expiring) : Prop where
  nonneg : ∀ c, 0 ≤ x.count c
  le : ∀ c, x.count c ≤ c.limit s
  outlasts : ∀ org month, 0 < x.count (.monthly org month) →
    ∃ e, x.expiry (.monthly org month) = some e ∧
      ∀ t, DateTime.first ≤ t → DateTime.month t = month → t < e

theorem within_empty (hs : s.HasLimits) (start : Instant) : (empty s start).Within s :=
  ⟨fun _ => Int.le_refl 0, fun c => Int.le_of_lt (hs.limit_pos c),
    fun _ _ h => absurd h (Int.lt_irrefl 0)⟩

/-- All is as it should be where one counter was lowered and keeps its expiry, or is zero. -/
theorem Within.lower (h : x.Within s) {c : Counter} {n : Int} (hn : 0 ≤ n) (hle : n ≤ x.count c)
    (hcount : ∀ d, y.count d = if d = c then n else x.count d)
    (hexpiry : ∀ d, d ≠ c ∨ 0 < n → y.expiry d = x.expiry d) : y.Within s := by
  have hnonneg (d : Counter) : 0 ≤ y.count d := by
    rw [hcount]
    split
    · exact hn
    · exact h.nonneg d
  have hlower (d : Counter) : y.count d ≤ x.count d := by
    rw [hcount]
    split
    · rename_i hd
      rwa [hd]
    · exact Int.le_refl _
  have hkept (d : Counter) (hd : 0 < y.count d) : y.expiry d = x.expiry d := by
    rw [hcount] at hd
    by_cases hdc : d = c
    · exact hexpiry d (.inr (by rwa [if_pos hdc] at hd))
    · exact hexpiry d (.inl hdc)
  refine ⟨hnonneg, fun d => Int.le_trans (hlower d) (h.le d), fun org month hpos => ?_⟩
  rw [hkept _ hpos]
  exact h.outlasts org month (Int.lt_of_lt_of_le hpos (hlower _))

theorem Within.takeBack (h : x.Within s) (c : Counter) :
    (x.withStore (x.world.store.takeBack c)).Within s := by
  have hc := h.nonneg c
  refine h.lower (Int.le_max_right (x.count c - 1) 0) (by omega) (Store.count_takeBack _ c)
    fun d hd => ?_
  rw [expiry_takeBack]
  split
  · exact Function.update_of_ne (hd.resolve_right (by omega)) _ _
  · rfl

theorem Within.dropped (h : x.Within s) (c : Counter) :
    (x.withStore (x.world.store.dropped c)).Within s := by
  refine h.lower (Int.le_refl 0) (h.nonneg c) (Store.count_dropped _ c) fun d hd => ?_
  rw [expiry_dropped]
  exact Function.update_of_ne (hd.resolve_right (Int.lt_irrefl 0)) _ _

/-- **Admission**, with what it answers and what it counts. -/
theorem exec_reserve (hx : x.world.Steady) (hs : s.HasLimits) (org : String) (size : Int) :
    ∃ y d, exec (Quota.reserve s org size) x = (y, .ok d) ∧ y.world.Steady ∧
      (d.isDenied = true ↔ Quota.TooLarge s size ∨
        s.monthlyLimit ≤ x.count (Quota.monthly org x.world.time) ∨
        s.concurrentLimit ≤ x.count (.active org)) ∧
      ∀ c, y.count c = x.count c +
        if d.isDenied = false ∧ (c = .active org ∨ c = Quota.monthly org x.world.time) then 1
        else 0 := by
  obtain ⟨t, d, hd, hdenied, hcounts⟩ := Quota.exec_reserve_counts hx hs org size
  obtain ⟨hworld, hanswer⟩ := exec_world (Quota.reserve s org size) x
  rw [hd] at hworld hanswer
  refine ⟨_, d, Prod.ext rfl hanswer, ?_, hdenied, fun c => ?_⟩
  · rw [hworld]
    exact hx.withStore t
  · rw [count, hworld]
    exact hcounts c

/-- A count of a month that starts at some time is kept until the month is over. -/
theorem lt_of_month_eq {i t : Instant} (hfirst : DateTime.first ≤ t)
    (h : DateTime.month t = DateTime.month i) :
    t < i + Quota.monthlyLifetime * microsPerSecond :=
  Int.not_le.mp fun hover => DateTime.month_ne_of_lifetime hfirst hover h.symm

theorem Within.reserve (h : x.Within s) (hx : x.world.Steady) (hs : s.HasLimits) (org : String)
    (size : Int) : (x.use s (.reserve org size)).Within s := by
  obtain ⟨y, d, hd, -, hdenied, hcounts⟩ := exec_reserve hx hs org size
  have hexpiry := expiry_reserve hx s org size
  rw [use]
  rw [hd] at hexpiry ⊢
  have hroom (hallowed : d.isDenied = false) :
      ¬ Quota.TooLarge s size ∧ x.count (Quota.monthly org x.world.time) < s.monthlyLimit ∧
        x.count (.active org) < s.concurrentLimit := by
    have := mt hdenied.mpr (by rw [hallowed]; exact Bool.false_ne_true)
    simpa only [not_or, Int.not_le] using this
  refine ⟨fun c => ?_, fun c => ?_, fun org' month hpos => ?_⟩
  · have := h.nonneg c
    rw [hcounts]
    split <;> omega
  · have hle := h.le c
    rw [hcounts]
    split
    · rename_i hc
      obtain ⟨hallowed, rfl | rfl⟩ := hc
      · exact (hroom hallowed).2.2
      · exact (hroom hallowed).2.1
    · rwa [Int.add_zero]
  · rw [hexpiry]
    rw [hcounts] at hpos
    by_cases hold : 0 < x.count (.monthly org' month)
    · obtain ⟨e, he, hafter⟩ := h.outlasts org' month hold
      refine ⟨e, ?_, hafter⟩
      split
      · rename_i hstarts
        refine (Function.update_of_ne (fun hc => ?_) _ _).trans he
        rw [hc, hstarts.2] at hold
        exact Int.lt_irrefl 0 hold
      · exact he
    · -- the count was zero and is not any more: it is the one of this month, and it starts at one
      have hzero : x.count (.monthly org' month) = 0 := by
        have := h.nonneg (.monthly org' month)
        omega
      split at hpos
      · rename_i hc
        obtain ⟨hallowed, hc⟩ := hc
        have hc := hc.resolve_left fun h => Counter.noConfusion h
        obtain ⟨rfl, rfl⟩ := (World.monthly_eq_iff x.world org' org month).mp hc
        rw [if_pos ⟨(Quota.sizeRefusal?_eq_none_iff hs size).mpr (hroom hallowed).1, hzero⟩]
        exact ⟨_, Function.update_self _ _ _, fun t hfirst ht => lt_of_month_eq hfirst ht⟩
      · omega

/-! ### Runs -/

/-- **Every use** leaves the counters as they should be. -/
theorem Within.use (h : x.Within s) (hx : x.world.Steady) (hs : s.HasLimits) (u : Quota.Use) :
    (x.use s u).world.Steady ∧ (x.use s u).Within s := by
  cases u with
  | reserve org size =>
    obtain ⟨y, d, hd, hy, -⟩ := exec_reserve hx hs org size
    refine ⟨?_, h.reserve hx hs org size⟩
    rw [Expiring.use, hd]
    exact hy
  | release org =>
    rw [Expiring.use, exec_release hx]
    exact ⟨hx.withStore _, h.takeBack _⟩
  | refund org =>
    rw [Expiring.use, exec_refund hx]
    exact ⟨hx.withStore _, h.takeBack _⟩
  | advance micros => exact ⟨⟨hx.races, hx.faults, hx.connected⟩, h.nonneg, h.le, h.outlasts⟩
  | lapse c =>
    rw [Expiring.use]
    split
    · exact ⟨hx.withStore _, h.dropped c⟩
    · exact ⟨hx, h⟩

theorem Within.uses (h : x.Within s) (hx : x.world.Steady) (hs : s.HasLimits) (us : List Quota.Use) :
    (x.uses s us).world.Steady ∧ (x.uses s us).Within s := by
  induction us generalizing x with
  | nil => exact ⟨hx, h⟩
  | cons u us ih =>
    obtain ⟨hx', h'⟩ := h.use hx hs u
    exact ih h' hx'

/-- A use for one organization leaves the counters of others, and when they expire. -/
theorem use_of_other (hx : x.world.Steady) (hs : s.HasLimits) {u : Quota.Use} {org : String}
    (hu : u.organization? = some org) {c : Counter} (hc : c.organization ≠ org) :
    (x.use s u).count c = x.count c ∧ (x.use s u).expiry c = x.expiry c := by
  have hactive : c ≠ .active org := fun h => hc (congrArg Counter.organization h)
  have hmonth : c ≠ Quota.monthly org x.world.time := fun h => hc (congrArg Counter.organization h)
  have htaken {d : Counter} (hd : c ≠ d) :
      (x.withStore (x.world.store.takeBack d)).count c = x.count c ∧
        (x.withStore (x.world.store.takeBack d)).expiry c = x.expiry c := by
    refine ⟨(Store.count_takeBack _ d c).trans (if_neg hd), ?_⟩
    rw [expiry_takeBack]
    split
    · exact Function.update_of_ne hd _ _
    · rfl
  cases u with
  | reserve org' size =>
    obtain rfl := Option.some.inj hu
    obtain ⟨y, d, hd, -, -, hcounts⟩ := exec_reserve hx hs org' size
    have hexpiry := expiry_reserve hx s org' size
    rw [use]
    rw [hd] at hexpiry ⊢
    refine ⟨?_, ?_⟩
    · rw [hcounts, if_neg fun h => h.2.elim hactive hmonth, Int.add_zero]
    · rw [hexpiry]
      split
      · exact Function.update_of_ne hmonth _ _
      · rfl
  | release org' =>
    obtain rfl := Option.some.inj hu
    rw [use, exec_release hx]
    exact htaken hactive
  | refund org' =>
    obtain rfl := Option.some.inj hu
    rw [use, exec_refund hx]
    exact htaken hmonth
  | advance micros => cases hu
  | lapse d => cases hu

/-- Of a count that is not negative one is taken, unless it is zero already. -/
theorem count_takeBack (h : x.Within s) (c d : Counter) :
    (x.withStore (x.world.store.takeBack c)).count d =
      if d = c ∧ 0 < x.count d then x.count d - 1 else x.count d := by
  have hd := h.nonneg d
  refine (Store.count_takeBack _ c d).trans ?_
  by_cases hdc : d = c
  · subst hdc
    rw [if_pos rfl]
    show max (x.count d - 1) 0 = _
    simp only [true_and]
    split <;> omega
  · rw [if_neg hdc, if_neg fun h => hdc h.1]
    rfl

/-- **Counters stay within their limits** under any uses, for any organizations and in any order, from
the empty store on.  Every counter is between zero and its limit, and what is counted for a month expires
after its month.  And this is what each call does then: admission denies exactly what is too large and
where a count of the organization has reached its limit, and it counts nothing if it denies and one unit
of both counts if not; a release or a refund takes one from its own counter, unless that is zero; and no
call for one organization changes the counters of another.  A file is too large if it has more bytes than
the limit; rounding decides nothing, unless both reach eight pebibytes. -/
theorem counters_within_limits {s : Settings} (hs : s.HasLimits) (start : Instant)
    (us : List Quota.Use) :
    let x := (empty s start).uses s us
    let month (org : String) : Counter := Quota.monthly org x.world.time
    x.Within s ∧
    (∀ org, Service.exec (Quota.usage s org) x.world =
      (x.world, .ok ⟨x.count (.active org), x.count (month org), s⟩)) ∧
    (∀ org size, ∃ y d, exec (Quota.reserve s org size) x = (y, .ok d) ∧
      (d.isDenied = true ↔ Quota.TooLarge s size ∨ s.monthlyLimit ≤ x.count (month org) ∨
        s.concurrentLimit ≤ x.count (.active org)) ∧
      ∀ c, y.count c =
        x.count c + if d.isDenied = false ∧ (c = .active org ∨ c = month org) then 1 else 0) ∧
    (∀ org, ∃ y, exec (Quota.release org) x = (y, .ok ()) ∧
      ∀ c, y.count c = if c = .active org ∧ 0 < x.count c then x.count c - 1 else x.count c) ∧
    (∀ org, ∃ y, exec (Quota.refund org) x = (y, .ok (y.count (month org))) ∧
      ∀ c, y.count c = if c = month org ∧ 0 < x.count c then x.count c - 1 else x.count c) ∧
    (∀ u org c, u.organization? = some org → c.organization ≠ org →
      (x.use s u).count c = x.count c ∧ (x.use s u).expiry c = x.expiry c) ∧
    (s.maxFileSize.toDouble.isFinite = true → ∀ n : Nat,
      n < 2 ^ 53 ∨ s.maxFileSize.toDouble.value < 2 ^ 33 →
      (Quota.TooLarge s n ↔ s.maxFileSize.toDouble.value * 2 ^ 20 < n)) := by
  intro x month
  have hempty : (empty s start).world.Steady := (World.sound_empty s start).steady
  obtain ⟨hx, h⟩ := (within_empty hs start).uses hempty hs us
  refine ⟨h, Quota.exec_usage hx s, fun org size => ?_, fun org => ?_, fun org => ?_,
    fun u org c hu hc => use_of_other hx hs hu hc, fun hfinite n hn => Quota.tooLarge_iff hfinite hn⟩
  · obtain ⟨y, d, hd, -, hdenied, hcounts⟩ := exec_reserve hx hs org size
    exact ⟨y, d, hd, hdenied, hcounts⟩
  · exact ⟨_, exec_release hx org, count_takeBack h _⟩
  · have hleft : (x.withStore (x.world.store.takeBack (month org))).count (month org) =
        max (x.count (month org) - 1) 0 := (Store.count_takeBack _ _ _).trans (if_pos rfl)
    refine ⟨_, ?_, count_takeBack h (month org)⟩
    rw [hleft]
    exact exec_refund hx org

/-- With one slot and two units in a month: the second reservation finds no slot, and what is given back
twice or was never taken makes no room. -/
theorem counters_within_limits_one_slot :
    let s : Settings := { concurrentLimit := 1, monthlyLimit := 2 }
    let us : List Quota.Use := [.reserve "o" 1048576, .reserve "o" 1048576, .refund "o", .refund "o",
      .release "p", .reserve "p" 0, .advance 86400000000]
    let x := (empty s World.march).uses s us
    s.HasLimits ∧ x.Within s ∧
      x.count (.active "o") = 1 ∧ x.count (.monthly "o" "2024-03") = 0 ∧
      (∃ y d, exec (Quota.reserve s "o" 0) x = (y, .ok d) ∧ d.isDenied = true) ∧
      x.count (.monthly "p" "2024-03") = 1 ∧
      ∃ e, x.expiry (.monthly "p" "2024-03") = some e ∧ x.world.clock < e := by
  intro s us x
  have hs : s.HasLimits := ⟨by decide +kernel, by decide, by decide⟩
  obtain ⟨h, -, hreserve, -⟩ := counters_within_limits hs World.march us
  obtain ⟨y, d, hd, hdenied, -⟩ := hreserve "o" 0
  have hslot : s.concurrentLimit ≤ x.count (.active "o") := by decide +kernel
  have hunit : x.count (.monthly "p" "2024-03") = 1 := by decide +kernel
  obtain ⟨e, he, hafter⟩ := h.outlasts "p" "2024-03" (hunit ▸ Int.one_pos)
  exact ⟨hs, h, by decide +kernel, by decide +kernel, ⟨y, d, hd, hdenied.mpr (.inr (.inr hslot))⟩, hunit,
    e, he, hafter _ (by decide +kernel) (by decide +kernel)⟩

end Expiring

end Sheetflow
