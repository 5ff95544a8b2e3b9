import Sheetflow.Proofs.Time.Month

/-!
# Keys of the store

All that is kept has a text as its key, put together from what it is and whose it is.  Ids and names of
organizations may be any texts, with colons in them too; still no two things have one key
(`Store.Place.eq_of_key`), so that the tables of a store never meet.
-/

namespace Sheetflow

/-- Lists are the same up to the first `a` and behind it. -/
theorem eq_of_append_cons {α : Type} {a : α} {x y z w : List α} (hx : a ∉ x) (hy : a ∉ y)
    (h : x ++ a :: z = y ++ a :: w) : x = y ∧ z = w := by
  induction x generalizing y with
  | nil =>
    cases y with
    | nil => exact ⟨rfl, (List.cons.inj h).2⟩
    | cons b y => exact absurd ((List.cons.inj h).1 ▸ List.mem_cons_self) hy
  | cons b x ih =>
    cases y with
    | nil => exact absurd ((List.cons.inj h).1 ▸ List.mem_cons_self) hx
    | cons c y =>
      obtain ⟨rfl, hrest⟩ := List.cons.inj h
      obtain ⟨rfl, hz⟩ := ih (fun hm => hx (List.mem_cons_of_mem _ hm))
        (fun hm => hy (List.mem_cons_of_mem _ hm)) hrest
      exact ⟨rfl, hz⟩

theorem eq_of_append_left {s a b : String} (h : s ++ a = s ++ b) : a = b := by
  have hlist : s.toList ++ a.toList = s.toList ++ b.toList := by
    rw [← String.toList_append, ← String.toList_append, h]
  exact String.toList_injective (List.append_cancel_left hlist)

theorem eq_of_append_right {s a b : String} (h : a ++ s = b ++ s) : a = b := by
  have hlist : a.toList ++ s.toList = b.toList ++ s.toList := by
    rw [← String.toList_append, ← String.toList_append, h]
  exact String.toList_injective (List.append_cancel_right hlist)

theorem getElem?_toList_append {s : String} {n : Nat} {c : Char} (h : s.toList[n]? = some c)
    (t : String) : (s ++ t).toList[n]? = some c := by
  rw [String.toList_append, List.getElem?_append_left (List.getElem?_eq_some_iff.mp h).1, h]

/-- In the text of a month there are digits and dashes only. -/
theorem Date.notMem_monthText (d : Date) {c : Char} (hdigit : c.isDigit = false) (hdash : c ≠ '-') :
    c ∉ d.monthText.toList := by
  have hpadded (width n : Nat) : c ∉ (padded width n).toList := fun hc => by
    rw [isDigit_of_mem_padded hc] at hdigit
    cases hdigit
  intro hc
  rw [monthText, String.toList_append, String.toList_append, List.mem_append, List.mem_append] at hc
  obtain (hc | hc) | hc := hc
  · exact hpadded _ _ hc
  · exact hdash (List.mem_singleton.mp hc)
  · exact hpadded _ _ hc

/-! ### Keys of counts -/

namespace Counter

/-- The key up to its last colon. -/
def stem : Counter → String
  | .active org => "mutate:quota:" ++ org
  | .monthly org _ => "mutate:quota:" ++ org ++ ":usage"

/-- The key behind its last colon. -/
def ending : Counter → String
  | .active _ => "active"
  | .monthly _ month => month

/-- Monthly counts are kept for the months of dates. -/
def IsDated : Counter → Prop
  | .active _ => True
  | .monthly _ month => ∃ d : Date, month = d.monthText

theorem toList_key (c : Counter) : c.key.toList = c.stem.toList ++ ':' :: c.ending.toList := by
  have hcolon (s : String) : ':' :: s.toList = (":" ++ s).toList := by
    rw [String.toList_append]
    rfl
  rw [hcolon, ← String.toList_append]
  cases c with
  | active org => rfl
  | monthly org month =>
    show ("mutate:quota:" ++ org ++ ":usage:" ++ month).toList = _
    rw [show ":usage:" = ":usage" ++ ":" from rfl, ← String.append_assoc, String.append_assoc]
    rfl

theorem colon_notMem_ending {c : Counter} (h : c.IsDated) : ':' ∉ c.ending.toList := by
  cases c with
  | active org => exact show ':' ∉ "active".toList by decide
  | monthly org month =>
    obtain ⟨d, rfl⟩ := h
    exact d.notMem_monthText (by decide) (by decide)

/-- A month is not the word for jobs under way. -/
theorem monthText_ne_active (d : Date) : d.monthText ≠ "active" := by
  intro h
  have hletter : 'a' ∈ d.monthText.toList := by
    rw [h]
    decide
  exact d.notMem_monthText (by decide) (by decide) hletter

theorem eq_of_key {c d : Counter} (hc : c.IsDated) (hd : d.IsDated) (h : c.key = d.key) : c = d := by
  have hlist : c.ending.toList.reverse ++ ':' :: c.stem.toList.reverse =
      d.ending.toList.reverse ++ ':' :: d.stem.toList.reverse := by
    have hreverse := congrArg (fun k => k.toList.reverse) h
    simpa [toList_key] using hreverse
  obtain ⟨hending, hstem⟩ := eq_of_append_cons
    (fun hm => colon_notMem_ending hc (List.mem_reverse.mp hm))
    (fun hm => colon_notMem_ending hd (List.mem_reverse.mp hm)) hlist
  have hending : c.ending = d.ending := String.toList_injective (List.reverse_injective hending)
  have hstem : c.stem = d.stem := String.toList_injective (List.reverse_injective hstem)
  cases c with
  | active o =>
    cases d with
    | active o' => exact congrArg active (eq_of_append_left hstem)
    | monthly o' m' =>
      obtain ⟨e, rfl⟩ := hd
      exact absurd hending.symm (monthText_ne_active e)
  | monthly o m =>
    cases d with
    | active o' =>
      obtain ⟨e, rfl⟩ := hc
      exact absurd hending (monthText_ne_active e)
    | monthly o' m' =>
      have horg : o = o' := eq_of_append_left (eq_of_append_right hstem)
      have hmonth : m = m' := hending
      rw [horg, hmonth]

end Counter

namespace Store

/-- Where something is kept. -/
inductive Place where
  | configuration (id : String)
  | configurationIndex (organization : String)
  | job (id : String)
  | jobIndex (organization : String)
  | counter (c : Counter)

namespace Place

def key : Place → String
  | .configuration id => configurationKey id
  | .configurationIndex org => configurationIndexKey org
  | .job id => jobKey id
  | .jobIndex org => jobIndexKey org
  | .counter c => c.key

/-- Monthly counts are kept for the months of dates. -/
def IsDated : Place → Prop
  | .counter c => c.IsDated
  | _ => True

/-- The letter that tells what is kept. -/
def letter : Place → Char
  | .configuration _ => 'c'
  | .configurationIndex _ => 'o'
  | .job _ => 'j'
  | .jobIndex _ => 'o'
  | .counter _ => 'q'

theorem getElem?_key (p : Place) : p.key.toList[7]? = some p.letter := by
  have horg (org t : String) : ("mutate:org:" ++ org ++ t).toList[7]? = some 'o' :=
    getElem?_toList_append (getElem?_toList_append (by decide) org) t
  cases p with
  | configuration id =>
    have hstart : "mutate:config:".toList[7]? = some 'c' := by decide
    exact getElem?_toList_append hstart id
  | configurationIndex org => exact horg org _
  | job id =>
    have hstart : "mutate:job:".toList[7]? = some 'j' := by decide
    exact getElem?_toList_append hstart id
  | jobIndex org => exact horg org _
  | counter c =>
    have hquota (org : String) : ("mutate:quota:" ++ org).toList[7]? = some 'q' :=
      getElem?_toList_append (by decide) org
    cases c with
    | active org => exact getElem?_toList_append (hquota org) _
    | monthly org month =>
      exact getElem?_toList_append (getElem?_toList_append (hquota org) _) month

theorem configurationIndexKey_ne_jobIndexKey (o o' : String) :
    configurationIndexKey o ≠ jobIndexKey o' := by
  intro h
  have hreverse (s t : String) : (s ++ t).toList.reverse = t.toList.reverse ++ s.toList.reverse := by
    rw [String.toList_append, List.reverse_append]
  -- the last letter but one
  have hlast : (":configs".toList.reverse ++ ("mutate:org:" ++ o).toList.reverse)[1]? =
      (":jobs".toList.reverse ++ ("mutate:org:" ++ o').toList.reverse)[1]? := by
    rw [← hreverse, ← hreverse]
    exact congrArg (fun k => k.toList.reverse[1]?) h
  rw [List.getElem?_append_left (by decide), List.getElem?_append_left (by decide)] at hlast
  exact absurd hlast (by decide)

/-- **No two things have one key.** -/
theorem eq_of_key {p q : Place} (hp : p.IsDated) (hq : q.IsDated) (h : p.key = q.key) : p = q := by
  have hletter : p.letter = q.letter :=
    Option.some.inj (by rw [← getElem?_key, ← getElem?_key, h])
  cases p with
  | configuration i =>
    cases q with
    | configuration i' => exact congrArg configuration (eq_of_append_left h)
    | _ => simp [letter] at hletter
  | configurationIndex o =>
    cases q with
    | configurationIndex o' =>
      exact congrArg configurationIndex (eq_of_append_left (eq_of_append_right h))
    | jobIndex o' => exact absurd h (configurationIndexKey_ne_jobIndexKey o o')
    | _ => simp [letter] at hletter
  | job i =>
    cases q with
    | job i' => exact congrArg job (eq_of_append_left h)
    | _ => simp [letter] at hletter
  | jobIndex o =>
    cases q with
    | configurationIndex o' => exact absurd h.symm (configurationIndexKey_ne_jobIndexKey o' o)
    | jobIndex o' => exact congrArg jobIndex (eq_of_append_left (eq_of_append_right h))
    | _ => simp [letter] at hletter
  | counter c =>
    cases q with
    | counter d => exact congrArg Place.counter (Counter.eq_of_key hp hq h)
    | _ => simp [letter] at hletter

end Place

end Store

end Sheetflow
