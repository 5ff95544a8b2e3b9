import Sheetflow.Field.Read
import Sheetflow.Proofs.Table

/-!
# Reading again what was read

Readers are lenient, so many values are read alike.  `Restores read write` says that `write` picks
one of them: what `read` has read, it reads again from what `write` makes of it.  The lemmas follow
the ways readers are put together; for a map they say what a field was read from, and that a field is
read from the entry of its name.
-/

namespace Sheetflow

namespace Value

/-- The entries of a record are found as in a table. -/
theorem entry?_record (name : String) (es : Table String Value) :
    entry? name (es.map fun e => (.str e.1, e.2)) = es.get? name := by
  induction es with
  | nil => rfl
  | cons e es ih =>
    rw [Table.get?_cons, ← ih]
    unfold entry? isKey
    by_cases h : e.1 = name <;> simp [h]

theorem get?_record (name : String) (es : Table String Value) :
    (record es).get? name = es.get? name :=
  entry?_record name es

end Value

namespace Checked
variable {α β : Type}

@[simp] theorem apply_valid (f : α → β) (a : α) : apply (.valid f) (.valid a) = .valid (f a) := rfl

@[simp] theorem map_valid (f : α → β) (a : α) : map (.valid a) f = .valid (f a) := rfl

@[simp] theorem andThen_valid (f : α → Checked β) (a : α) : andThen (.valid a) f = f a := rfl

@[simp] theorem under_valid (a : α) (step : Step) : under (.valid a) step = .valid a := rfl

theorem under_valid_iff {c : Checked α} {step : Step} {a : α} :
    c.under step = .valid a ↔ c = .valid a := by
  cases c with
  | valid b => simp
  | invalid ps => simp [under]

theorem andThen_valid_iff {c : Checked α} {f : α → Checked β} {b : β} :
    c.andThen f = .valid b ↔ ∃ a, c = .valid a ∧ f a = .valid b := by
  cases c with
  | valid a => simp
  | invalid ps => simp [andThen]

theorem allFrom_map {γ : Type} (f : β → Checked γ) (g : α → β) {h : α → γ} {as : List α}
    (hf : ∀ a ∈ as, f (g a) = .valid (h a)) (i : Nat) :
    allFrom f i (as.map g) = .valid (as.map h) := by
  induction as generalizing i with
  | nil => rfl
  | cons a as ih =>
    have hrest := ih (fun b hb => hf b (List.mem_cons_of_mem a hb)) (i + 1)
    rw [List.map_cons, allFrom, hf a List.mem_cons_self, hrest]
    rfl

theorem mem_of_allFrom {f : α → Checked β} {i : Nat} {as : List α} {bs : List β}
    (h : allFrom f i as = .valid bs) : ∀ b ∈ bs, ∃ a ∈ as, f a = .valid b := by
  induction as generalizing i bs with
  | nil =>
    cases h
    intro b hb
    cases hb
  | cons a as ih =>
    rw [allFrom, apply_valid_iff] at h
    obtain ⟨g, rest, hg, hrest, rfl⟩ := h
    obtain ⟨first, hfirst, rfl⟩ := map_valid_iff.mp hg
    intro b hb
    rcases List.mem_cons.mp hb with rfl | hb
    · exact ⟨a, List.mem_cons_self, under_valid_iff.mp hfirst⟩
    · obtain ⟨a', ha', hf⟩ := ih hrest b hb
      exact ⟨a', List.mem_cons_of_mem a ha', hf⟩

end Checked

namespace Field
variable {α : Type}

/-- What `read` reads is read again from what `write` makes of it. -/
def Restores (read : FieldReader α) (write : α → Value) : Prop :=
  ∀ ⦃v : Value⦄ ⦃a : α⦄, read v = .valid a → read (write a) = .valid a

theorem restores_text : Restores text .str := fun _ _ _ => rfl

theorem restores_textOfLength (least : Nat) : Restores (textOfLength least) .str := by
  intro v s h
  obtain ⟨t, -, ht⟩ := Checked.andThen_valid_iff.mp h
  by_cases hlen : t.length < least
  · rw [if_pos hlen] at ht
    cases ht
  · rw [if_neg hlen] at ht
    cases ht
    show (if s.length < least then _ else _) = _
    rw [if_neg hlen]

theorem ne_empty_of_textOfLength {v : Value} {s : String} (h : textOfLength 1 v = .valid s) :
    s ≠ "" := by
  obtain ⟨t, -, ht⟩ := Checked.andThen_valid_iff.mp h
  split at ht
  · cases ht
  · rename_i hlen
    cases ht
    rintro rfl
    exact hlen (by decide)

theorem textOfLength_of_ne_empty {s : String} (h : s ≠ "") : textOfLength 1 (.str s) = .valid s := by
  have hlength : s.length ≠ 0 := fun hzero => h (String.length_eq_zero_iff.mp hzero)
  show (if s.length < 1 then _ else _) = _
  rw [if_neg (by omega)]

theorem restores_natural (least : Nat) : Restores (natural least) fun n => .int n := by
  intro v n h
  obtain ⟨i, -, hi⟩ := Checked.andThen_valid_iff.mp h
  by_cases hlow : i < least
  · rw [if_pos hlow] at hi
    cases hi
  · rw [if_neg hlow] at hi
    cases hi
    have hnat : (i.toNat : Int) = i := Int.toNat_of_nonneg (by omega)
    show (if ((i.toNat : Nat) : Int) < least then _ else _) = _
    rw [hnat, if_neg hlow]

theorem restores_word (vocabulary : List α) (spelling : α → String) :
    Restores (word vocabulary spelling) fun a => .str (spelling a) := by
  intro v a h
  cases v with
  | str s =>
    unfold word at h
    cases hs : vocabulary.find? (fun b => spelling b == s) with
    | none => simp [hs, Checked.fail] at h
    | some b =>
      obtain rfl : b = a := by simpa [hs] using h
      have hspelling : spelling b = s := by simpa using List.find?_some hs
      simp only [word, hspelling, hs]
  | _ => simp [word, Checked.fail] at h

theorem exists_of_list {read : FieldReader α} {v : Value} {as : List α} (h : list read v = .valid as) :
    ∃ xs, v.items? = some xs ∧ Checked.all read xs = .valid as := by
  unfold list at h
  split at h
  · rename_i xs hxs
    exact ⟨xs, hxs, h⟩
  · cases h

theorem restores_list {read : FieldReader α} {write : α → Value} (h : Restores read write) :
    Restores (list read) fun as => .list (as.map write) := by
  intro v as hv
  obtain ⟨xs, -, hxs⟩ := exists_of_list hv
  have hmem := Checked.mem_of_allFrom hxs
  have hall : ∀ a ∈ as, read (write a) = .valid a := by
    intro a ha
    obtain ⟨x, -, hx⟩ := hmem a ha
    exact h hx
  have := Checked.allFrom_map (h := id) read write hall 0
  rwa [List.map_id] at this

/-! ### Fields of maps -/

theorem exists_of_model {name : String} {read : List (Value × Value) → Checked α} {v : Value}
    {a : α} (h : model name read v = .valid a) : ∃ es, v = .map es ∧ read es = .valid a := by
  cases v with
  | map es => exact ⟨es, rfl, h⟩
  | _ => simp [model, Checked.fail] at h

theorem exists_of_required {es : List (Value × Value)} {names : List String} {read : FieldReader α}
    {a : α} (h : required es names read = .valid a) : ∃ v, read v = .valid a := by
  unfold required at h
  split at h
  · exact ⟨_, Checked.under_valid_iff.mp h⟩
  · cases Checked.under_valid_iff.mp h

theorem exists_of_withDefault {es : List (Value × Value)} {names : List String} {default a : α}
    {read : FieldReader α} (h : withDefault es names default read = .valid a) :
    a = default ∨ ∃ v, read v = .valid a := by
  unfold withDefault at h
  split at h
  · exact .inr ⟨_, Checked.under_valid_iff.mp h⟩
  · cases h
    exact .inl rfl

/-- A value that a field may hold was read, unless it is missing. -/
theorem exists_of_optional {es : List (Value × Value)} {names : List String} {a : α}
    {read : FieldReader α} (h : withDefault es names none (optional read) = .valid (some a)) :
    ∃ v, read v = .valid a := by
  rcases exists_of_withDefault h with h | ⟨v, hv⟩
  · cases h
  · unfold optional at hv
    split at hv
    · cases hv
    · obtain ⟨b, hb, he⟩ := Checked.map_valid_iff.mp hv
      cases he
      exact ⟨_, hb⟩

section Record

/-! A record that is read: `es` are its entries, and fields are read under their first names. -/

variable {es : Table String Value} {name : String} {names : List String} {read : FieldReader α}
  {v : Value} {a : α}

theorem required_record (he : es.get? name = some v) (hv : read v = .valid a) :
    required (es.map fun e => (.str e.1, e.2)) (name :: names) read = .valid a := by
  simp only [required, present?, Value.entry?_record, he, hv, Checked.under_valid]

theorem withDefault_record {default : α} (he : es.get? name = some v) (hv : read v = .valid a) :
    withDefault (es.map fun e => (.str e.1, e.2)) (name :: names) default read = .valid a := by
  simp only [withDefault, present?, Value.entry?_record, he, hv, Checked.under_valid]

/-- What is written of a field that may be missing: its value, or else nothing or null. -/
def written (nulls : Bool) (write : α → Value) (o : Option α) : Option Value :=
  (o.map write).or (if nulls then some .null else none)

@[simp] theorem written_some (nulls : Bool) (write : α → Value) (a : α) :
    written nulls write (some a) = some (write a) := rfl

/-- A field that may be missing is read again from what is written of it. -/
theorem optional_record (nulls : Bool) {write : α → Value} (hr : Restores read write)
    (hnull : ∀ a, write a ≠ .null) {entries : List (Value × Value)} {o : Option α}
    (ho : withDefault entries names none (Field.optional read) = .valid o)
    (he : es.get? name = written nulls write o) :
    withDefault (es.map fun e => (.str e.1, e.2)) [name] none (Field.optional read) = .valid o := by
  cases o with
  | none =>
    cases nulls with
    | true => exact withDefault_record he rfl
    | false =>
      simp only [withDefault, present?, Value.entry?_record, he]
      rfl
  | some a =>
    obtain ⟨w, hw⟩ := exists_of_optional ho
    have hv : Field.optional read (write a) = .valid (some a) := by
      unfold Field.optional
      split
      · rename_i hwrite
        exact absurd hwrite (hnull a)
      · rw [hr hw]
        rfl
    exact withDefault_record he hv

end Record

end Field

end Sheetflow
