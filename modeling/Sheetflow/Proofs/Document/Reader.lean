import Mathlib.Data.List.Infix
import Sheetflow.Document.Json.Read

/-!
# How readers fail

A reader goes through a text from left to right and stops with an error where it cannot go on.
`Keeps I E x` says that the reader `x` goes from states with `I` to such states, and that the errors
it stops with are of the kind `E`.  A reader keeps what its parts keep (`Keeps.bind`), so there is one
lemma for each reader, and `grind` puts the lemmas for the parts together.

Among the errors of JSON there are two that are about no fault of form: a number that is too long, the
digits of which are those of the text, and lists and maps for which there is no room, of which the text
opens more than there is room for.  The second is why states know how many were opened before them
(`Json.read_error`).
-/

namespace Sheetflow

/-! ### Readers -/

section

variable {σ ε α β : Type} {I : σ → Prop} {E : ε → Prop}

/-- The result of a reader: a state with `I`, or an error with `E`. -/
def Reached (I : σ → Prop) (E : ε → Prop) : Except ε (α × σ) → Prop
  | .ok (_, s) => I s
  | .error e => E e

/-- From a state with `I` the reader comes to one with `I`, or stops with an error with `E`. -/
def Keeps (I : σ → Prop) (E : ε → Prop) (x : StateT σ (Except ε) α) : Prop :=
  ∀ s, I s → Reached I E (x.run s)

/-- A reader that goes on from where another one came to. -/
theorem Reached.bind {x : StateT σ (Except ε) α} {f : α → StateT σ (Except ε) β} {s : σ}
    (hx : Reached I E (x.run s))
    (hf : ∀ a t, x.run s = .ok (a, t) → I t → Reached I E ((f a).run t)) :
    Reached I E ((x >>= f).run s) := by
  rw [StateT.run_bind]
  cases h : x.run s with
  | error e =>
    rw [h] at hx
    exact hx
  | ok r =>
    rw [h] at hx
    exact hf r.1 r.2 h hx

@[grind ←]
theorem Keeps.bind {x : StateT σ (Except ε) α} {f : α → StateT σ (Except ε) β} (hx : Keeps I E x)
    (hf : ∀ a, Keeps I E (f a)) : Keeps I E (x >>= f) :=
  fun s hs => (hx s hs).bind fun a t _ ht => hf a t ht

@[grind ←]
theorem Keeps.pure (a : α) : Keeps I E (pure a : StateT σ (Except ε) α) := fun _ hs => hs

@[grind ←]
theorem Keeps.throw {e : ε} (he : E e) : Keeps I E (throw e : StateT σ (Except ε) α) := fun _ _ => he

@[grind ←]
theorem Keeps.modify {f : σ → σ} (hf : ∀ s, I s → I (f s)) :
    Keeps I E (modify f : StateT σ (Except ε) PUnit) := hf

@[grind ←]
theorem Keeps.set {t : σ} (ht : I t) : Keeps I E (set t : StateT σ (Except ε) PUnit) := fun _ _ => ht

@[grind ←]
theorem Keeps.get : Keeps I E (get : StateT σ (Except ε) σ) := fun _ hs => hs

theorem Keeps.ite {c : Prop} [Decidable c] {x y : StateT σ (Except ε) α} (hx : Keeps I E x)
    (hy : Keeps I E y) : Keeps I E (if c then x else y) := by
  split
  · exact hx
  · exact hy

/-- What is done with a state may rely on its being one with `I`. -/
theorem Keeps.get_bind {f : σ → StateT σ (Except ε) β} (hf : ∀ s, I s → Keeps I E (f s)) :
    Keeps I E (MonadState.get >>= f) := fun s hs => hf s hs s hs

/-- From a state with more to it the reader comes to one with `I` as well. -/
theorem Keeps.reached {J : σ → Prop} {x : StateT σ (Except ε) α} (hx : Keeps J E x)
    (hJI : ∀ s, J s → I s) {s : σ} (hs : J s) : Reached I E (x.run s) := by
  have h := hx s hs
  cases hrun : x.run s with
  | error e =>
    rw [hrun] at h
    exact h
  | ok r =>
    rw [hrun] at h
    exact hJI r.2 h

/-- The same, where the state is still the one that was looked at. -/
theorem Keeps.of_get {f : σ → StateT σ (Except ε) β} (hf : ∀ s, I s → Reached I E ((f s).run s)) :
    Keeps I E (MonadState.get >>= f) := hf

end

/-! ### Numbers that are too long -/

/-- The digits of the number stand in the text. -/
def NumeralTooLong.IsIn (text : List Char) (e : NumeralTooLong) : Prop :=
  ∃ ds, ds <:+: text ∧ ds.all Text.isAsciiDigit = true ∧ digitLimit < ds.length ∧ e.digits = ds.length

namespace Json

/-- The character opens a list or a map. -/
def isOpening (c : Char) : Bool := c == '[' || c == '\x7b'

/-- The error reports a fault of form, a number that is too long, or that the text opens more lists and
maps than there is room for. -/
def Error.Of (room : Nat) (text : List Char) : Error → Prop
  | .fault _ _ => True
  | .numeral e => e.IsIn text
  | .tooDeep _ => room < text.countP isOpening

@[grind ←]
theorem Error.of_fault {room : Nat} {text : List Char} (cause : Cause) (offset : Nat) :
    (Error.fault cause offset).Of room text := trivial

/-- What has not been read is the end of the text, and at least `n` lists and maps were opened before
it. -/
def Place.In (text : List Char) (n : Nat) (p : Place) : Prop :=
  ∃ done, text = done ++ p.rest ∧ n ≤ done.countP isOpening

section

variable {text : List Char} {n : Nat} {p : Place}

theorem Place.In.suffix (hp : p.In text n) : p.rest <:+ text := by
  obtain ⟨done, rfl, -⟩ := hp
  exact List.suffix_append done p.rest

theorem Place.In.mono {m : Nat} (hp : p.In text n) (hmn : m ≤ n) : p.In text m := by
  obtain ⟨done, htext, hn⟩ := hp
  exact ⟨done, htext, hmn.trans hn⟩

theorem Place.In.drop (hp : p.In text n) (offset k : Nat) :
    Place.In text n ⟨offset, p.rest.drop k⟩ := by
  obtain ⟨done, htext, hn⟩ := hp
  refine ⟨done ++ p.rest.take k, ?_, ?_⟩
  · rw [List.append_assoc, List.take_append_drop, htext]
  · rw [List.countP_append]
    omega

/-- Behind an opening there is one more. -/
theorem Place.In.opened {c : Char} (hp : p.In text n) (hc : isOpening c = true)
    (hhead : p.rest.head? = some c) (offset : Nat) :
    Place.In text (n + 1) ⟨offset, p.rest.drop 1⟩ := by
  obtain ⟨done, htext, hn⟩ := hp
  obtain ⟨rest, hrest⟩ := List.head?_eq_some_iff.mp hhead
  refine ⟨done ++ [c], ?_, ?_⟩
  · rw [htext, hrest, List.append_assoc]
    rfl
  · rw [List.countP_append, List.countP_singleton, if_pos hc]
    omega

/-- In front of an opening the text has more than those before. -/
theorem Place.In.lt_countP {c : Char} (hp : p.In text n) (hc : isOpening c = true)
    (hhead : p.rest.head? = some c) : n < text.countP isOpening := by
  obtain ⟨done, htext, hn⟩ := hp.opened hc hhead 0
  rw [htext, List.countP_append]
  omega

end

variable {text : List Char} {limit n : Nat}

/-- The reader stays in the text behind `n` openings, and besides faults of form only a number that is
too long or more than `limit` openings stop it. -/
abbrev Keeps (limit : Nat) (text : List Char) (n : Nat) {α : Type} (x : Reading α) : Prop :=
  Sheetflow.Keeps (Place.In text n) (Error.Of limit text) x

@[grind ←]
theorem fail_keeps {α : Type} (cause : Cause) (offset : Nat) :
    Keeps limit text n (fail cause offset : Reading α) := .throw trivial

@[grind ←]
theorem skip_keeps (k : Nat) : Keeps limit text n (skip k) :=
  .modify fun _ hp => hp.drop _ k

@[grind ←]
theorem skipSpace_keeps : Keeps limit text n skipSpace :=
  Keeps.get.bind fun _ => skip_keeps _

@[grind ←]
theorem peek_keeps : Keeps limit text n peek :=
  Keeps.get.bind fun _ => .pure _

@[grind ←]
theorem expect_keeps (c : Char) (cause : Cause) : Keeps limit text n (expect c cause) :=
  peek_keeps.bind fun _ => .ite (skip_keeps 1) (Keeps.get.bind fun _ => fail_keeps _ _)

@[grind ←]
theorem fourHex_keeps (letter : Nat) : Keeps limit text n (fourHex letter) := by
  unfold fourHex
  refine Keeps.get.bind fun p => .ite (fail_keeps _ _) ?_
  split
  · exact (skip_keeps 4).bind fun _ => .pure _
  · exact fail_keeps _ _

@[grind ←]
theorem unicodeEscape_keeps : Keeps limit text n unicodeEscape := by
  unfold unicodeEscape
  refine Keeps.get.bind fun _ => (fourHex_keeps _).bind fun high => .get_bind fun p hp => ?_
  -- behind half of a pair that has no other half, reading goes on at `p`
  have hback : Keeps limit text n (MonadStateOf.set p : Reading PUnit) := .set hp
  grind

@[grind ←]
theorem stringRest_keeps (start : Nat) (done : List Char) (fuel : Nat) :
    Keeps limit text n (stringRest start done fuel) := by
  induction fuel generalizing done with
  | zero => exact fail_keeps _ _
  | succ fuel ih =>
    refine Keeps.get.bind fun p => ?_
    grind

@[grind ←]
theorem string_keeps : Keeps limit text n string :=
  Keeps.get.bind fun _ => (skip_keeps 1).bind fun _ => stringRest_keeps _ _ _

/-! ### Numerals -/

theorem wholeDigits_isPrefix (cs : List Char) : wholeDigits cs <+: cs := by
  unfold wholeDigits
  split
  · exact ⟨_, rfl⟩
  · exact List.takeWhile_prefix _

theorem wholeDigits_all (cs : List Char) : (wholeDigits cs).all Text.isAsciiDigit = true := by
  unfold wholeDigits
  split
  · decide
  · exact List.all_takeWhile

/-- The whole digits of a numeral stand in the text. -/
theorem numeralParts?_whole {cs : List Char} {n : NumeralParts} (h : numeralParts? cs = some n) :
    n.whole <:+: cs ∧ n.whole.all Text.isAsciiDigit = true := by
  unfold numeralParts? at h
  simp only [Option.ite_none_left_eq_some, Option.some.injEq] at h
  obtain ⟨-, rfl⟩ := h
  refine ⟨(wholeDigits_isPrefix _).isInfix.trans ?_, wholeDigits_all _⟩
  split
  · exact (List.drop_suffix 1 cs).isInfix
  · exact List.infix_rfl

/-- A numeral has no value only if it is too long. -/
theorem NumeralParts.value_error {n : NumeralParts} {e : Error} (h : n.value = .error e) :
    digitLimit < n.whole.length ∧ e = .numeral ⟨n.whole.length⟩ := by
  unfold value at h
  split at h
  · split at h
    next hlong =>
      cases h
      exact ⟨hlong, rfl⟩
    next => cases h
  · cases h

@[grind ←]
theorem scalar_keeps : Keeps limit text n scalar := by
  unfold scalar
  refine .get_bind fun p hp => ?_
  split
  case h_1 => grind
  case h_2 =>
    split
    case h_1 => exact fail_keeps _ _
    case h_2 parts hparts =>
      obtain ⟨hin, hdigits⟩ := numeralParts?_whole hparts
      split
      case h_1 => grind
      case h_2 e he =>
        obtain ⟨hlong, rfl⟩ := NumeralParts.value_error he
        exact .throw ⟨parts.whole, hin.trans hp.suffix.isInfix, hdigits, hlong, rfl⟩

/-! ### Documents -/

/-- What is done with the next character may rely on its being there. -/
theorem peek_bind_keeps {α : Type} {f : Option Char → Reading α}
    (hf : ∀ p, p.In text n → Reached (Place.In text n) (Error.Of limit text) ((f p.rest.head?).run p)) :
    Keeps limit text n (peek >>= f) := fun p hp => hf p hp

/-- A collection is entered at an opening, where either the room is used up, or one less is left
inside. -/
theorem enter_reached {α : Type} {c : Char} (hc : isOpening c = true) (collection : String)
    {room : Nat} (hroom : limit ≤ n + room) {f : Nat → Reading α}
    (hf : ∀ inside, limit ≤ n + 1 + inside → Keeps limit text (n + 1) (f inside)) {p : Place}
    (hp : p.In text n) (hhead : p.rest.head? = some c) :
    Reached (Place.In text n) (Error.Of limit text)
      ((enter collection room >>= fun inside => skip 1 >>= fun _ => f inside).run p) := by
  cases room with
  | zero =>
    have hopen : n < text.countP isOpening := hp.lt_countP hc hhead
    exact show limit < text.countP isOpening by omega
  | succ inside =>
    have hbehind : Place.In text (n + 1) ⟨p.offset + 1, p.rest.drop 1⟩ := hp.opened hc hhead _
    exact (hf inside (by omega)).reached (fun _ hq => hq.mono (Nat.le_succ n)) hbehind

/-- Values nest through lists and maps. -/
theorem value_keeps_all (fuel : Nat) : ∀ {n room : Nat}, limit ≤ n + room →
    Keeps limit text n (value room fuel) ∧ (∀ done, Keeps limit text n (elements room done fuel)) ∧
      ∀ done, Keeps limit text n (entries room done fuel) := by
  induction fuel with
  | zero => exact fun _ => ⟨by grind [value], by grind [elements], by grind [entries]⟩
  | succ fuel ih =>
    intro n room hroom
    obtain ⟨hvalue, helements, hentries⟩ := ih hroom
    refine ⟨?_, fun done => ?_, fun done => ?_⟩
    · unfold value
      refine peek_bind_keeps fun p hp => ?_
      split
      case h_1 => exact (string_keeps.bind fun _ => .pure _) p hp
      case h_2 hhead =>
        refine enter_reached (c := '[') rfl "array" hroom (fun inside hinside => ?_) hp hhead
        have helements := (ih hinside).2.1
        grind
      case h_3 hhead =>
        refine enter_reached (c := '\x7b') rfl "object" hroom (fun inside hinside => ?_) hp hhead
        have hentries := (ih hinside).2.2
        grind
      case h_4 => exact scalar_keeps p hp
    · unfold elements
      grind
    · unfold entries
      refine peek_keeps.bind fun c => ?_
      split
      · grind
      · refine string_keeps.bind fun key => skipSpace_keeps.bind fun _ =>
          (expect_keeps _ _).bind fun _ => skipSpace_keeps.bind fun _ => hvalue.bind fun v => ?_
        grind

theorem document_keeps (room : Nat) : Keeps room text 0 (document room) := by
  have hvalue (fuel : Nat) : Keeps room text 0 (value room fuel) :=
    (value_keeps_all fuel (by omega)).1
  grind [document]

/-- **Why a text has no value.**  It has a fault of form, or a number in it is too long, or it opens more
lists and maps than there is room for. -/
theorem read_error {room : Nat} {e : Error} (h : read room text = .error e) : e.Of room text := by
  have hdocument := document_keeps room ⟨0, text⟩ ⟨[], rfl, Nat.zero_le _⟩
  unfold read at h
  cases hrun : (document room).run ⟨0, text⟩ with
  | ok r =>
    rw [hrun] at h
    cases h
  | error e' =>
    rw [hrun] at h hdocument
    cases h
    exact hdocument

/-! ### Want of room -/

theorem value_openings (room : Nat) : ∀ {fuel n : Nat} (offset : Nat), room < n → 2 * room < fuel →
    (value room fuel).run ⟨offset, List.replicate n '['⟩ = .error (.tooDeep "array") := by
  induction room with
  | zero =>
    intro fuel n offset hn hfuel
    obtain ⟨n, rfl⟩ : ∃ m, n = m + 1 := ⟨n - 1, by omega⟩
    obtain ⟨fuel, rfl⟩ : ∃ k, fuel = k + 1 := ⟨fuel - 1, by omega⟩
    rw [value]
    rfl
  | succ room ih =>
    intro fuel n offset hn hfuel
    obtain ⟨n, rfl⟩ : ∃ m, n = m + 2 := ⟨n - 2, by omega⟩
    obtain ⟨fuel, rfl⟩ : ∃ k, fuel = k + 2 := ⟨fuel - 2, by omega⟩
    have hinner := ih (offset + 1) (show room < n + 1 by omega) (show 2 * room < fuel by omega)
    have helements : (elements room [] (fuel + 1)).run ⟨offset + 1, List.replicate (n + 1) '['⟩ =
        .error (.tooDeep "array") := by
      rw [elements, StateT.run_bind, hinner]
      rfl
    have hlist : (do return Value.list (← elements room [] (fuel + 1)) : Reading Value).run
        ⟨offset + 1, List.replicate (n + 1) '['⟩ = .error (.tooDeep "array") := by
      rw [StateT.run_bind, helements]
      rfl
    rw [value]
    exact hlist

/-- Where there is no room for so many openings in a row, the reader says so. -/
theorem read_openings {room n : Nat} (h : room < n) :
    read room (List.replicate n '[') = .error (.tooDeep "array") := by
  obtain ⟨n, rfl⟩ : ∃ m, n = m + 1 := ⟨n - 1, by omega⟩
  have hvalue := value_openings room 0 h
    (show 2 * room < 2 * (List.replicate (n + 1) '[').length + 2 by rw [List.length_replicate]; omega)
  have hdocument : (document room).run ⟨0, List.replicate (n + 1) '['⟩ = .error (.tooDeep "array") := by
    unfold document
    have hrest : (do
        let v ← value room (2 * (List.replicate (n + 1) '[').length + 2)
        skipSpace
        let p ← get
        if p.rest.isEmpty then return v else fail .extraData p.offset : Reading Value).run
          ⟨0, List.replicate (n + 1) '['⟩ = .error (.tooDeep "array") := by
      rw [StateT.run_bind, hvalue]
      rfl
    exact hrest
  rw [read, hdocument]
  rfl
end Json

end Sheetflow
