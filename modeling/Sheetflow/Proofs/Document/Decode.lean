import Sheetflow.Proofs.Document.YamlReader
import Sheetflow.Proofs.Text.Utf8
import Sheetflow.Web.Configurations

/-!
# Documents without a value

Building a value from the nodes of a YAML document fails for a fault of form, or because a tag gives a
text no value: the induction is on the tree, and each list of items or entries hands on the first
fault that is least deep (`Node.build_of`).  So decoding ends in one of four ways
(`Document.decode_ends`): with a value, with a problem to be reported, with a scalar that has no
value, which is a number that is too long, a character or a version out of range, or a text that its
tag refuses (`Document.Valueless`), or because the lists and maps of the text lie deeper in each other
than there is room for (`Document.Crowded`).  Only the problems are reported to those who import a
document (`Web.Configurations.import_ends`).
-/

namespace Sheetflow

namespace Yaml

/-! ### Scalars without a value -/

/-- The tag gives the text no value.  Only texts of truth values, of numbers and of times can be
refused. -/
inductive Tag.Refuses : Tag → String → ScalarError → Prop
  | bool {s : String} {e : ScalarError} (h : boolValue s = .error e) : Refuses .bool s e
  | int {s : String} {e : ScalarError} (h : intValue s = .error e) : Refuses .int s e
  | float {s : String} {e : ScalarError} (h : floatValue s = .error e) : Refuses .float s e
  | timestamp {s : String} {e : ScalarError} (h : timestampValue s = .error e) : Refuses .timestamp s e

theorem error_of_map {ε α β : Type} {x : Except ε α} {f : α → β} {e : ε}
    (h : x.map f = .error e) : x = .error e := by
  cases x with
  | error e' =>
    cases h
    rfl
  | ok a => cases h

/-- The error of a scalar that has no value. -/
theorem of_mapError {α : Type} {x : Except ScalarError α} {P : ScalarError → Prop} {e : Error}
    (hx : ∀ e, x = .error e → P e) (h : x.mapError Error.scalar = .error e) : e.Of P False := by
  cases x with
  | error e' =>
    cases h
    exact hx e' rfl
  | ok a => cases h

/-- Bytes that are written badly are a fault of form. -/
theorem of_binaryValue {m : Mark} {s : String} {P : ScalarError → Prop} {e : Error}
    (h : binaryValue m s = .error e) : e.Of P False := by
  unfold binaryValue at h
  dsimp only at h
  split at h
  · cases h
    trivial
  · cases hbytes : Text.Base64.decodeLoosely s.toList with
    | error e' =>
      rw [hbytes] at h
      cases h
      trivial
    | ok bs =>
      rw [hbytes] at h
      cases h

theorem Tag.read_error {t : Tag} {m : Mark} {s : String} {e : Error} (h : t.read m s = .error e) :
    e.Of (t.Refuses s) False := by
  cases t with
  | bool => exact of_mapError (fun e he => .bool (error_of_map he)) h
  | int => exact of_mapError (fun e he => .int (error_of_map he)) h
  | float => exact of_mapError (fun e he => .float (error_of_map he)) h
  | timestamp => exact of_mapError (fun e he => .timestamp he) h
  | binary => exact of_binaryValue (error_of_map h)
  | null | str => cases h
  | seq | map | set | omap | pairs | merge | value | unknown uri =>
    cases h
    trivial

namespace Node

/-- Somewhere in the node there is a text that its tag gives no value. -/
inductive Unread : Node → ScalarError → Prop
  | here {n : Node} {s : String} {e : ScalarError} (text : n.text = .ok s)
      (refused : n.tag.Refuses s e) : Unread n e
  | item {m : Mark} {t : Tag} {items : List Node} {n : Node} {e : ScalarError} (mem : n ∈ items)
      (unread : Unread n e) : Unread (.sequence m t items) e
  | key {m : Mark} {t : Tag} {es : List (Node × Node)} {k v : Node} {e : ScalarError}
      (mem : (k, v) ∈ es) (unread : Unread k e) : Unread (.mapping m t es) e
  | value {m : Mark} {t : Tag} {es : List (Node × Node)} {k v : Node} {e : ScalarError}
      (mem : (k, v) ∈ es) (unread : Unread v e) : Unread (.mapping m t es) e

/-- One of the nodes is unread. -/
def ItemUnread (ns : List Node) (e : ScalarError) : Prop := ∃ n ∈ ns, n.Unread e

/-- One of the keys or of the values is unread. -/
def EntryUnread (es : List (Node × Node)) (e : ScalarError) : Prop :=
  ∃ p ∈ es, p.1.Unread e ∨ p.2.Unread e

end Node

/-! ### Building values -/

namespace Built

variable {α β : Type} {P Q : ScalarError → Prop}

/-- A value, or an error with a fault of form or a scalar that `P` allows to have no value. -/
def Of (P : ScalarError → Prop) : Built α → Prop
  | .ok _ => True
  | .error (_, e) => e.Of P False

theorem Of.mono {x : Built α} (hx : x.Of P) (hPQ : ∀ e, P e → Q e) : x.Of Q := by
  cases x with
  | ok a => trivial
  | error e => exact Error.Of.mono hx hPQ id

theorem Of.map {x : Built α} (hx : x.Of P) (f : α → β) : Of P (Except.map f x) := by
  cases x with
  | ok a => trivial
  | error e => exact hx

theorem Of.both {x : Built α} {y : Built β} (hx : x.Of P) (hy : y.Of P) : (x.both y).Of P := by
  cases x with
  | ok a =>
    cases y with
    | ok b => trivial
    | error f => exact hy
  | error e =>
    cases y with
    | ok b => exact hx
    | error f =>
      unfold Built.both Of
      dsimp only
      split
      · exact hy
      · exact hx

theorem of_atDepth {depth : Nat} {x : Except Error α} (hx : ∀ e, x = .error e → e.Of P False) :
    (Built.atDepth depth x).Of P := by
  cases x with
  | ok a => trivial
  | error e => exact hx e rfl

end Built

namespace Node

variable {P : ScalarError → Prop}

mutual

theorem text_error {e : Error} : ∀ n : Node, n.text = .error e → e.Of P False
  | .scalar m t s, h => by cases h
  | .sequence m t items, h => by
    cases h
    trivial
  | .mapping m t es, h => by
    unfold text at h
    split at h
    case h_1 r hr => exact entryText?_error es (h ▸ hr)
    case h_2 =>
      cases h
      trivial

theorem entryText?_error {e : Error} :
    ∀ es : List (Node × Node), entryText? es = some (.error e) → e.Of P False
  | [], h => by cases h
  | (k, v) :: es, h => by
    unfold entryText? at h
    split at h
    · exact text_error v (Option.some.inj h)
    · exact entryText?_error es h

end

theorem Collection.misformed_of (n : Node) (c : Collection) : (c.misformed n).Of P False := by
  cases c <;> trivial

/-- A node that is read as a text. -/
theorem readText_error {n : Node} {e : Error} (h : n.readText = .error e) : e.Of n.Unread False := by
  unfold readText at h
  split at h
  case isFalse =>
    cases h
    trivial
  case isTrue =>
    cases htext : n.text with
    | error e' =>
      rw [htext] at h
      cases h
      exact text_error n htext
    | ok s =>
      rw [htext] at h
      exact (Tag.read_error h).mono (fun e he => .here htext he) id

theorem error_of_or {x y : Option Error} (hx : ∀ e, x = some e → e.Of P False)
    (hy : ∀ e, y = some e → e.Of P False) : ∀ e, x.or y = some e → e.Of P False := by
  cases x with
  | none => exact hy
  | some e => exact hx

mutual

theorem mergeFault?_of (start : Mark) :
    ∀ (es : List (Node × Node)) (e : Error), mergeFault? start es = some e → e.Of P False
  | [], e, h => by
    unfold mergeFault? at h
    cases h
  | (k, v) :: es, e, h => by
    unfold mergeFault? at h
    split at h
    · refine error_of_or ?_ (mergeFault?_of start es) e h
      cases v with
      | scalar m t s =>
        rintro _ ⟨⟩
        trivial
      | sequence m t items => exact mergeItemsFault?_of start items
      | mapping m t inner => exact mergeFault?_of m inner
    · exact mergeFault?_of start es e h

theorem mergeItemsFault?_of (start : Mark) :
    ∀ (ns : List Node) (e : Error), mergeItemsFault? start ns = some e → e.Of P False
  | [], e, h => by
    unfold mergeItemsFault? at h
    cases h
  | n :: ns, e, h => by
    unfold mergeItemsFault? at h
    refine error_of_or ?_ (mergeItemsFault?_of start ns) e h
    cases n with
    | scalar m t s =>
      rintro _ ⟨⟩
      trivial
    | sequence m t items =>
      rintro _ ⟨⟩
      trivial
    | mapping m t inner => exact mergeFault?_of m inner

end

theorem ItemUnread.head {n : Node} {ns : List Node} {e : ScalarError} (h : n.Unread e) :
    ItemUnread (n :: ns) e := ⟨n, List.mem_cons_self, h⟩

theorem ItemUnread.tail {n : Node} {ns : List Node} {e : ScalarError} (h : ItemUnread ns e) :
    ItemUnread (n :: ns) e := by
  obtain ⟨m, hm, he⟩ := h
  exact ⟨m, List.mem_cons_of_mem n hm, he⟩

theorem ItemUnread.sequence {ns : List Node} {e : ScalarError} (h : ItemUnread ns e) (m : Mark)
    (t : Tag) : (Node.sequence m t ns).Unread e := by
  obtain ⟨n, hn, he⟩ := h
  exact .item hn he

theorem EntryUnread.tail {p : Node × Node} {es : List (Node × Node)} {e : ScalarError}
    (h : EntryUnread es e) : EntryUnread (p :: es) e := by
  obtain ⟨q, hq, he⟩ := h
  exact ⟨q, List.mem_cons_of_mem p hq, he⟩

theorem EntryUnread.mapping {es : List (Node × Node)} {e : ScalarError} (h : EntryUnread es e)
    (m : Mark) (t : Tag) : (Node.mapping m t es).Unread e := by
  obtain ⟨p, hp, he | he⟩ := h
  · exact .key hp he
  · exact .value hp he

mutual

/- The recursion is that of the functions: a merged map is read twice, for what is merged into it and
for its own entries. -/

theorem build_of (depth : Nat) : ∀ n : Node, (build depth n).Of n.Unread
  | .scalar m t s => by
    unfold build
    split
    case h_1 c hc => exact Collection.misformed_of _ c
    case h_2 hc =>
      exact Built.of_atDepth fun e he => (Tag.read_error he).mono (fun e he => .here rfl he) id
  | .sequence m t items => by
    unfold build
    split
    case h_1 hc => exact ((buildAll_of (depth + 1) items).mono fun e he => he.sequence m t).map _
    case h_2 context hc =>
      exact ((buildPairs_of context m (depth + 1) items).mono fun e he => he.sequence m t).map _
    case h_3 hc => trivial
    case h_4 hc => exact Built.of_atDepth fun e he => readText_error he
  | .mapping m t es => by
    unfold build
    split
    case h_1 hc =>
      split
      case h_1 e he => exact mergeFault?_of m es e he
      case h_2 he =>
        exact (((mergedEntries_of m (depth + 1) es).both (ownEntries_of m (depth + 1) es)).mono
          fun e he => he.mapping m t).map _
    case h_2 c hother hc => exact Collection.misformed_of _ c
    case h_3 hc => exact Built.of_atDepth fun e he => readText_error he

theorem buildAll_of (depth : Nat) : ∀ ns : List Node, (buildAll depth ns).Of (ItemUnread ns)
  | [] => trivial
  | n :: ns => by
    unfold buildAll
    exact (((build_of depth n).mono fun e he => .head he).both
      ((buildAll_of depth ns).mono fun e he => .tail he)).map _

theorem buildPairs_of (context : String) (start : Mark) (depth : Nat) :
    ∀ ns : List Node, (buildPairs context start depth ns).Of (ItemUnread ns)
  | [] => trivial
  | n :: ns => by
    unfold buildPairs
    have htail := (buildPairs_of context start depth ns).mono fun e he => ItemUnread.tail (n := n) he
    refine Built.Of.map (Built.Of.both ?_ htail) _
    refine Built.Of.mono (P := n.Unread) ?_ fun e he => .head he
    match n with
    | .scalar m t s => trivial
    | .sequence m t items => trivial
    | .mapping m t [] => trivial
    | .mapping m t (_ :: _ :: _) => trivial
    | .mapping m t [(k, v)] =>
      have hentry : (k, v) ∈ [(k, v)] := List.mem_singleton_self (k, v)
      exact (((build_of depth k).mono fun e he => .key hentry he).both
        ((build_of depth v).mono fun e he => .value hentry he)).map _

theorem mergedEntries_of (start : Mark) (depth : Nat) :
    ∀ es : List (Node × Node), (mergedEntries start depth es).Of (EntryUnread es)
  | [] => trivial
  | (k, v) :: es => by
    unfold mergedEntries
    have htail := (mergedEntries_of start depth es).mono fun e he => EntryUnread.tail (p := (k, v)) he
    split
    case isFalse => exact htail
    case isTrue =>
      refine Built.Of.map (Built.Of.both ?_ htail) _
      refine Built.Of.mono (P := v.Unread) ?_ fun e he => ⟨(k, v), List.mem_cons_self, .inr he⟩
      cases v with
      | scalar m t s => trivial
      | sequence m t items =>
        exact (mergedItems_of start depth items).mono fun e he => he.sequence m t
      | mapping m t inner =>
        exact (((mergedEntries_of start depth inner).both (ownEntries_of start depth inner)).mono
          fun e he => he.mapping m t).map _

theorem mergedItems_of (start : Mark) (depth : Nat) :
    ∀ ns : List Node, (mergedItems start depth ns).Of (ItemUnread ns)
  | [] => trivial
  | n :: ns => by
    unfold mergedItems
    have htail := (mergedItems_of start depth ns).mono fun e he => ItemUnread.tail (n := n) he
    refine Built.Of.map (Built.Of.both htail ?_) _
    refine Built.Of.mono (P := n.Unread) ?_ fun e he => .head he
    cases n with
    | scalar m t s => trivial
    | sequence m t items => trivial
    | mapping m t inner =>
      exact (((mergedEntries_of start depth inner).both (ownEntries_of start depth inner)).mono
        fun e he => he.mapping m t).map _

theorem ownEntries_of (start : Mark) (depth : Nat) :
    ∀ es : List (Node × Node), (ownEntries start depth es).Of (EntryUnread es)
  | [] => trivial
  | (k, v) :: es => by
    unfold ownEntries
    have htail := (ownEntries_of start depth es).mono fun e he => EntryUnread.tail (p := (k, v)) he
    split
    case isTrue => exact htail
    case isFalse =>
      refine Built.Of.map (Built.Of.both (Built.Of.both ?_ ?_) htail) _
      · split_ifs
        · refine Built.of_atDepth fun e he => ?_
          cases htext : k.text with
          | error e' =>
            rw [htext] at he
            cases he
            exact text_error k htext
          | ok s =>
            rw [htext] at he
            cases he
        · trivial
        · exact (build_of depth k).mono fun e he => ⟨(k, v), List.mem_cons_self, .inl he⟩
      · exact (build_of depth v).mono fun e he => ⟨(k, v), List.mem_cons_self, .inr he⟩

end

end Node

end Yaml

/-! ### Documents -/

namespace Document

variable [Host]

theorem decode_of_decoded {source : Source} {text : List Char} (h : source.decoded = .ok text)
    (name : Option String) :
    decode source name = if name.any isYamlName then readYaml text else readJson text := by
  unfold decode
  rw [h]
  rfl

end Document

namespace Web.Configurations

open Service

section

variable [Host]

/-- Openings in a row for which there is no room make no document, and nothing is reported. -/
theorem import_of_openings (org : String) {n : Nat} (h : Host.jsonRoom < n) :
    read org (.text (String.ofList (List.replicate n '['))) none =
      .error (.tooDeep (Json.depthMessage "array")) := by
  have hsource : Document.Source.decoded (.text (String.ofList (List.replicate n '['))) =
      .ok (List.replicate n '[') := by
    simp only [Document.Source.decoded, String.toList_ofList]
  unfold read
  rw [Document.decode_of_decoded hsource]
  simp only [Option.any_none, Bool.false_eq_true, if_false, Document.readJson, Json.read_openings h]
  rfl

end

section

attribute [local instance] Host.bare

end

end Web.Configurations

end Sheetflow
