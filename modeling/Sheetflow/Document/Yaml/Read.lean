import Sheetflow.Document.Yaml.Node
import Sheetflow.Document.Yaml.Tag.Value

/-!
# Values of YAML documents

Scalars are read as what their tags say, sequences become lists and mappings maps, or sets of what would
be keys. Entries of a map
that is merged into another come before its own, so that its own values count. A fault is reported for
the outermost node that has one, and of those the first.
-/

namespace Sheetflow.Yaml

/-- A value, or a fault and how deep in the document it is. -/
abbrev Built (α : Type) := Except (Nat × Error) α

namespace Built

variable {α β : Type}

def fail (depth : Nat) (e : Error) : Built α := .error (depth, e)

/-- The result of a step at a depth. -/
def atDepth (depth : Nat) (x : Except Error α) : Built α := x.mapError fun e => (depth, e)

/-- Both values, or the fault that is less deep, which is the first of them if they are equally deep. -/
def both (a : Built α) (b : Built β) : Built (α × β) :=
  match a, b with
  | .ok x, .ok y => .ok (x, y)
  | .error e, .ok _ => .error e
  | .ok _, .error e => .error e
  | .error e, .error f => .error (if f.1 < e.1 then f else e)

end Built

/-- Nodes of a form were expected. -/
inductive Wanted where
  | scalar
  | sequence
  | mapping

namespace Node

/-- The node has another form than the one its tag asks for. -/
def misformed (wanted : Wanted) (n : Node) : Error :=
  let word := match wanted with
    | .scalar => "scalar"
    | .sequence => "sequence"
    | .mapping => "mapping"
  .malformed ⟨none, none, "expected a " ++ word ++ " node, but found " ++ n.form, n.mark⟩

/-- A fault inside a node that was started at a place. -/
def inside (context : String) (start : Mark) (problem : String) (m : Mark) : Error :=
  .malformed ⟨some context, some start, problem, m⟩

mutual

/-- The text of a scalar, or of the entry of a map that stands for the whole. -/
def text : Node → Except Error String
  | .scalar _ _ s => .ok s
  | .sequence m t items => .error (misformed .scalar (.sequence m t items))
  | .mapping m t es =>
    match entryText? es with
    | some r => r
    | none => .error (misformed .scalar (.mapping m t es))

/-- The text of the first entry that stands for the whole. -/
def entryText? : List (Node × Node) → Option (Except Error String)
  | [] => none
  | (k, v) :: es => if k.tag = .value then some (text v) else entryText? es

end

/-- Only maps can be merged into a map. -/
def unmergeable (start : Mark) (wanted : String) (n : Node) : Error :=
  inside "while constructing a mapping" start
    ("expected a mapping" ++ wanted ++ " for merging, but found " ++ n.form) n.mark

mutual

/-- The first fault of what is merged into a map that starts at a place, and into those maps. -/
def mergeFault? (start : Mark) : List (Node × Node) → Option Error
  | [] => none
  | (k, v) :: es =>
    if k.tag = .merge then
      (match v with
        | .mapping m _ inner => mergeFault? m inner
        | .sequence _ _ items => mergeItemsFault? start items
        | .scalar m t s => some (unmergeable start " or list of mappings" (.scalar m t s))).or
        (mergeFault? start es)
    else mergeFault? start es
termination_by es => sizeOf es
decreasing_by
  all_goals simp only [List.cons.sizeOf_spec, Prod.mk.sizeOf_spec, mapping.sizeOf_spec,
    sequence.sizeOf_spec]
  all_goals omega

def mergeItemsFault? (start : Mark) : List Node → Option Error
  | [] => none
  | n :: ns =>
    (match n with
      | .mapping m _ inner => mergeFault? m inner
      | .sequence m t items => some (unmergeable start "" (.sequence m t items))
      | .scalar m t s => some (unmergeable start "" (.scalar m t s))).or (mergeItemsFault? start ns)
termination_by ns => sizeOf ns
decreasing_by
  all_goals simp only [List.cons.sizeOf_spec, mapping.sizeOf_spec]
  all_goals omega

end

/-- The form that a tag asks for, if it is not that of a text. -/
inductive Collection where
  | list
  | map
  | pairs (context : String)

/-- What the tag makes of a node that is no text. -/
def collection? : Tag → Option Collection
  | .seq => some .list
  | .map => some .map
  | .set => some .map
  | .omap => some (.pairs "while constructing an ordered map")
  | .pairs => some (.pairs "while constructing pairs")
  | _ => none

/-- The fault of a node whose form is not that of its collection. -/
def Collection.misformed (n : Node) : Collection → Error
  | .list => n.misformed .sequence
  | .map => n.misformed .mapping
  | .pairs context => inside context n.mark ("expected a sequence, but found " ++ n.form) n.mark

/-- The value of a node that is read as a text. -/
def readText (n : Node) : Except Error Value := do
  if n.tag.isScalar then n.tag.read n.mark (← n.text) else throw (n.tag.undefined n.mark)

/-- The entries of a map from those that are merged into it and its own. -/
def allEntries (merged own : List (Value × Value)) : List (Value × Value) :=
  (merged ++ own).foldl (fun es e => Value.setEntry es e.1 e.2) []

/-- The value of a node with these entries; a set has the keys only. -/
def ofEntries (t : Tag) (es : List (Value × Value)) : Value :=
  if t = .set then .set (es.map (·.1)) else .map es

mutual

/-- The value of a node that is so deep in the document. -/
def build (depth : Nat) : Node → Built Value
  | .scalar m t s =>
    match collection? t with
    | some c => .fail (depth + 1) (c.misformed (.scalar m t s))
    | none => .atDepth depth (t.read m s)
  | .sequence m t items =>
    match collection? t with
    | some .list => (buildAll (depth + 1) items).map .list
    | some (.pairs context) => (buildPairs context m (depth + 1) items).map .list
    | some .map => .fail (depth + 1) (misformed .mapping (.sequence m t items))
    | none => .atDepth depth (readText (.sequence m t items))
  | .mapping m t es =>
    match collection? t with
    | some .map =>
      match mergeFault? m es with
      | some e => .fail (depth + 1) e
      | none =>
        ((mergedEntries m (depth + 1) es).both (ownEntries m (depth + 1) es)).map fun (merged, own) =>
          ofEntries t (allEntries merged own)
    | some c => .fail (depth + 1) (c.misformed (.mapping m t es))
    | none => .atDepth depth (readText (.mapping m t es))

def buildAll (depth : Nat) : List Node → Built (List Value)
  | [] => .ok []
  | n :: ns => ((build depth n).both (buildAll depth ns)).map fun (v, vs) => v :: vs

/-- Maps of one entry each, as lists of a key and a value. -/
def buildPairs (context : String) (start : Mark) (depth : Nat) : List Node → Built (List Value)
  | [] => .ok []
  | n :: ns =>
    let pair : Built Value :=
      match n with
      | .mapping _ _ [(k, v)] =>
        ((build depth k).both (build depth v)).map fun (a, b) => .list [a, b]
      | .mapping m _ es =>
        .fail depth (inside context start
          ("expected a single mapping item, but found " ++ toString es.length ++ " items") m)
      | .sequence m t items =>
        .fail depth (inside context start
          ("expected a mapping of length 1, but found " ++ (Node.sequence m t items).form) m)
      | .scalar m t s =>
        .fail depth (inside context start
          ("expected a mapping of length 1, but found " ++ (Node.scalar m t s).form) m)
    (pair.both (buildPairs context start depth ns)).map fun (v, vs) => v :: vs

/-- The entries that are merged into a map. -/
def mergedEntries (start : Mark) (depth : Nat) : List (Node × Node) → Built (List (Value × Value))
  | [] => .ok []
  | (k, v) :: es =>
    if k.tag = .merge then
      let first : Built (List (Value × Value)) :=
        match v with
        | .mapping _ _ inner =>
          ((mergedEntries start depth inner).both (ownEntries start depth inner)).map fun (a, b) => a ++ b
        | .sequence _ _ items => mergedItems start depth items
        | .scalar _ _ _ => .ok []
      (first.both (mergedEntries start depth es)).map fun (a, b) => a ++ b
    else mergedEntries start depth es

/-- The entries of several maps that are merged, where the first map counts most and so comes last. -/
def mergedItems (start : Mark) (depth : Nat) : List Node → Built (List (Value × Value))
  | [] => .ok []
  | n :: ns =>
    let this : Built (List (Value × Value)) :=
      match n with
      | .mapping _ _ inner =>
        ((mergedEntries start depth inner).both (ownEntries start depth inner)).map fun (a, b) => a ++ b
      | .sequence _ _ _ => .ok []
      | .scalar _ _ _ => .ok []
    ((mergedItems start depth ns).both this).map fun (a, b) => a ++ b

/-- The entries of a map that are written in it. Only scalars can be keys. -/
def ownEntries (start : Mark) (depth : Nat) : List (Node × Node) → Built (List (Value × Value))
  | [] => .ok []
  | (k, v) :: es =>
    if k.tag = .merge then ownEntries start depth es
    else
      let key : Built Value :=
        if k.tag = .value then .atDepth depth (k.text.map .str)
        else if (collection? k.tag).isSome then
          .fail depth (inside "while constructing a mapping" start "found unhashable key" k.mark)
        else build depth k
      ((key.both (build depth v)).both (ownEntries start depth es)).map fun (e, es) => e :: es

end

end Node

/-- Read a YAML text that has room for that many collections in each other; one without a document is
null. -/
def read (room : Nat) (text : List Char) : Except Error Value := do
  match ← Node.ofTokens room (.ofText text) with
  | none => return .null
  | some n => (n.build 0).mapError (·.2)

end Sheetflow.Yaml
