import Sheetflow.Document.Value
import Sheetflow.Field.Checked
import Sheetflow.Number.Numeral

/-!
# Reading fields

Readers turn a value of a document into a typed one. They are lenient where the meaning is plain: a
whole number may be written as a text or as a number without a fraction, a truth value as one of the
usual words, and bytes stand for the text that they encode. A field may have several names, of which
the first that is present counts.
-/

namespace Sheetflow

/-- How a value is read. -/
abbrev FieldReader (α : Type) := Value → Checked α

namespace Field

/-- What `read` reads in the text that bytes stand for; `e` says that they stand for none. -/
def ofBytes {α : Type} (read : String → Checked α) (e : ProblemKind) (bs : Bytes) : Checked α :=
  match Text.Utf8.decode bs with
  | .ok cs => read (String.ofList cs)
  | .error _ => .fail e

def text : FieldReader String
  | .str s => .valid s
  | .bytes bs => ofBytes .valid .notUnicode bs
  | _ => .fail .notAString

/-- A text of at least `least` characters. -/
def textOfLength (least : Nat) : FieldReader String := fun v =>
  (text v).andThen fun s => if s.length < least then .fail (.tooShort least) else .valid s

/-- Blanks as they may surround a number written as a text. -/
def isSpace (c : Char) : Bool := Text.isBlank c && !(28 ≤ c.toNat && c.toNat ≤ 31)

def strip (cs : List Char) : List Char :=
  ((cs.dropWhile isSpace).reverse.dropWhile isSpace).reverse

/-- A numeral without leading zeros, a single zero excepted; zeros and underscores are passed while
they lead. Nothing if it does not start like a number. -/
def dropLeadingZeros : List Char → Option (List Char)
  | '0' :: rest => go '0' rest
  | '-' :: rest => some ('-' :: rest)
  | c :: rest => if '1' ≤ c && c ≤ '9' then some (c :: rest) else none
  | [] => none
where
  go (last : Char) : List Char → Option (List Char)
    | [] => some [last]
    | c :: rest =>
      if c == '0' || c == '_' then go c rest
      else if '1' ≤ c && c ≤ '9' then some (c :: rest)
      else if c == '.' then some ('0' :: '.' :: rest)
      else none

/-- Without a fraction that consists of zeros. -/
def dropZeroFraction (cs : List Char) : List Char :=
  match cs.dropWhile (· != '.') with
  | '.' :: frac => if !frac.isEmpty && frac.all (· == '0') then cs.takeWhile (· != '.') else cs
  | _ => cs

/-- Without single underscores inside; nothing if underscores stand elsewhere. -/
def dropUnderscores (cs : List Char) : Option (List Char) :=
  if cs.head? == some '_' || cs.getLast? == some '_' then none
  else if (cs.zip (cs.drop 1)).any fun p => p.1 == '_' && p.2 == '_' then none
  else some (cs.filter (· != '_'))

/-- A sign and digits, with a leading zero only for zero itself. -/
def plainInteger? (cs : List Char) : Option (Bool × List Char) :=
  let (negative, ds) := match cs with
    | '-' :: rest => (true, rest)
    | _ => (false, cs)
  if ds.isEmpty || !ds.all Text.isAsciiDigit then none
  else if ds.head? == some '0' && 1 < ds.length then none
  else some (negative, ds)

/-- A whole number written as a text. -/
def integerOfText (s : String) : Checked Int :=
  let body := match strip s.toList with
    | '+' :: rest => if rest.head? == some '-' then none else some rest
    | cs => some cs
  match ((body.bind dropLeadingZeros).map dropZeroFraction).bind dropUnderscores |>.bind plainInteger? with
  | none => .fail .integerSyntax
  | some (negative, ds) =>
    if digitLimit < ds.length then .fail .integerSize
    else
      let n : Int := Text.numeralValue ds
      .valid (if negative then -n else n)

/-- A whole number that a floating-point number stands for. -/
def integerOfFloat (x : Double) : Checked Int :=
  if !x.isFinite then .fail .notFinite
  else match x.toInt? with
    | none => .fail .integerFraction
    | some i => if i.natAbs < Nat.pow 2 63 then .valid i else .fail .integerSize

def integer : FieldReader Int
  | .int i => .valid i
  | .bool b => .valid (if b then 1 else 0)
  | .float x => integerOfFloat x
  | .str s => integerOfText s
  | .bytes bs => ofBytes integerOfText .integerSyntax bs
  | _ => .fail .notAnInteger

/-- A whole number not below `least`, which is not negative. -/
def natural (least : Nat) : FieldReader Nat := fun v =>
  (integer v).andThen fun i => if i < least then .fail (.below least) else .valid i.toNat

def trueWords : List String := ["1", "on", "t", "true", "y", "yes"]

def falseWords : List String := ["0", "off", "f", "false", "n", "no"]

def asciiLower (s : String) : String := String.ofList (s.toList.map Char.toLower)

/-- A truth value written as a word. -/
def booleanOfText (s : String) : Checked Bool :=
  if trueWords.contains (asciiLower s) then .valid true
  else if falseWords.contains (asciiLower s) then .valid false
  else .fail .booleanSyntax

def boolean : FieldReader Bool
  | .bool b => .valid b
  | .int i => if i = 1 then .valid true else if i = 0 then .valid false else .fail .booleanSyntax
  | .float x =>
    match x.toInt? with
    | some 1 => .valid true
    | some 0 => .valid false
    | _ => .fail .notABoolean
  | .str s => booleanOfText s
  | .bytes bs => ofBytes booleanOfText .booleanSyntax bs
  | _ => .fail .notABoolean

/-- One of the words of a vocabulary. -/
def word {α : Type} (vocabulary : List α) (spelling : α → String) : FieldReader α := fun v =>
  let found := match v with
    | .str s => vocabulary.find? fun a => spelling a == s
    | _ => none
  match found with
  | some a => .valid a
  | none => .fail (.notAWord (vocabulary.map spelling))

/-- Null, or what `read` reads. -/
def optional {α : Type} (read : FieldReader α) : FieldReader (Option α)
  | .null => .valid none
  | v => (read v).map some

/-- A list, or a set in some order. -/
def list {α : Type} (read : FieldReader α) : FieldReader (List α) := fun v =>
  match v.items? with
  | some xs => .all read xs
  | none => .fail .notAList

/-- A map, read by its entries; `name` is what messages call it. -/
def model {α : Type} (name : String) (read : List (Value × Value) → Checked α) : FieldReader α
  | .map entries => read entries
  | _ => .fail (.notAModel name)

/-- The first of the names that is present, and its value. -/
def present? (entries : List (Value × Value)) : List String → Option (String × Value)
  | [] => none
  | name :: names =>
    match Value.entry? name entries with
    | some v => some (name, v)
    | none => present? entries names

/-- A field that has to be there. -/
def required {α : Type} (entries : List (Value × Value)) (names : List String)
    (read : FieldReader α) : Checked α :=
  match present? entries names with
  | some (name, v) => (read v).under (.key name)
  | none => (Checked.fail .missing).under (.key (names.headD ""))

/-- A field with a default. -/
def withDefault {α : Type} (entries : List (Value × Value)) (names : List String) (default : α)
    (read : FieldReader α) : Checked α :=
  match present? entries names with
  | some (name, v) => (read v).under (.key name)
  | none => .valid default

end Field

end Sheetflow
