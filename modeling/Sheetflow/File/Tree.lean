import Sheetflow.File.Name
import Sheetflow.Table
import Sheetflow.Text.Quoted
import Sheetflow.Text.Utf8

/-!
# A tree of files

Files lie in directories below one root and are found by the parts of their paths. A reference is
followed from the root, which is itself a directory somewhere, and `Location.ofRef` refuses those that
end elsewhere. Writing makes the directories on the way; what stands in the way is reported by a
`FileFault`.
-/

namespace Sheetflow

/-- The parts of a path, from the root or from the top of all directories. -/
abbrev Path := List String

inductive FileEntry where
  | file (bs : Bytes)
  | directory
deriving DecidableEq

/-- What stands below the root; the root itself is a directory. -/
abbrev FileTree := Table Path FileEntry

inductive FileFaultKind where
  | exists_
  | notADirectory
  | isADirectory
  | nameTooLong
deriving DecidableEq, Repr

/-- What stood in the way, and where. -/
structure FileFault where
  kind : FileFaultKind
  path : Path
deriving DecidableEq, Repr

namespace FileFaultKind

def number : FileFaultKind → Nat
  | .exists_ => 17
  | .notADirectory => 20
  | .isADirectory => 21
  | .nameTooLong => 36

def text : FileFaultKind → String
  | .exists_ => "File exists"
  | .notADirectory => "Not a directory"
  | .isADirectory => "Is a directory"
  | .nameTooLong => "File name too long"

end FileFaultKind

/-- Paths are shown below a name for the root. -/
def Path.shown (p : Path) : String := Text.quoted (String.intercalate "/" ("<root>" :: p))

def FileFault.message (f : FileFault) : String :=
  "[Errno " ++ toString f.kind.number ++ "] " ++ f.kind.text ++ ": " ++ Path.shown f.path

namespace FileTree

/-- The bytes a part of a path may have. -/
def nameLimit : Nat := 255

def isTooLong (part : String) : Bool := nameLimit < part.utf8ByteSize

def entry? (t : FileTree) (p : Path) : Option FileEntry :=
  if p.isEmpty then some .directory else t.get? p

/-- The paths of the directories that lead to a path, the path itself included, from the root. -/
def ancestry (p : Path) : List Path := (List.range p.length).map fun n => p.take (n + 1)

/-- What stands in the way when the given path and those before it are looked up one after the other: a
file, or a name that is too long. Nothing is looked up behind what is missing. -/
def obstacle? (t : FileTree) : List Path → Option FileFaultKind
  | [] => none
  | p :: rest =>
    if (p.getLast?).any isTooLong then some .nameTooLong
    else match t.entry? p with
      | some (.file _) => some (if rest.isEmpty then .exists_ else .notADirectory)
      | some .directory => obstacle? t rest
      | none => none

/-- Make directories, each of which lies in the one before it, as far as their names permit. -/
def makeDirectories (t : FileTree) : List Path → FileTree × Except FileFault Unit
  | [] => (t, .ok ())
  | p :: rest =>
    if (p.getLast?).any isTooLong then (t, .error ⟨.nameTooLong, p⟩)
    else makeDirectories (if (t.entry? p).isSome then t else t.set p .directory) rest

/-- Write a file, making directories as needed. -/
def write (t : FileTree) (p : Path) (bs : Bytes) : FileTree × Except FileFault Unit :=
  let parent := p.dropLast
  match t.obstacle? (ancestry parent) with
  | some kind => (t, .error ⟨kind, parent⟩)
  | none =>
    match t.makeDirectories (ancestry parent) with
    | (t, .error e) => (t, .error e)
    | (t, .ok ()) =>
      if (p.getLast?).any isTooLong then (t, .error ⟨.nameTooLong, p⟩)
      else match t.entry? p with
        | some .directory => (t, .error ⟨.isADirectory, p⟩)
        | _ => (t.set p (.file bs), .ok ())

/-- The bytes of a file, if there is one. -/
def read (t : FileTree) (p : Path) : Except FileFault (Option Bytes) :=
  match t.obstacle? (ancestry p) with
  | some .nameTooLong => .error ⟨.nameTooLong, p⟩
  | _ =>
    match t.entry? p with
    | some (.file bs) => .ok (some bs)
    | _ => .ok none

/-- The paths of all files in ascending order. -/
def files (t : FileTree) : List String :=
  (t.filterMap fun (p, e) =>
    match e with
    | .file _ => some (String.intercalate "/" p)
    | .directory => none).mergeSort (· ≤ ·)

end FileTree

/-- Where a reference leads. -/
inductive Location where
  | below (p : Path)
  | outside
  | invalid
deriving DecidableEq

namespace Location

/-- Follow the parts of a path, `..` leading back as far as the top. -/
def climb (at_ : Path) : List (List Char) → Path
  | [] => at_
  | part :: rest =>
    if part = ['.', '.'] then climb at_.dropLast rest else climb (at_ ++ [String.ofList part]) rest

/-- Where a reference leads from a root; one that starts with a slash starts at the top. -/
def place (root : Path) (ref : String) : Path :=
  climb (if ref.toList.head? = some '/' then [] else root) (FileName.parts ref.toList)

/-- Where a reference leads, seen from the root. -/
def ofRef (root : Path) (ref : String) : Location :=
  if ref.toList.contains '\x00' then .invalid
  else
    let p := place root ref
    if root <+: p ∧ root.length < p.length then .below (p.drop root.length) else .outside

end Location

end Sheetflow
