import Mathlib.Algebra.Group.Nat.Defs
import Sheetflow.Document.Yaml.Node
import Sheetflow.Proofs.Document.Reader

/-!
# How readers of YAML fail

Before it is known which scalars a text has, what is wrong with it is a fault of form, with two
exceptions (`Unwritten`): a double-quoted scalar may give a character by a number that no character
has, and a directive may give a version by a number that is too long.  The cursor and the lexer stop
with no other errors, each of them because its parts do not.  The composer of nodes may also run out of
room for collections, but only if there is less of it than the text has tokens to open them
(`Node.ofTokens_error`).
-/

namespace Sheetflow.Yaml

/-- The error reports a fault of form, or a scalar that `P` allows to have no value, or, if `deep`, that
there is no room for a collection. -/
def Error.Of (P : ScalarError → Prop) (deep : Prop) : Error → Prop
  | .character _ _ => True
  | .malformed _ => True
  | .scalar e => P e
  | .tooDeep => deep

section

variable {P Q : ScalarError → Prop} {deep deep' : Prop}

@[grind ←]
theorem Error.of_malformed (f : Fault) : (Error.malformed f).Of P deep := trivial

theorem Error.Of.mono {e : Error} (h : e.Of P deep) (hPQ : ∀ e, P e → Q e)
    (hdeep : deep → deep') : e.Of Q deep' := by
  cases e with
  | character c offset => trivial
  | malformed f => trivial
  | scalar e => exact hPQ e h
  | tooDeep => exact hdeep h

end

/-! ### The cursor -/

/-- What has not been read is the end of the text. -/
def Cursor.In (text : List Char) (p : Cursor) : Prop := p.rest <:+ text

namespace Cursor

theorem step_rest (p : Cursor) : p.step.rest = p.rest.drop 1 := by
  unfold step
  split
  case h_1 h => rw [h, List.drop_nil]
  case h_2 c rest h =>
    rw [h, List.drop_one, List.tail_cons]
    split <;> rfl

theorem forward_rest (p : Cursor) (n : Nat) : (p.forward n).rest = p.rest.drop n := by
  induction n generalizing p with
  | zero => rfl
  | succ n ih => rw [forward, ih, step_rest, List.drop_drop, Nat.add_comm]

variable {text : List Char} {p : Cursor}

@[grind ←]
theorem In.forward (hp : p.In text) (n : Nat) : (p.forward n).In text := by
  unfold In
  rw [forward_rest]
  exact (List.drop_suffix n p.rest).trans hp

theorem In.step (hp : p.In text) : p.step.In text := hp.forward 1

@[grind ←]
theorem In.lineBreak (hp : p.In text) : p.lineBreak.2.In text := by
  unfold Cursor.lineBreak
  split
  case h_1 => exact hp.forward 2
  case h_2 =>
    split_ifs
    · exact hp.step
    · exact hp.step
    · exact hp
  case h_3 => exact hp

end Cursor

/-- The number of hexadecimal digits. -/
def hexCode (ds : List Char) : Nat := ds.foldl (fun a c => 16 * a + (hexValue? c).getD 0) 0

/-- Why a text has no value although it is written well, before its scalars are known. -/
inductive Unwritten (text : List Char) : ScalarError → Prop
  /-- An escape gives the number of no character. -/
  | escape {ds : List Char} (inside : '\\' :: 'U' :: ds <:+: text) (length : ds.length = 8)
      (digits : ds.all (hexValue? · |>.isSome) = true) (beyond : 0x110000 ≤ hexCode ds) :
      Unwritten text (.noSuchCharacter (hexCode ds))
  /-- A directive gives a version that is too long. -/
  | version {e : NumeralTooLong} (inside : e.IsIn text) : Unwritten text (.tooLong e)

variable {text : List Char}

namespace Scan

/-- The reader stays in the text, and only what is `Unwritten` stops it besides faults of form. -/
abbrev Keeps (text : List Char) {α : Type} (x : Scan α) : Prop :=
  Sheetflow.Keeps (Cursor.In text) (Error.Of (Unwritten text) False) x

@[grind ←]
theorem mark_keeps : Keeps text mark :=
  Keeps.get.bind fun _ => .pure _

@[grind ←]
theorem peek_keeps : Keeps text peek :=
  Keeps.get.bind fun _ => .pure _

@[grind ←]
theorem fail_keeps {α : Type} (context : String) (start : Mark) (problem : String) :
    Keeps text (fail context start problem : Scan α) :=
  mark_keeps.bind fun _ => .throw trivial

@[grind ←]
theorem expected_keeps {α : Type} (context : String) (start : Mark) (what : String) :
    Keeps text (expected context start what : Scan α) :=
  peek_keeps.bind fun _ => fail_keeps _ _ _

@[grind ←]
theorem forward_keeps (n : Nat) : Keeps text (forward n) :=
  .modify fun _ hp => hp.forward n

@[grind ←]
theorem takeWhile_keeps (p : Char → Bool) : Keeps text (takeWhile p) :=
  Keeps.get.bind fun _ => (forward_keeps _).bind fun _ => .pure _

@[grind ←]
theorem skipSpaces_keeps : Keeps text skipSpaces :=
  (takeWhile_keeps _).bind fun _ => .pure _

@[grind ←]
theorem skipComment_keeps : Keeps text skipComment :=
  peek_keeps.bind fun _ => .ite ((takeWhile_keeps _).bind fun _ => .pure _) (.pure _)

@[grind ←]
theorem lineBreak_keeps : Keeps text lineBreak :=
  .get_bind fun _ hp => (Keeps.set hp.lineBreak).bind fun _ => .pure _

@[grind ←]
theorem restOfLine_keeps (context : String) (start : Mark) :
    Keeps text (restOfLine context start) :=
  skipSpaces_keeps.bind fun _ => skipComment_keeps.bind fun _ => peek_keeps.bind fun _ =>
    .ite (lineBreak_keeps.bind fun _ => .pure _) (expected_keeps _ _ _)

end Scan

open Scan

/-! ### Plain scalars -/

@[grind ←]
theorem plainBreaks_keeps (fuel : Nat) : Scan.Keeps text (plainBreaks fuel) := by
  induction fuel with grind [plainBreaks]

@[grind ←]
theorem plainGap_keeps : Scan.Keeps text plainGap := by
  unfold plainGap
  refine (takeWhile_keeps _).bind fun blanks => lineBreak_keeps.bind fun first => ?_
  grind

@[grind ←]
theorem plainRest_keeps (inFlow : Bool) (indent : Int) (before : List Char) (fuel : Nat) :
    Scan.Keeps text (plainRest inFlow indent before fuel) := by
  induction fuel generalizing before with grind [plainRest]

@[grind ←]
theorem plainScalar_keeps (inFlow : Bool) (indent : Int) :
    Scan.Keeps text (plainScalar inFlow indent) :=
  Keeps.get.bind fun _ => plainRest_keeps _ _ _ _

/-! ### Quoted scalars -/

@[grind ←]
theorem hexNumber_keeps (context : String) (start : Mark) (what : String) (n : Nat) :
    Scan.Keeps text (hexNumber context start what n) :=
  Keeps.get.bind fun _ => .ite ((forward_keeps n).bind fun _ => .pure _) (fail_keeps _ _ _)

/-- The number is that of the next `n` characters, all of which are digits. -/
theorem hexNumber_run {context : String} {start : Mark} {what : String} {n code : Nat} {p q : Cursor}
    (h : (hexNumber context start what n).run p = .ok (code, q)) :
    ∃ ds, ds <+: p.rest ∧ ds.length = n ∧ ds.all (hexValue? · |>.isSome) = true ∧
      code = hexCode ds := by
  let good := (p.rest.take n).takeWhile fun c => (hexValue? c).isSome
  change (ite (good.length = n) _ _ : Scan Nat).run p = _ at h
  split at h
  case isTrue hlength =>
    have hcode : hexCode good = code := (Prod.mk.inj (Except.ok.inj h)).1
    exact ⟨good, (List.takeWhile_prefix _).trans (List.take_prefix n p.rest), hlength,
      List.all_takeWhile, hcode.symm⟩
  case isFalse => cases h

theorem hexValue?_lt {c : Char} {v : Nat} (h : hexValue? c = some v) : v < 16 := by
  have hle : ∀ {d : Char}, c ≤ d → c.toNat ≤ d.toNat := fun hd => hd
  unfold hexValue? at h
  simp only [Bool.and_eq_true, decide_eq_true_eq] at h
  split_ifs at h with hdigit hlower hupper
  all_goals cases h
  · have hmost : c.toNat ≤ 57 := hle hdigit.2
    omega
  · have hmost : c.toNat ≤ 102 := hle hlower.2
    omega
  · have hmost : c.toNat ≤ 70 := hle hupper.2
    omega

theorem hexCode_lt (ds : List Char) : hexCode ds < 16 ^ ds.length := by
  induction ds using List.reverseRecOn with
  | nil => decide
  | append_singleton ds c ih =>
    have hdigit : (hexValue? c).getD 0 < 16 := by
      cases h : hexValue? c with
      | none => decide
      | some v => exact hexValue?_lt h
    have hcode : hexCode (ds ++ [c]) = 16 * hexCode ds + (hexValue? c).getD 0 := List.foldl_concat ..
    rw [hcode, List.length_append, List.length_singleton, Nat.pow_succ]
    omega

/-- Only eight digits make up a number beyond the last character. -/
theorem codeLength?_eq_eight {c : Char} {n code : Nat} (hc : codeLength? c = some n)
    (hcode : code < 16 ^ n) (hbeyond : 0x110000 ≤ code) : n = 8 ∧ c = 'U' := by
  unfold codeLength? at hc
  split at hc
  all_goals cases hc
  case h_1 => omega
  case h_2 => omega
  case h_3 => exact ⟨rfl, rfl⟩

/-- What an escape with a number gives, behind its letter. -/
theorem charOfCode_reached {context : String} {start : Mark} {what : String} {c : Char} {n : Nat}
    {p : Cursor} (hc : codeLength? c = some n) (hp : '\\' :: c :: p.rest <:+ text) :
    Reached (Cursor.In text) (Error.Of (Unwritten text) False)
      ((do return [← charOfCode (← hexNumber context start what n)] : Scan (List Char)).run p) := by
  have hin : p.In text := ((List.suffix_cons _ _).trans (List.suffix_cons _ _)).trans hp
  refine (hexNumber_keeps context start what n p hin).bind fun code q hcode hq => ?_
  obtain ⟨ds, hprefix, hlength, hdigits, rfl⟩ := hexNumber_run hcode
  unfold charOfCode
  split
  case isTrue hbeyond =>
    have hn : n = 8 ∧ c = 'U' := codeLength?_eq_eight hc (hlength ▸ hexCode_lt ds) hbeyond
    obtain ⟨rfl, rfl⟩ := hn
    have hinside : '\\' :: 'U' :: ds <:+: text :=
      (List.prefix_cons_inj _ |>.mpr (List.prefix_cons_inj _ |>.mpr hprefix)).isInfix.trans hp.isInfix
    exact Unwritten.escape hinside hlength hdigits hbeyond
  case isFalse => exact hq

@[grind ←]
theorem quotedBreaks_keeps (start : Mark) (fuel : Nat) :
    Scan.Keeps text (quotedBreaks start fuel) := by
  induction fuel with grind [quotedBreaks]

@[grind ←]
theorem quotedGap_keeps (start : Mark) : Scan.Keeps text (quotedGap start) := by
  unfold quotedGap
  refine (takeWhile_keeps _).bind fun blanks => peek_keeps.bind fun c => ?_
  split
  · grind
  · grind

/-- What a backslash starts, behind it. -/
theorem quotedEscape_reached (start : Mark) {p : Cursor} (hp : '\\' :: p.rest <:+ text) :
    Reached (Cursor.In text) (Error.Of (Unwritten text) False) ((quotedEscape start).run p) := by
  have hin : p.In text := (List.suffix_cons _ _).trans hp
  unfold quotedEscape
  refine (peek_keeps p hin).bind fun next q hnext hq => ?_
  obtain ⟨rfl, rfl⟩ := Prod.mk.inj (Except.ok.inj hnext)
  cases hrest : p.rest with
  | nil => exact fail_keeps _ _ _ p hin
  | cons c more =>
    simp only [List.head?_cons, Option.getD_some, Option.isNone_some, Bool.false_eq_true, if_false]
    have hmore : '\\' :: c :: (p.forward 1).rest <:+ text := by
      rw [Cursor.forward_rest, hrest]
      exact hrest ▸ hp
    split
    case h_1 => exact (show Scan.Keeps text _ by grind) p hin
    case h_2 hcode => exact charOfCode_reached hcode hmore
    case h_3 => exact (show Scan.Keeps text _ by grind) p hin

@[grind ←]
theorem quotedRest_keeps (start : Mark) (double : Bool) (done : List Char) (fuel : Nat) :
    Scan.Keeps text (quotedRest start double done fuel) := by
  induction fuel generalizing done with
  | zero => exact .pure _
  | succ fuel ih =>
    unfold quotedRest
    refine .of_get fun p hp => ?_
    split
    case h_1 => exact quotedGap_keeps start p hp
    case h_2 c more hrest =>
      -- not a lemma on the escape alone: where it stands in the text shows in the backslash before it
      have hescape : c = '\\' → Reached (Cursor.In text) (Error.Of (Unwritten text) False)
          ((quotedEscape start).run (p.forward 1)) := by
        rintro rfl
        refine quotedEscape_reached start ?_
        rw [Cursor.forward_rest, hrest]
        exact hrest ▸ hp
      generalize (if double then '"' else '\'') = quote
      split_ifs with hquote htwice hgap hback
      · exact (show Scan.Keeps text _ by grind) p hp
      · exact (show Scan.Keeps text _ by grind) p hp
      · exact (show Scan.Keeps text _ by grind) p hp
      · obtain ⟨-, hc⟩ := Bool.and_eq_true_iff.mp hback
        exact (hescape (eq_of_beq hc)).bind fun cs q _ hq => ih (cs.reverse ++ done) q hq
      · exact (show Scan.Keeps text _ by grind) p hp

@[grind ←]
theorem quotedScalar_keeps : Scan.Keeps text quotedScalar :=
  Keeps.get.bind fun _ => (forward_keeps 1).bind fun _ => quotedRest_keeps _ _ _ _

/-! ### Blocks of lines -/

@[grind ←]
theorem chompingSign?_keeps : Scan.Keeps text chompingSign? := by
  unfold chompingSign?
  refine peek_keeps.bind fun c => ?_
  split
  · exact (forward_keeps 1).bind fun _ => .pure _
  · exact .pure _

@[grind ←]
theorem indentDigit?_keeps (start : Mark) : Scan.Keeps text (indentDigit? start) := by
  grind [indentDigit?]

@[grind ←]
theorem blockHead_keeps (start : Mark) : Scan.Keeps text (blockHead start) := by
  unfold blockHead
  refine chompingSign?_keeps.bind fun sign => ?_
  cases sign with
  | none =>
    refine (indentDigit?_keeps start).bind fun digit => ?_
    grind
  | some chomping => grind

@[grind ←]
theorem passIndent_keeps (indent : Nat) : Scan.Keeps text (passIndent indent) :=
  Keeps.get.bind fun _ => forward_keeps _

@[grind ←]
theorem blockBreaks_keeps (indent fuel : Nat) : Scan.Keeps text (blockBreaks indent fuel) := by
  induction fuel with grind [blockBreaks]

@[grind ←]
theorem leadingBreaks_keeps (widest fuel : Nat) : Scan.Keeps text (leadingBreaks widest fuel) := by
  induction fuel generalizing widest with grind [leadingBreaks]

@[grind ←]
theorem blockLines_keeps (folded : Bool) (indent : Nat) (before : List Char) (fuel : Nat) :
    Scan.Keeps text (blockLines folded indent before fuel) := by
  induction fuel generalizing before with
  | zero => exact .pure _
  | succ fuel ih =>
    unfold blockLines
    refine Keeps.get.bind fun p => ?_
    split
    · refine (takeWhile_keeps _).bind fun line => lineBreak_keeps.bind fun ending =>
        Keeps.get.bind fun _ => (blockBreaks_keeps _ _).bind fun more => Keeps.get.bind fun q => ?_
      grind
    · exact .pure _

@[grind ←]
theorem blockScalar_keeps (folded : Bool) (indent : Int) :
    Scan.Keeps text (blockScalar folded indent) := by
  unfold blockScalar
  refine mark_keeps.bind fun start => (forward_keeps 1).bind fun _ => (blockHead_keeps start).bind
    fun head => (restOfLine_keeps _ _).bind fun _ => Keeps.get.bind fun p => ?_
  grind

/-! ### Names, tags and directives -/

namespace Scan

@[grind ←]
theorem name_keeps (context : String) (start : Mark) : Keeps text (name context start) :=
  (takeWhile_keeps _).bind fun _ => .ite (expected_keeps _ _ _) (.pure _)

@[grind ←]
theorem anchorName_keeps (context : String) : Keeps text (anchorName context) := by
  unfold anchorName
  refine mark_keeps.bind fun start => (forward_keeps 1).bind fun _ => (name_keeps _ start).bind
    fun s => peek_keeps.bind fun next => ?_
  split
  · exact .pure s
  · exact expected_keeps _ _ _

@[grind ←]
theorem tagHandle_keeps (context : String) (start : Mark) :
    Keeps text (tagHandle context start) := by
  grind [tagHandle]

@[grind ←]
theorem percentBytes_keeps (context : String) (start : Mark) (fuel : Nat) :
    Keeps text (percentBytes context start fuel) := by
  induction fuel with grind [percentBytes]

@[grind ←]
theorem percentText_keeps (context : String) (start : Mark) :
    Keeps text (percentText context start) := by
  grind [percentText]

@[grind ←]
theorem uriRest_keeps (context : String) (start : Mark) (fuel : Nat) :
    Keeps text (uriRest context start fuel) := by
  induction fuel with grind [uriRest]

@[grind ←]
theorem uri_keeps (what : String) (start : Mark) : Keeps text (uri what start) :=
  Keeps.get.bind fun _ => (uriRest_keeps _ _ _).bind fun _ => mark_keeps.bind fun _ =>
    .ite (expected_keeps _ _ _) (.pure _)

@[grind ←]
theorem tag_keeps : Keeps text tag := by
  unfold tag
  refine mark_keeps.bind fun start => Keeps.get.bind fun p => ?_
  dsimp only
  split
  · grind
  · split_ifs <;> grind

@[grind ←]
theorem endPart_keeps (start : Mark) (what : String) : Keeps text (endPart start what) :=
  peek_keeps.bind fun _ => .ite (expected_keeps _ _ _) (.pure _)

@[grind ←]
theorem number_keeps (start : Mark) : Keeps text (number start) := by
  intro p hp
  refine (takeWhile_keeps _ p hp).bind fun ds q hds hq => ?_
  obtain ⟨rfl, -⟩ := Prod.mk.inj (Except.ok.inj hds)
  split_ifs with hnone hlong
  · exact expected_keeps _ _ _ q hq
  · have hin : p.rest.takeWhile Text.isAsciiDigit <:+: text :=
      (List.takeWhile_prefix _).isInfix.trans hp.isInfix
    exact Unwritten.version ⟨_, hin, List.all_takeWhile, hlong, rfl⟩
  · exact hq

@[grind ←]
theorem directive_keeps : Keeps text directive := by
  unfold directive
  refine mark_keeps.bind fun start => (forward_keeps 1).bind fun _ => (name_keeps _ start).bind
    fun s => (endPart_keeps start _).bind fun _ => ?_
  split_ifs
  · refine skipSpaces_keeps.bind fun _ => (number_keeps start).bind fun major => ?_
    grind
  · refine skipSpaces_keeps.bind fun _ => (tagHandle_keeps _ start).bind fun handle => ?_
    grind
  · grind

end Scan

/-! ### The lexer -/

/-- The cursor of the lexer is in the text. -/
def Lexer.In (text : List Char) (l : Lexer) : Prop := l.cursor.In text

namespace Lexer

@[grind =]
theorem in_iff {l : Lexer} : l.In text ↔ l.cursor.In text := Iff.rfl

/-- The lexer stays in the text, and is stopped by what stops readers there. -/
abbrev Keeps (text : List Char) {α : Type} (x : Lexing α) : Prop :=
  Sheetflow.Keeps (Lexer.In text) (Error.Of (Unwritten text) False) x

@[grind ←]
theorem mark_keeps : Keeps text mark :=
  Keeps.get.bind fun _ => .pure _

@[grind ←]
theorem fail_keeps {α : Type} (context : Option String) (start : Option Mark) (problem : String) :
    Keeps text (fail context start problem : Lexing α) :=
  mark_keeps.bind fun _ => .throw trivial

@[grind ←]
theorem emitFrom_keeps (start : Mark) (t : Token) : Keeps text (emitFrom start t) :=
  .modify fun _ hl => hl

@[grind ←]
theorem emit_keeps (t : Token) : Keeps text (emit t) :=
  mark_keeps.bind fun _ => emitFrom_keeps _ _

/-- The lexer moves as the cursor does. -/
@[grind ←]
theorem scan_keeps {α : Type} {s : Scan α}
    (hs : Scan.Keeps text s) :
    Keeps text (scan s) := by
  refine .of_get fun l hl => ?_
  have h := hs l.cursor hl
  cases hrun : s.run l.cursor with
  | error e =>
    rw [hrun] at h
    exact h
  | ok r =>
    rw [hrun] at h
    exact h

@[grind ←]
theorem pass_keeps (n : Nat) (t : Token) : Keeps text (pass n t) :=
  mark_keeps.bind fun _ => (scan_keeps (Scan.forward_keeps n)).bind fun _ => emitFrom_keeps _ _

@[grind ←]
theorem giveUp_keeps (isGivenUp : Nat × PendingKey → Bool) : Keeps text (giveUp isGivenUp) := by
  unfold giveUp
  refine .get_bind fun l hl => ?_
  grind

@[grind ←]
theorem dropStale_keeps : Keeps text dropStale :=
  mark_keeps.bind fun _ => giveUp_keeps _

@[grind ←]
theorem dropPending_keeps : Keeps text dropPending :=
  Keeps.get.bind fun _ => giveUp_keeps _

@[grind ←]
theorem rememberKey_keeps : Keeps text rememberKey := by
  unfold rememberKey
  refine Keeps.get.bind fun l => ?_
  split
  · refine dropPending_keeps.bind fun _ => .get_bind fun l hl => ?_
    grind
  · exact .pure _

@[grind ←]
theorem allowKey_keeps (b : Bool) : Keeps text (allowKey b) :=
  .modify fun _ hl => hl

@[grind ←]
theorem unwind_keeps (column : Int) : Keeps text (unwind column) := by
  unfold unwind
  refine .get_bind fun l hl => ?_
  grind

@[grind ←]
theorem openBlock_keeps (column : Nat) : Keeps text (openBlock column) := by
  unfold openBlock
  refine .get_bind fun l hl => ?_
  grind

@[grind ←]
theorem skipToToken_keeps (fuel : Nat) : Keeps text (skipToToken fuel) := by
  induction fuel with
  | zero => exact .pure _
  | succ fuel ih =>
    unfold skipToToken
    refine (scan_keeps skipSpaces_keeps).bind fun _ => (scan_keeps skipComment_keeps).bind fun _ =>
      (scan_keeps lineBreak_keeps).bind fun c => ?_
    grind

@[grind ←]
theorem separator_keeps (t : Token) : Keeps text (separator t) :=
  (unwind_keeps _).bind fun _ => dropPending_keeps.bind fun _ => (allowKey_keeps _).bind fun _ =>
    pass_keeps _ _

@[grind ←]
theorem directive_keeps : Keeps text directive :=
  (unwind_keeps _).bind fun _ => dropPending_keeps.bind fun _ => (allowKey_keeps _).bind fun _ =>
    mark_keeps.bind fun _ => (scan_keeps Scan.directive_keeps).bind fun _ => emitFrom_keeps _ _

@[grind ←]
theorem flowStart_keeps (t : Token) : Keeps text (flowStart t) := by
  grind [flowStart]

@[grind ←]
theorem flowEnd_keeps (t : Token) : Keeps text (flowEnd t) := by
  grind [flowEnd]

@[grind ←]
theorem flowEntry_keeps : Keeps text flowEntry :=
  (allowKey_keeps _).bind fun _ => dropPending_keeps.bind fun _ => pass_keeps _ _

@[grind ←]
theorem enterBlock_keeps (start : Token) (entries : String) :
    Keeps text (enterBlock start entries) := by
  grind [enterBlock]

@[grind ←]
theorem blockEntry_keeps : Keeps text blockEntry :=
  (enterBlock_keeps _ _).bind fun _ => (allowKey_keeps _).bind fun _ =>
    dropPending_keeps.bind fun _ => pass_keeps _ _

@[grind ←]
theorem key_keeps : Keeps text key :=
  (enterBlock_keeps _ _).bind fun _ => Keeps.get.bind fun _ => (allowKey_keeps _).bind fun _ =>
    dropPending_keeps.bind fun _ => pass_keeps _ _

@[grind ←]
theorem value_keeps : Keeps text value := by
  unfold value
  refine .get_bind fun l hl => ?_
  split
  · grind
  · grind

@[grind ←]
theorem keyable_keeps {s : Scan Token}
    (hs : Scan.Keeps text s) :
    Keeps text (keyable s) :=
  rememberKey_keeps.bind fun _ => (allowKey_keeps _).bind fun _ => mark_keeps.bind fun _ =>
    (scan_keeps hs).bind fun _ => emitFrom_keeps _ _

@[grind ←]
theorem block_keeps (folded : Bool) : Keeps text (block folded) :=
  (allowKey_keeps _).bind fun _ => dropPending_keeps.bind fun _ => mark_keeps.bind fun _ =>
    Keeps.get.bind fun _ => (scan_keeps (blockScalar_keeps _ _)).bind fun _ => emitFrom_keeps _ _

@[grind ←]
theorem plain_keeps : Keeps text plain :=
  rememberKey_keeps.bind fun _ => Keeps.get.bind fun _ =>
    (scan_keeps (plainScalar_keeps _ _)).bind fun _ => (allowKey_keeps _).bind fun _ =>
    emitFrom_keeps _ _

@[grind ←]
theorem token_keeps (c : Char) (next : Option Char) : Keeps text (token c next) := by
  unfold token
  refine Keeps.get.bind fun l => ?_
  refine .ite directive_keeps <| .ite (separator_keeps _) <| .ite (separator_keeps _) <|
    .ite (flowStart_keeps _) <| .ite (flowStart_keeps _) <| .ite (flowEnd_keeps _) <|
    .ite (flowEnd_keeps _) <| .ite flowEntry_keeps <| .ite blockEntry_keeps <| .ite key_keeps <|
    .ite value_keeps <| .ite (keyable_keeps ?_) <| .ite (keyable_keeps ?_) <|
    .ite (keyable_keeps tag_keeps) <| .ite (block_keeps _) <| .ite (block_keeps _) <|
    .ite (keyable_keeps ?_) <| .ite plain_keeps (fail_keeps _ _ _)
  · exact (anchorName_keeps _).bind fun _ => .pure _
  · exact (anchorName_keeps _).bind fun _ => .pure _
  · exact quotedScalar_keeps.bind fun _ => .pure _

theorem next_keeps : Keeps text next := by
  unfold next
  refine Keeps.get.bind fun l => (skipToToken_keeps _).bind fun _ => dropStale_keeps.bind fun _ => ?_
  grind

end Lexer

/-! ### The tokens of a text -/

/-- If the tokens end in an error, it is of the kind that `P` allows. -/
def Composing.EndsIn (P : ScalarError → Prop) (deep : Prop) (s : Composing) : Prop :=
  ∀ e, s.rest.ending = .error e → e.Of P deep

namespace Compose

variable {P : ScalarError → Prop} {deep : Prop}

@[grind =]
theorem endsIn_iff {s : Composing} :
    s.EndsIn P deep ↔ ∀ e, s.rest.ending = .error e → e.Of P deep := Iff.rfl

/-- The composer is stopped by faults of form, by the end of the tokens, by want of room if `deep`, and
by nothing else. -/
abbrev Keeps (P : ScalarError → Prop) (deep : Prop) {α : Type} (x : Compose α) : Prop :=
  Sheetflow.Keeps (Composing.EndsIn P deep) (Error.Of P deep) x

@[grind ←]
theorem next_keeps : Keeps P deep next := by
  unfold next
  refine .get_bind fun s hs => ?_
  grind

@[grind ←]
theorem peek_keeps : Keeps P deep peek :=
  next_keeps.bind fun _ => .pure _

@[grind ←]
theorem mark_keeps : Keeps P deep mark := by
  unfold mark
  refine .get_bind fun s hs => ?_
  grind

@[grind ←]
theorem skip_keeps : Keeps P deep skip :=
  .modify fun _ hs => hs

@[grind ←]
theorem pass?_keeps (t : Token) : Keeps P deep (pass? t) := by
  grind [pass?]

@[grind ←]
theorem pass_keeps (t : Token) : Keeps P deep (pass t) :=
  (pass?_keeps t).bind fun _ => .pure _

@[grind ←]
theorem isNext_keeps (ts : List Token) : Keeps P deep (isNext ts) :=
  peek_keeps.bind fun _ => .pure _

@[grind ←]
theorem failAt_keeps {α : Type} (context : Option String) (start : Option Mark) (problem : String)
    (m : Mark) :
    Keeps P deep (failAt context start problem m : Compose α) :=
  .throw trivial

@[grind ←]
theorem shownNext_keeps : Keeps P deep shownNext :=
  peek_keeps.bind fun _ => .pure _

@[grind ←]
theorem unexpected_keeps {α : Type} (context : Option String) (start : Option Mark)
    (problem : String) :
    Keeps P deep (unexpected context start problem : Compose α) :=
  shownNext_keeps.bind fun _ => mark_keeps.bind fun _ => failAt_keeps _ _ _ _

@[grind ←]
theorem resolve_keeps (start : Mark) (handle : Option String) (suffix : String) (m : Mark) :
    Keeps P deep (resolve start handle suffix m) := by
  cases handle with grind [resolve]

@[grind ←]
theorem give_keeps (name : Option String) (m : Mark) : Keeps P deep (give name m) := by
  cases name with
  | none => exact .pure _
  | some a =>
    unfold give
    refine .get_bind fun s hs => ?_
    grind

@[grind ←]
theorem keep_keeps (name : Option String) (n : Node) : Keeps P deep (keep name n) := by
  cases name with grind [keep]

@[grind ←]
theorem referred_keeps (a : String) (m : Mark) : Keeps P deep (referred a m) := by
  grind [referred]

@[grind ←]
theorem scalar_keeps (p : Properties) (m : Mark) (text : String) (plain : Bool) :
    Keeps P deep (scalar p m text plain) :=
  (give_keeps _ _).bind fun _ => keep_keeps _ _

@[grind ←]
theorem directives_keeps (versioned : Bool) (handles : List (String × String)) (fuel : Nat) :
    Keeps P deep (directives versioned handles fuel) := by
  induction fuel generalizing versioned handles with
  | zero => exact .pure _
  | succ fuel ih =>
    unfold directives
    refine next_keeps.bind fun t => ?_
    split <;> grind

@[grind ←]
theorem skipEnds_keeps (fuel : Nat) : Keeps P deep (skipEnds fuel) := by
  induction fuel with grind [skipEnds]

@[grind ←]
theorem head_keeps (fuel : Nat) : Keeps P deep (head fuel) := by
  grind [head]

@[grind ←]
theorem finish_keeps (n : Node) (fuel : Nat) : Keeps P deep (finish n fuel) := by
  grind [finish]

end Compose

end Sheetflow.Yaml
