import Sheetflow.Proofs.Service.Exec
import Sheetflow.Proofs.Time.Instant
import Sheetflow.Proofs.Token.Signed
import Sheetflow.Service.Outputs

/-!
# Links to outputs

A link carries a signed token with the reference and the second at which it expires.  The token is
taken for this reference until that second, and is refused from then on (`Outputs.exec_verify`).
-/

namespace Sheetflow

open Service

namespace Outputs

/-- The moment at which a link expires that is made now, and the second of it. -/
def expiry (t : DateTime) (lifetime : Int) : Int :=
  Int.tdiv (later t lifetime).toInstant microsPerSecond

/-- The token of a link that is made at a time. -/
def tokenAt (s : Settings) (ref : String) (lifetime : Int) (t : DateTime) : String :=
  Token.sign s.algorithm s.secret (claims ref (later t lifetime))

/-- The link to an output that is made at a time. -/
def linkAt (s : Settings) (ref : String) (lifetime : Int) (t : DateTime) : Link :=
  ⟨dropSlashes s.downloadBase ++ "/" ++ tokenAt s ref lifetime t, later t lifetime⟩

theorem exec_link (s : Settings) (ref : String) (lifetime : Int) (w : World) :
    exec (link s ref lifetime) w = (w, .ok (linkAt s ref lifetime w.time)) := rfl

/-- The second of a moment in range is not too long to be written. -/
theorem isWritable_expiry {t : DateTime} {lifetime : Int}
    (h : DateTime.InRange (t.toInstant + lifetime * microsPerSecond)) :
    isWritable (expiry t lifetime).natAbs = true := by
  have hseconds (i : Int) (hfirst : -62135596800000000 ≤ i) (hlast : i ≤ 253402300799999999) :
      i.natAbs / 1000000 < 10 ^ 13 := by omega
  have hinstant : (later t lifetime).toInstant = t.toInstant + lifetime * microsPerSecond :=
    DateTime.toInstant_ofInstant h.1
  have hsmall : (expiry t lifetime).natAbs < 10 ^ 13 := by
    rw [expiry, hinstant, Int.natAbs_tdiv]
    exact hseconds _ h.1 h.2
  have hlength := (Nat.length_toDigits_le_iff (show 1 < 10 by decide) (show 0 < 13 by decide)).mpr hsmall
  exact decide_eq_true (Nat.le_trans hlength (by decide))

/-- What is looked at are the reference and the second. -/
theorem checkClaims_claims (ref : String) (t : DateTime) (lifetime now : Int) :
    Token.checkClaims ["exp", "ref"] (claims ref (later t lifetime)) now =
      if expiry t lifetime * 1000000 ≤ now then .error .expired else .ok () := by
  have hexpired : Token.checkTime (claims ref (later t lifetime)) "exp"
      "Expiration Time claim (exp)" .expired (fun t => t * 1000000 ≤ now) =
        if expiry t lifetime * 1000000 ≤ now then .error .expired else .ok () := by
    show (if decide (expiry t lifetime * 1000000 ≤ now) = true then _ else _) = _
    simp only [decide_eq_true_eq]
  unfold Token.checkClaims
  rw [hexpired]
  split <;> rfl

variable [Host]

theorem plain_claims {ref : String} {t : DateTime} {lifetime : Int}
    (h : DateTime.InRange (t.toInstant + lifetime * microsPerSecond)) :
    Json.Plain Host.jsonRoom (claims ref (later t lifetime)) := by
  refine Token.plain_record (show ["ref", "exp"].Nodup by decide) fun e he => ?_
  rcases List.mem_pair.mp he with rfl | rfl
  · exact .str ref
  · exact .int (isWritable_expiry h)

/-- **The token of a link is taken for its reference until it expires.** -/
theorem refOfToken_tokenAt (s : Settings) (ref : String) {lifetime : Int} {t : DateTime}
    (h : DateTime.InRange (t.toInstant + lifetime * microsPerSecond)) (now : DateTime) :
    refOfToken s (tokenAt s ref lifetime t) now =
      if expiry t lifetime * 1000000 ≤ now.toInstant then .error (.storage .linkExpired)
      else .ok ref := by
  unfold refOfToken tokenAt
  rw [Token.verify_sign s.algorithm s.secret ["exp", "ref"] (plain_claims h) rfl,
    checkClaims_claims ref t lifetime now.toInstant]
  by_cases hexpired : expiry t lifetime * 1000000 ≤ now.toInstant
  · rw [if_pos hexpired, if_pos hexpired]
    rfl
  · rw [if_neg hexpired, if_neg hexpired]
    rfl

theorem exec_verify (s : Settings) (ref : String) {lifetime : Int} {t : DateTime}
    (h : DateTime.InRange (t.toInstant + lifetime * microsPerSecond)) {w : World}
    (hw : DateTime.first ≤ w.clock) :
    exec (verify s (tokenAt s ref lifetime t)) w =
      (w, if expiry t lifetime * 1000000 ≤ w.clock then .error (.storage .linkExpired)
        else .ok ref) := by
  have hclock : w.time.toInstant = w.clock := DateTime.toInstant_ofInstant hw
  have href := refOfToken_tokenAt s ref h w.time
  rw [hclock] at href
  rw [← href]
  rfl

end Outputs

end Sheetflow
