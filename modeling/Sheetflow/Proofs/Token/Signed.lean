import Sheetflow.Proofs.Document.Json
import Sheetflow.Proofs.Text.Base64
import Sheetflow.Token.Basic

/-!
# Signed tokens are accepted

A token that was signed is taken apart into the parts it was made of, because points occur between
them only (`split?_joined`).  So its payload is what was signed (`payload_sign`), and verification comes
to a look at the claims (`verify_sign`).
-/

namespace Sheetflow.Token

/-! ### Parts -/

theorem takeWhile_ne_point {cs : List Char} (h : '.' ∉ cs) (rest : List Char) :
    (cs ++ '.' :: rest).takeWhile (· ≠ '.') = cs := by
  have hne : ∀ c ∈ cs, decide (c ≠ '.') = true := by
    intro c hc
    exact decide_eq_true fun hp => h (hp ▸ hc)
  rw [List.takeWhile_append_of_pos hne, List.takeWhile_cons, if_neg (by simp), List.append_nil]

theorem split?_joined {header payload signature : List Char} (hheader : '.' ∉ header)
    (hsignature : '.' ∉ signature) :
    split? (header ++ '.' :: payload ++ '.' :: signature) = some ⟨header, payload, signature⟩ := by
  have hreverse : (header ++ '.' :: payload ++ '.' :: signature).reverse =
      signature.reverse ++ '.' :: (header ++ '.' :: payload).reverse := by simp
  have hlast : ((header ++ '.' :: payload ++ '.' :: signature).reverse.takeWhile
      (· ≠ '.')).reverse = signature := by
    rw [hreverse, takeWhile_ne_point (by simpa using hsignature), List.reverse_reverse]
  have hbody : (header ++ '.' :: payload ++ '.' :: signature).take
      ((header ++ '.' :: payload ++ '.' :: signature).length - signature.length - 1) =
        header ++ '.' :: payload := by
    refine List.take_left' ?_
    simp only [List.length_append, List.length_cons]
    omega
  unfold split?
  simp only [hlast, hbody, takeWhile_ne_point hheader]
  rw [if_pos]
  · rw [List.drop_append]
    simp
  · simp only [List.length_append, List.length_cons, Bool.and_eq_true, decide_eq_true_eq]
    omega

theorem notMem_point (bs : Bytes) : '.' ∉ (Text.Base64.encodeForUrl bs).toList :=
  Text.Base64.notMem_encodeForUrl (by decide) bs

/-- A signed token as it is taken apart. -/
theorem toList_sign (a : Algorithm) (secret : String) (v : Value) :
    (sign a secret v).toList = (signedPart a.name v).toList ++
      '.' :: (Text.Base64.encodeForUrl (a.signature secret (signedPart a.name v).toList)).toList := by
  simp [sign, String.toList_append]

theorem toList_signedPart (name : String) (v : Value) :
    (signedPart name v).toList =
      (Text.Base64.encodeForUrl (textBytes (Json.write
        (.record [("alg", .str name), ("typ", .str "JWT")])))).toList ++
        '.' :: (Text.Base64.encodeForUrl (textBytes (Json.write v))).toList := by
  simp [signedPart, String.toList_append]

/-- A token is one segment of a path. -/
theorem slash_notMem_sign (a : Algorithm) (secret : String) (v : Value) :
    '/' ∉ (sign a secret v).toList := by
  have hpart (bs : Bytes) : '/' ∉ (Text.Base64.encodeForUrl bs).toList :=
    Text.Base64.notMem_encodeForUrl (by decide) bs
  rw [toList_sign, toList_signedPart]
  simp only [List.mem_append, List.mem_cons, hpart, or_false, false_or, not_or]
  decide

theorem sign_ne_empty (a : Algorithm) (secret : String) (v : Value) : sign a secret v ≠ "" := by
  intro h
  have hlist := congrArg String.toList h
  rw [toList_sign] at hlist
  exact absurd hlist (by simp)

/-! ### Payloads -/

variable [Host]

/-- **A map is read from its text.** -/
theorem readMap_write (refusal : String → Error) {v : Value} (hv : Json.Plain Host.jsonRoom v)
    (hmap : v.isMap = true) : readMap refusal (textBytes (Json.write v)) = .ok v := by
  obtain ⟨c, cs, hcs, -, -, hmark⟩ := Json.exists_head_text hv
  have hfirst : (Json.write v).toList.head? ≠ some '\uFEFF' := by
    rw [show (Json.write v).toList = c :: cs from hcs]
    exact fun h => hmark (Option.some.inj h)
  unfold readMap textBytes
  rw [Text.Utf8.decodeMarked_encode hfirst]
  simp only [Json.read_write hv, hmap, if_true]

/-- There is room for a map of scalars. -/
theorem plain_record {es : List (String × Value)} (distinct : (es.map Prod.fst).Nodup)
    (h : ∀ e ∈ es, Json.Plain 0 e.2) : Json.Plain Host.jsonRoom (.record es) :=
  (Json.Plain.record distinct h).mono Host.jsonRoom_pos

theorem plain_header (name : String) :
    Json.Plain Host.jsonRoom (.record [("alg", .str name), ("typ", .str "JWT")]) := by
  refine plain_record (show ["alg", "typ"].Nodup by decide) fun e he => ?_
  rcases List.mem_pair.mp he with rfl | rfl <;> exact .str _

/-- **The payload of a signed token is what was signed.** -/
theorem payload_sign (a : Algorithm) (secret : String) {v : Value}
    (hv : Json.Plain Host.jsonRoom v) (hmap : v.isMap = true) :
    payload a secret (sign a secret v).toList = .ok v := by
  have hheader : readMap .headerText (textBytes (Json.write
      (.record [("alg", .str a.name), ("typ", .str "JWT")]))) = .ok _ :=
    readMap_write _ (plain_header a.name) rfl
  have halgorithm : checkAlgorithm a (.record [("alg", .str a.name), ("typ", .str "JWT")]) = .ok () :=
    if_pos rfl
  unfold payload
  rw [toList_sign, toList_signedPart, split?_joined (notMem_point _) (notMem_point _)]
  simp only [Text.Base64.decodeUrl?_encodeForUrl, hheader, halgorithm, readMap_write _ hv hmap, if_true]

/-- **A signed token is accepted if its claims are.** -/
theorem verify_sign (a : Algorithm) (secret : String) (required : List String) {v : Value}
    (hv : Json.Plain Host.jsonRoom v) (hmap : v.isMap = true) (now : Int) :
    verify a secret required (sign a secret v).toList now =
      (checkClaims required v now).map fun _ => v := by
  unfold verify
  rw [payload_sign a secret hv hmap]
  show (checkClaims required v now >>= fun _ => pure v) = _
  cases checkClaims required v now <;> rfl

end Sheetflow.Token
