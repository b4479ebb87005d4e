/-
# Farm tokens

A farm token is the text of its payload and a signature over that text, both in
base64 and joined by a dot.  The farm's verifier splits at the first dot, decodes
both parts, checks the signature before it looks at the payload, and then compares
the expiry with the clock and the named key with its own.

How a payload is spelled in JSON is left to the library; what the reader makes of a
document is the repository's.
-/

import Voxply.Hub.AuthUser
import Voxply.Math.Base64
import Voxply.Math.Json

namespace Voxply.Farm

open Voxply.Math Voxply.Identity
open Voxply.Hub (splitDot isFarmToken)

/-! ## Payloads -/

structure FarmTokenPayload where
  v : UInt8
  iss : String
  issPk : String
  sub : String
  master : Option String
  jti : String
  iat : Int64
  exp : Int64
  scope : String
  deriving DecidableEq

namespace FarmTokenPayload

/-- The document of a payload, in the order of its fields. -/
def toJson (payload : FarmTokenPayload) : Json :=
  .object [
    (some "v", .int payload.v.toNat),
    (some "iss", .string (some payload.iss)),
    (some "iss_pk", .string (some payload.issPk)),
    (some "sub", .string (some payload.sub)),
    (some "master", .ofTextOption payload.master),
    (some "jti", .string (some payload.jti)),
    (some "iat", .int payload.iat.toInt),
    (some "exp", .int payload.exp.toInt),
    (some "scope", .string (some payload.scope))]

def ofMembers (members : Members) : Option FarmTokenPayload :=
  if Json.keysValid members then do
    let v ← Json.required members "v" Json.asUInt8
    let iss ← Json.required members "iss" Json.asText
    let issPk ← Json.required members "iss_pk" Json.asText
    let sub ← Json.required members "sub" Json.asText
    let master ← Json.optional members "master" Json.asText
    let jti ← Json.required members "jti" Json.asText
    let iat ← Json.required members "iat" Json.asInt64
    let exp ← Json.required members "exp" Json.asInt64
    let scope ← Json.required members "scope" Json.asText
    pure ⟨v, iss, issPk, sub, master, jti, iat, exp, scope⟩
  else none

/-- The derived reader. -/
def ofJson : Json → Option FarmTokenPayload
  | .object members => ofMembers members
  | .array [v, iss, issPk, sub, master, jti, iat, exp, scope] => do
      let v ← v.asUInt8
      let iss ← iss.asText
      let issPk ← issPk.asText
      let sub ← sub.asText
      let master ← master.nullable Json.asText
      let jti ← jti.asText
      let iat ← iat.asInt64
      let exp ← exp.asInt64
      let scope ← scope.asText
      pure ⟨v, iss, issPk, sub, master, jti, iat, exp, scope⟩
  | _ => none

@[simp]
theorem ofJson_toJson (payload : FarmTokenPayload) : ofJson payload.toJson = some payload := by
  simp [toJson, ofJson, ofMembers, Json.keysValid, Json.required, Json.optional, Json.valuesOf]

end FarmTokenPayload

/-- How the JSON library writes a payload and what it makes of a text. -/
structure TokenJson where
  write : FarmTokenPayload → List UInt8
  read : List UInt8 → Option Json

/-- Reading undoes writing. -/
def TokenJson.RoundTrips (json : TokenJson) (payload : FarmTokenPayload) : Prop :=
  json.read (json.write payload) = some payload.toJson

/-- The library as far as recorded texts tell. -/
def TokenJson.ofRecorded (texts : List (FarmTokenPayload × String)) : TokenJson where
  write payload := ((texts.find? (·.1 = payload)).map fun entry => asBytes entry.2).getD []
  read bytes := (texts.find? fun entry => asBytes entry.2 = bytes).map fun entry => entry.1.toJson

/-! ## Signing -/

/-- Base64 as text. -/
def base64Text (bytes : List UInt8) : String :=
  String.ofList ((Base64.encode bytes).map fun c => Char.ofNat c.toNat)

def signToken (E : Ed25519) (json : TokenJson) (keypair : List UInt8)
    (payload : FarmTokenPayload) : String :=
  base64Text (json.write payload) ++ "." ++ base64Text (E.sign keypair (json.write payload))

/-- The key of a keypair, in lower-case digits. -/
def publicKeyHex (E : Ed25519) (keypair : List UInt8) : String :=
  hexEncode (E.publicKey keypair)

/-! ## Verifying -/

/-- The curve checks of `verify_token`. -/
def verifyTokenSignature (E : Ed25519) (farmPubkeyHex : String)
    (payloadBytes sigBytes : List UInt8) : Except String Unit :=
  match hexDecode farmPubkeyHex with
  | none => .error "Invalid farm pubkey hex"
  | some pubArray =>
      if pubArray.length ≠ 32 then .error "Farm pubkey must be 32 bytes"
      else if ¬ E.fromBytes pubArray then .error "Invalid farm pubkey"
      else if sigBytes.length ≠ 64 then .error "Signature must be 64 bytes"
      else if ¬ E.verify pubArray payloadBytes sigBytes then
        .error "Token signature verification failed"
      else .ok ()

def verifyToken (E : Ed25519) (json : TokenJson) (now : Int) (farmPubkeyHex tokenStr : String) :
    Except String FarmTokenPayload :=
  match splitDot tokenStr with
  | none => .error "Token missing '.' separator"
  | some (payloadB64, sigB64) =>
      match Base64.decode payloadB64, Base64.decode sigB64 with
      | none, _ => .error "Invalid base64url in token payload"
      | some _, none => .error "Invalid base64url in token signature"
      | some payloadBytes, some sigBytes =>
          match verifyTokenSignature E farmPubkeyHex payloadBytes sigBytes with
          | .error e => .error e
          | .ok () =>
              match (json.read payloadBytes).bind FarmTokenPayload.ofJson with
              | none => .error "Failed to deserialise token payload"
              | some payload =>
                  if now ≥ payload.exp.toInt then .error "Token has expired"
                  else if payload.issPk ≠ farmPubkeyHex then
                    .error "Token iss_pk does not match cached farm pubkey"
                  else .ok payload

/-! ## Text -/

theorem utf8EncodeChar_ofNat {c : UInt8} (h : c < 128) :
    String.utf8EncodeChar (Char.ofNat c.toNat) = [c] := by
  have hall : ∀ n : Fin 128, String.utf8EncodeChar (Char.ofNat n) = [UInt8.ofNat n] := by decide
  have hlt : c.toNat < 128 := h
  have hchar := hall ⟨c.toNat, hlt⟩
  simpa using hchar

theorem asBytes_append (s t : String) : asBytes (s ++ t) = asBytes s ++ asBytes t := by
  simp [asBytes]

@[simp]
theorem asBytes_base64Text (bytes : List UInt8) : asBytes (base64Text bytes) =
    Base64.encode bytes := by
  rw [base64Text, asBytes_ofList, List.flatMap_map]
  have hsingle : ∀ c ∈ Base64.encode bytes, String.utf8EncodeChar (Char.ofNat c.toNat) = [c] :=
    fun c hc => utf8EncodeChar_ofNat ((Base64.printed_encode bytes).lt_128 hc)
  rw [List.flatMap_congr hsingle, List.flatMap_singleton']

/-- Two parts in base64 as a text that is quickly evaluated. -/
theorem dotted_eq_plainText (first second : List UInt8) :
    base64Text first ++ "." ++ base64Text second =
      plainText (((Base64.encode first).map fun c => Char.ofNat c.toNat) ++ ['.'] ++
        (Base64.encode second).map fun c => Char.ofNat c.toNat) := by
  rw [base64Text, base64Text, ofList_eq_plainText, ofList_eq_plainText,
    eq_plainText (rfl : "." = String.ofList ['.']), plainText_append, plainText_append]

theorem dot_not_mem {text : List UInt8} (h : Base64.Printed text) : 46 ∉ text :=
  h.not_mem (by decide) (by decide)

theorem asBytes_signToken (E : Ed25519) (json : TokenJson) (keypair : List UInt8)
    (payload : FarmTokenPayload) : asBytes (signToken E json keypair payload) =
      Base64.encode (json.write payload) ++
        46 :: Base64.encode (E.sign keypair (json.write payload)) := by
  have hdot : asBytes "." = [46] := by decide
  rw [signToken, asBytes_append, asBytes_append, asBytes_base64Text, asBytes_base64Text, hdot,
    List.append_assoc, List.singleton_append]

/-- Where a text splits whose first part has no dot. -/
theorem splitDot_of_asBytes {token : String} {first second : List UInt8} (hfirst : 46 ∉ first)
    (htoken : asBytes token = first ++ 46 :: second) : splitDot token = some (first, second) := by
  have hspan : (first ++ 46 :: second).span (· ≠ 46) = (first, 46 :: second) := by
    rw [List.span_eq_takeWhile_dropWhile, List.takeWhile_append_of_pos,
      List.dropWhile_append_of_pos]
    · simp
    · simpa using fun c hc => ne_of_mem_of_not_mem hc hfirst
    · simpa using fun c hc => ne_of_mem_of_not_mem hc hfirst
  rw [splitDot, htoken, hspan]

@[simp]
theorem splitDot_signToken (E : Ed25519) (json : TokenJson) (keypair : List UInt8)
    (payload : FarmTokenPayload) : splitDot (signToken E json keypair payload) =
      some (Base64.encode (json.write payload),
        Base64.encode (E.sign keypair (json.write payload))) :=
  splitDot_of_asBytes (dot_not_mem (Base64.printed_encode _)) (asBytes_signToken E json keypair
    payload)

end Voxply.Farm
