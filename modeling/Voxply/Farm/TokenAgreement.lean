/-
# One signer, two verifiers

The farm signs the tokens, and both the farm and its hubs verify them: the hub with a
record of its own that has only three of the fields.  On documents that are objects
the hub accepts whatever the farm accepts, for the same user, and what the farm signs
gets the same verdict from both.  No accepted token has a second dot, so a hub never
takes one for a token of its own.
-/

import Voxply.Farm.Token

namespace Voxply.Farm

open Voxply.Math Voxply.Identity
open Voxply.Hub (Crates splitDot isFarmToken tryVerifyFarmToken authUser bearerToken farmIdentity
  farmAdmission)

/-! ## The hub's reader -/

/-- The derived reader of the hub's record, with the fields in its order. -/
def hubPayloadOfJson : Json → Option Hub.FarmTokenPayload
  | .object members =>
      if Json.keysValid members then do
        let exp ← Json.required members "exp" Json.asInt64
        let issPk ← Json.required members "iss_pk" Json.asText
        let sub ← Json.required members "sub" Json.asText
        pure ⟨exp.toInt, issPk, sub⟩
      else none
  | .array [exp, issPk, sub] => do
      let exp ← exp.asInt64
      let issPk ← issPk.asText
      let sub ← sub.asText
      pure ⟨exp.toInt, issPk, sub⟩
  | _ => none

/-- A hub whose base64 and JSON libraries are those of the farm. -/
def hubCrates (lib : Crates) (json : TokenJson) : Crates :=
  { lib with
    base64Decode := Base64.decode
    readFarmTokenPayload := fun bytes => (json.read bytes).bind hubPayloadOfJson }

/-- The hub's part of a payload. -/
def FarmTokenPayload.forHub (payload : FarmTokenPayload) : Hub.FarmTokenPayload :=
  ⟨payload.exp.toInt, payload.issPk, payload.sub⟩

/-- What the farm reads from an object, the hub reads as well. -/
theorem hubPayloadOfJson_object {members : Members} {payload : FarmTokenPayload}
    (h : FarmTokenPayload.ofJson (.object members) = some payload) :
    hubPayloadOfJson (.object members) = some payload.forHub := by
  rw [FarmTokenPayload.ofJson, FarmTokenPayload.ofMembers] at h
  split_ifs at h with hkeys
  simp only [Option.bind_eq_bind, Option.bind_eq_some_iff, Option.pure_def, Option.some.injEq] at h
  obtain ⟨v, -, iss, -, issPk, hissPk, sub, hsub, master, -, jti, -, iat, -, exp, hexp, scope, -,
    rfl⟩ := h
  simp [hubPayloadOfJson, hkeys, hissPk, hsub, hexp, FarmTokenPayload.forHub]

/-! ## What acceptance means -/

section Acceptance

variable {E : Ed25519} {lib : Crates} {json : TokenJson} {now : Int} {pk token : String}

/-- The two sides check signatures alike. -/
theorem verifyTokenSignature_eq_ok_iff {payloadBytes sigBytes : List UInt8} :
    verifyTokenSignature E pk payloadBytes sigBytes = .ok () ↔
      verifySignature E pk payloadBytes sigBytes = .ok () := by
  unfold verifyTokenSignature verifySignature
  cases hexDecode pk with
  | none => simp
  | some pubArray =>
      dsimp only
      split_ifs <;> simp

/-- A token with its two parts decoded and its signature checked. -/
structure Opened (E : Ed25519) (pk token : String) (payloadB64 sigB64 payloadBytes : List UInt8) :
    Prop where
  split : splitDot token = some (payloadB64, sigB64)
  payload : Base64.decode payloadB64 = some payloadBytes
  signed : ∃ sigBytes, Base64.decode sigB64 = some sigBytes ∧
    verifySignature E pk payloadBytes sigBytes = .ok ()

theorem verifyToken_eq_ok_iff {payload : FarmTokenPayload} :
    verifyToken E json now pk token = .ok payload ↔
      ∃ payloadB64 sigB64 payloadBytes, Opened E pk token payloadB64 sigB64 payloadBytes ∧
        (json.read payloadBytes).bind FarmTokenPayload.ofJson = some payload ∧
        now < payload.exp.toInt ∧ payload.issPk = pk := by
  constructor
  · intro h
    unfold verifyToken at h
    split at h
    · cases h
    · rename_i payloadB64 sigB64 hsplit
      split at h
      · cases h
      · cases h
      · rename_i payloadBytes sigBytes hpayload hsig
        split at h
        · cases h
        · rename_i hverify
          split at h
          · cases h
          · rename_i found hread
            split_ifs at h with hexp hkey
            cases h
            exact ⟨payloadB64, sigB64, payloadBytes,
              ⟨hsplit, hpayload, sigBytes, hsig, verifyTokenSignature_eq_ok_iff.mp hverify⟩, hread,
              not_le.mp hexp, not_not.mp hkey⟩
  · rintro ⟨payloadB64, sigB64, payloadBytes, ⟨hsplit, hpayload, sigBytes, hsig, hverify⟩, hread,
      hexp, hkey⟩
    simp [verifyToken, hsplit, hpayload, hsig, verifyTokenSignature_eq_ok_iff.mpr hverify, hread,
      not_le.mpr hexp, hkey]

theorem tryVerifyFarmToken_eq_ok_iff {sub : String} :
    tryVerifyFarmToken (hubCrates lib json) now pk token = .ok sub ↔
      ∃ payloadB64 sigB64 payloadBytes,
        Opened lib.ed25519 pk token payloadB64 sigB64 payloadBytes ∧
        ∃ payload : Hub.FarmTokenPayload,
          (json.read payloadBytes).bind hubPayloadOfJson = some payload ∧
          now < payload.exp ∧ payload.issPk = pk ∧ payload.sub = sub := by
  constructor
  · intro h
    unfold tryVerifyFarmToken at h
    split at h
    · cases h
    · rename_i payloadB64 sigB64 hsplit
      split at h
      · cases h
      · cases h
      · rename_i payloadBytes sigBytes hpayload hsig
        split at h
        · cases h
        · rename_i hverify
          split at h
          · cases h
          · rename_i found hread
            split_ifs at h with hexp hkey
            exact ⟨payloadB64, sigB64, payloadBytes, ⟨hsplit, hpayload, sigBytes, hsig, hverify⟩,
              found, hread, not_le.mp hexp, not_not.mp hkey, Except.ok.inj h⟩
  · rintro ⟨payloadB64, sigB64, payloadBytes, ⟨hsplit, hpayload, sigBytes, hsig, hverify⟩, payload,
      hread, hexp, hkey, hsub⟩
    simp [tryVerifyFarmToken, hubCrates, hsplit, hpayload, hsig, hverify, hread, not_le.mpr hexp,
      hkey, hsub]

/-- The text of a token that splits. -/
theorem asBytes_of_splitDot {first second : List UInt8}
    (h : splitDot token = some (first, second)) : asBytes token = first ++ 46 :: second := by
  unfold splitDot at h
  split at h
  · rename_i payload dot signature hspan
    have hdot : dot = 46 := by
      have hdrop : (asBytes token).dropWhile (· ≠ 46) = dot :: signature := by
        rw [List.span_eq_takeWhile_dropWhile] at hspan
        exact (Prod.mk.inj hspan).2
      have hne : (asBytes token).dropWhile (· ≠ 46) ≠ [] := by
        rw [hdrop]
        exact List.cons_ne_nil dot signature
      have hhead := List.head_dropWhile_not (· ≠ (46 : UInt8)) hne
      simp only [hdrop, List.head_cons] at hhead
      simpa using hhead
    rw [List.span_eq_takeWhile_dropWhile] at hspan
    obtain ⟨htake, hdrop⟩ := Prod.mk.inj hspan
    cases h
    rw [← List.takeWhile_append_dropWhile (p := (· ≠ 46)) (l := asBytes token), htake, hdrop, hdot]
  · cases h

/-- A token that opens has one dot. -/
theorem Opened.count_dot {payloadB64 sigB64 payloadBytes : List UInt8}
    (h : Opened E pk token payloadB64 sigB64 payloadBytes) : (asBytes token).count 46 = 1 := by
  obtain ⟨sigBytes, hsig, -⟩ := h.signed
  have hfirst := dot_not_mem (Base64.printed_of_decode h.payload)
  have hsecond := dot_not_mem (Base64.printed_of_decode hsig)
  rw [asBytes_of_splitDot h.split, List.count_append, List.count_cons_self,
    List.count_eq_zero.mpr hfirst, List.count_eq_zero.mpr hsecond]

end Acceptance

/-! ## Agreement -/

/-- The payload of a token is an object. -/
def CarriesObject (json : TokenJson) (token : String) : Prop :=
  ∃ payloadB64 sigB64 payloadBytes members, splitDot token = some (payloadB64, sigB64) ∧
    Base64.decode payloadB64 = some payloadBytes ∧ json.read payloadBytes = some (.object members)

/-- The farm's signer and the two verifiers agree. -/
structure TokensAgree (lib : Crates) (json : TokenJson) : Prop where
  /-- A signed payload comes back, until it expires and under the key that it names. -/
  roundTrip : ∀ keypair payload now, lib.ed25519.Binds keypair (json.write payload) →
    json.RoundTrips payload →
      if now < payload.exp.toInt ∧ payload.issPk = publicKeyHex lib.ed25519 keypair then
        verifyToken lib.ed25519 json now (publicKeyHex lib.ed25519 keypair)
          (signToken lib.ed25519 json keypair payload) = .ok payload
      else
        ∃ e, verifyToken lib.ed25519 json now (publicKeyHex lib.ed25519 keypair)
          (signToken lib.ed25519 json keypair payload) = .error e
  /-- The hub accepts what the farm accepts. -/
  accepted : ∀ token pk now payload, CarriesObject json token →
    verifyToken lib.ed25519 json now pk token = .ok payload →
      tryVerifyFarmToken (hubCrates lib json) now pk token = .ok payload.sub
  /-- Of what the farm has signed they think alike, under any key. -/
  verdict : ∀ keypair payload now pk, json.RoundTrips payload →
    ((∃ found, verifyToken lib.ed25519 json now pk
        (signToken lib.ed25519 json keypair payload) = .ok found) ↔
      ∃ sub, tryVerifyFarmToken (hubCrates lib json) now pk
        (signToken lib.ed25519 json keypair payload) = .ok sub)
  /-- An accepted token has one dot and takes the way of the farm tokens. -/
  dispatch : ∀ token pk now,
    ((∃ payload, verifyToken lib.ed25519 json now pk token = .ok payload) ∨
      ∃ sub, tryVerifyFarmToken (hubCrates lib json) now pk token = .ok sub) →
      (asBytes token).count 46 = 1 ∧
        ∀ env req, bearerToken req = .ok token →
          authUser (hubCrates lib json) env req = (do
            let publicKey ← farmIdentity (hubCrates lib json) env token
            farmAdmission env.now req.path publicKey
            pure publicKey)

section Agreement

variable {lib : Crates} {json : TokenJson} {now : Int} {pk token : String}

theorem opened_signToken_iff {keypair : List UInt8} {payload : FarmTokenPayload}
    {payloadB64 sigB64 payloadBytes : List UInt8} :
    Opened lib.ed25519 pk (signToken lib.ed25519 json keypair payload) payloadB64 sigB64
        payloadBytes ↔
      payloadB64 = Base64.encode (json.write payload) ∧
        sigB64 = Base64.encode (lib.ed25519.sign keypair (json.write payload)) ∧
        payloadBytes = json.write payload ∧
        verifySignature lib.ed25519 pk (json.write payload)
          (lib.ed25519.sign keypair (json.write payload)) = .ok () := by
  constructor
  · rintro ⟨hsplit, hpayload, sigBytes, hsig, hverify⟩
    rw [splitDot_signToken, Option.some.injEq, Prod.mk.injEq] at hsplit
    obtain ⟨rfl, rfl⟩ := hsplit
    rw [Base64.decode_encode, Option.some.injEq] at hpayload hsig
    subst hpayload hsig
    exact ⟨rfl, rfl, rfl, hverify⟩
  · rintro ⟨rfl, rfl, rfl, hverify⟩
    exact ⟨splitDot_signToken .., Base64.decode_encode _, _, Base64.decode_encode _, hverify⟩

/-- When the farm takes back what it has signed. -/
theorem verifyToken_signToken_iff {keypair : List UInt8} {payload found : FarmTokenPayload}
    (hjson : json.RoundTrips payload) :
    verifyToken lib.ed25519 json now pk (signToken lib.ed25519 json keypair payload) = .ok found ↔
      verifySignature lib.ed25519 pk (json.write payload)
          (lib.ed25519.sign keypair (json.write payload)) = .ok () ∧
        found = payload ∧ now < payload.exp.toInt ∧ payload.issPk = pk := by
  simp only [verifyToken_eq_ok_iff, opened_signToken_iff]
  constructor
  · rintro ⟨payloadB64, sigB64, payloadBytes, ⟨-, -, rfl, hverify⟩, hread, hexp, hkey⟩
    rw [hjson, Option.bind_some, FarmTokenPayload.ofJson_toJson, Option.some.injEq] at hread
    subst hread
    exact ⟨hverify, rfl, hexp, hkey⟩
  · rintro ⟨hverify, rfl, hexp, hkey⟩
    refine ⟨_, _, _, ⟨rfl, rfl, rfl, hverify⟩, ?_, hexp, hkey⟩
    rw [hjson, Option.bind_some, FarmTokenPayload.ofJson_toJson]

theorem tryVerifyFarmToken_signToken_iff {keypair : List UInt8} {payload : FarmTokenPayload}
    {sub : String} (hjson : json.RoundTrips payload) :
    tryVerifyFarmToken (hubCrates lib json) now pk
        (signToken lib.ed25519 json keypair payload) = .ok sub ↔
      verifySignature lib.ed25519 pk (json.write payload)
          (lib.ed25519.sign keypair (json.write payload)) = .ok () ∧
        sub = payload.sub ∧ now < payload.exp.toInt ∧ payload.issPk = pk := by
  have hread : (json.read (json.write payload)).bind hubPayloadOfJson = some payload.forHub := by
    rw [hjson, Option.bind_some]
    exact hubPayloadOfJson_object payload.ofJson_toJson
  simp only [tryVerifyFarmToken_eq_ok_iff, opened_signToken_iff]
  constructor
  · rintro ⟨payloadB64, sigB64, payloadBytes, ⟨-, -, rfl, hverify⟩, found, hfound, hexp, hkey, rfl⟩
    rw [hread, Option.some.injEq] at hfound
    subst hfound
    exact ⟨hverify, rfl, hexp, hkey⟩
  · rintro ⟨hverify, rfl, hexp, hkey⟩
    exact ⟨_, _, _, ⟨rfl, rfl, rfl, hverify⟩, _, hread, hexp, hkey, rfl⟩

/-- What the farm accepts of an object, the hub accepts. -/
theorem tryVerifyFarmToken_of_verifyToken {payload : FarmTokenPayload}
    (hobject : CarriesObject json token)
    (h : verifyToken lib.ed25519 json now pk token = .ok payload) :
    tryVerifyFarmToken (hubCrates lib json) now pk token = .ok payload.sub := by
  obtain ⟨payloadB64, sigB64, payloadBytes, hopened, hread, hexp, hkey⟩ :=
    verifyToken_eq_ok_iff.mp h
  obtain ⟨payloadB64', sigB64', payloadBytes', members, hsplit, hpayload, hdoc⟩ := hobject
  obtain ⟨rfl, rfl⟩ := Prod.mk.inj (Option.some.inj (hsplit.symm.trans hopened.split))
  obtain rfl := Option.some.inj (hpayload.symm.trans hopened.payload)
  rw [hdoc, Option.bind_some] at hread
  refine tryVerifyFarmToken_eq_ok_iff.mpr ⟨_, _, _, hopened, payload.forHub, ?_, hexp, hkey, rfl⟩
  rw [hdoc, Option.bind_some, hubPayloadOfJson_object hread]

/-- An accepted token has one dot. -/
theorem count_dot_of_accepted
    (h : (∃ payload, verifyToken lib.ed25519 json now pk token = .ok payload) ∨
      ∃ sub, tryVerifyFarmToken (hubCrates lib json) now pk token = .ok sub) :
    (asBytes token).count 46 = 1 := by
  rcases h with ⟨payload, hfarm⟩ | ⟨sub, hhub⟩
  · obtain ⟨_, _, _, hopened, -⟩ := verifyToken_eq_ok_iff.mp hfarm
    exact hopened.count_dot
  · obtain ⟨_, _, _, hopened, -⟩ := tryVerifyFarmToken_eq_ok_iff.mp hhub
    exact hopened.count_dot

theorem isFarmToken_of_count (h : (asBytes token).count 46 = 1) : isFarmToken token = true := by
  rw [isFarmToken, List.contains_iff_mem]
  exact List.count_pos_iff.mp (by omega)

/-- A token with a dot is a farm token to the hub. -/
theorem authUser_of_isFarmToken {lib : Crates} {env : Hub.AuthEnv} {req : Hub.AuthRequest}
    (hbearer : bearerToken req = .ok token) (hfarm : isFarmToken token = true) :
    authUser lib env req = (do
      let publicKey ← farmIdentity lib env token
      farmAdmission env.now req.path publicKey
      pure publicKey) := by
  show (Prog.ofExcept (bearerToken req) >>= fun token => _) = _
  rw [hbearer]
  show (if isFarmToken token then _ else _) = _
  rw [if_pos hfarm]

end Agreement

theorem tokensAgree (lib : Crates) (json : TokenJson) : TokensAgree lib json where
  roundTrip := by
    intro keypair payload now hbinds hjson
    have hverify : verifySignature lib.ed25519 (publicKeyHex lib.ed25519 keypair)
        (json.write payload) (lib.ed25519.sign keypair (json.write payload)) = .ok () :=
      (verifySignature_sign_iff hbinds (hexDecode_hexEncode _)).mpr rfl
    split_ifs with hvalid
    · exact (verifyToken_signToken_iff hjson).mpr ⟨hverify, rfl, hvalid⟩
    · cases hresult : verifyToken lib.ed25519 json now (publicKeyHex lib.ed25519 keypair)
          (signToken lib.ed25519 json keypair payload) with
      | ok found => exact absurd ((verifyToken_signToken_iff hjson).mp hresult).2.2 hvalid
      | error e => exact ⟨e, rfl⟩
  accepted := fun _ _ _ _ hobject h => tryVerifyFarmToken_of_verifyToken hobject h
  verdict := by
    intro keypair payload now pk hjson
    constructor
    · rintro ⟨found, hfound⟩
      obtain ⟨hverify, -, hvalid⟩ := (verifyToken_signToken_iff hjson).mp hfound
      exact ⟨payload.sub, (tryVerifyFarmToken_signToken_iff hjson).mpr ⟨hverify, rfl, hvalid⟩⟩
    · rintro ⟨sub, hsub⟩
      obtain ⟨hverify, -, hvalid⟩ := (tryVerifyFarmToken_signToken_iff hjson).mp hsub
      exact ⟨payload, (verifyToken_signToken_iff hjson).mpr ⟨hverify, rfl, hvalid⟩⟩
  dispatch := by
    intro token pk now h
    have hcount := count_dot_of_accepted h
    refine ⟨hcount, fun env req hbearer => ?_⟩
    exact authUser_of_isFarmToken hbearer (isFarmToken_of_count hcount)

/-! ## Two signed payloads -/

/-- The key of a farm and a payload that it issues. -/
def farmKey : String := "ca93ac1705187071d67b83c7ff0efe8108e8ec4530575d7726879333dbdabe7c"

def farmKeypair : List UInt8 := .replicate 32 4

def alicePayload : FarmTokenPayload :=
  ⟨1, "https://farm.test", farmKey, "alice", none, "j1", 100, 200, "member"⟩

/-- The text of such a payload. -/
def tokenText (sub jti iat exp : String) : String :=
  "\x7b\"v\":1,\"iss\":\"https://farm.test\",\"iss_pk\":\"" ++ farmKey ++
    "\",\"sub\":\"" ++ sub ++ "\",\"master\":null,\"jti\":\"" ++ jti ++ "\",\"iat\":" ++ iat ++
    ",\"exp\":" ++ exp ++ ",\"scope\":\"member\"\x7d"

def aliceText : String := tokenText "alice" "j1" "100" "200"

def aliceSignature : RecordedSignature :=
  ⟨farmKeypair, farmKey, asBytes aliceText,
    "0457b67e4ebb62aa51c7d92e107312785ada2bb6cf82cce6524094bb527e287f" ++
    "7c6412171a1b3171986d33325023cb5a8a6629e9342859bd57ee58901c9aed02"⟩

/-- The same fields as an array. -/
def arrayText : String :=
  "[1,\"https://farm.test\",\"" ++ farmKey ++ "\",\"alice\",null,\"j1\",100,200,\"member\"]"

def arrayJson : Json :=
  .array [.int 1, .string (some "https://farm.test"), .string (some farmKey),
    .string (some "alice"), .null, .string (some "j1"), .int 100, .int 200,
    .string (some "member")]

def arraySignature : RecordedSignature :=
  ⟨farmKeypair, farmKey, asBytes arrayText,
    "64d5f7545cb74b90579b746b62938785d7e92bdc1f81e3b7481b06f76aa6b7c0" ++
    "adacb9c87fd581ee168526accca5fd5a46e4fcb9d5081137bf0b346e1a65790c"⟩

def farmLib : Crates := .ofRecorded [aliceSignature, arraySignature]

/-- The JSON library on these two texts. -/
def farmJson : TokenJson where
  write payload := if payload = alicePayload then asBytes aliceText else []
  read bytes :=
    if bytes = asBytes aliceText then some alicePayload.toJson
    else if bytes = asBytes arrayText then some arrayJson
    else none

def arrayToken : String :=
  base64Text (asBytes arrayText) ++ "." ++
    base64Text ((hexDecode arraySignature.signatureHex).getD [])

theorem farmLib_binds : farmLib.ed25519.Binds farmKeypair (farmJson.write alicePayload) := by
  have hwrite : farmJson.write alicePayload = asBytes aliceText := by simp [farmJson]
  rw [hwrite]
  exact Ed25519.binds_ofRecorded [] aliceSignature [arraySignature] (by decide +kernel)
    (by decide +kernel) (by decide +kernel) (by decide +kernel)

theorem tokensAgree_alice :
    farmJson.RoundTrips alicePayload ∧
      verifyToken farmLib.ed25519 farmJson 150 (publicKeyHex farmLib.ed25519 farmKeypair)
        (signToken farmLib.ed25519 farmJson farmKeypair alicePayload) = .ok alicePayload := by
  have hjson : farmJson.RoundTrips alicePayload := by simp [TokenJson.RoundTrips, farmJson]
  have hvalid := (tokensAgree farmLib farmJson).roundTrip farmKeypair alicePayload 150
    farmLib_binds hjson
  rw [if_pos (by decide +kernel)] at hvalid
  exact ⟨hjson, hvalid⟩

/-- The farm accepts the array and the hub does not. -/
theorem arrayToken_refused :
    verifyToken farmLib.ed25519 farmJson 150 farmKey arrayToken = .ok alicePayload ∧
      (tryVerifyFarmToken (hubCrates farmLib farmJson) 150 farmKey arrayToken).toOption = none := by
  rw [arrayToken, dotted_eq_plainText]
  decide +kernel

end Voxply.Farm
