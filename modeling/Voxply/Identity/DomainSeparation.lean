/-
# Signing bytes determine the signed record

A signature binds a byte string.  It binds a record only if no other record,
of the same or of another kind, has the same signing bytes.  Domain tags carry
the separation between kinds: each is closed by the only zero byte of its tag,
so the tag is read off first and decides the kind.  Inside one kind the fields
are read off one after another; strings and lists need their length to fit the
32-bit counter in front of them, which is the only assumption of this module.
-/

import Voxply.Identity.Wire

namespace Voxply.Identity

open Voxply.Math

/-! ## Fields in appended form -/

/-- The length that the writers put in front of strings and lists. -/
def lengthField (n : ℕ) : List UInt8 :=
  leBytes 4 (UInt32.ofNat n).toNat

/-- A string with its byte length in front. -/
def strField (s : String) : List UInt8 :=
  lengthField (asBytes s).length ++ asBytes s

/-- A list of strings with its length in front. -/
def strVecField (v : List String) : List UInt8 :=
  lengthField v.length ++ v.flatMap strField

/-- A fixed-width unsigned number. -/
def u64Field (v : UInt64) : List UInt8 :=
  leBytes 8 v.toNat

/-- The optional expiry of a certificate. -/
def optionField : Option UInt64 → List UInt8
  | some t => 1 :: u64Field t
  | none => [0]

/-- One public hub entry. -/
def entryField (entry : PublicHubEntry) : List UInt8 :=
  strField entry.hubUrl ++ strField entry.hubName ++ u64Field entry.joinedAt

theorem writeU32Le_eq (buf : List UInt8) (n : ℕ) :
    writeU32Le buf (UInt32.ofNat n) = buf ++ lengthField n := rfl

theorem writeStr_eq (buf : List UInt8) (s : String) : writeStr buf s = buf ++ strField s := by
  simp [writeStr, writeU32Le_eq, strField]

theorem writeU64Le_eq (buf : List UInt8) (v : UInt64) :
    writeU64Le buf v = buf ++ u64Field v := rfl

/-- A writer that appends one field an item appends the concatenated fields. -/
theorem foldl_append_field {A : Type} {write : List UInt8 → A → List UInt8}
    {field : A → List UInt8} (append : ∀ buf a, write buf a = buf ++ field a)
    (items : List A) (buf : List UInt8) :
    items.foldl write buf = buf ++ items.flatMap field := by
  induction items generalizing buf with
  | nil => simp
  | cons item items ih => simp [ih, append]

theorem writeStrVec_eq (buf : List UInt8) (v : List String) :
    writeStrVec buf v = buf ++ strVecField v := by
  rw [writeStrVec, foldl_append_field writeStr_eq]
  simp [writeU32Le_eq, strVecField]

theorem writeEntry_eq (buf : List UInt8) (entry : PublicHubEntry) :
    PublicHubProfile.writeEntry buf entry = buf ++ entryField entry := by
  simp [PublicHubProfile.writeEntry, entryField, writeStr_eq, writeU64Le_eq]

theorem writeEnvelopeField_eq (out : List UInt8) (s : String) :
    writeEnvelopeField out s = out ++ strField s := by
  simp [writeEnvelopeField, strField, lengthField]

/-! ## Each field is read off in one way -/

/-- Lengths below `2 ^ 32` survive the truncation to 32 bits. -/
theorem lengthField_selfDelimiting :
    SelfDelimiting (fun n => n < 2 ^ 32) lengthField := by
  have hfits (n : ℕ) (hn : n < 2 ^ 32) : lengthField n = leBytes 4 n := by
    rw [lengthField, UInt32.toNat_ofNat', Nat.mod_eq_of_lt hn]
  refine SelfDelimiting.of_length_eq 4 (fun n _ => by simp [lengthField]) ?_
  intro m n hm hn heq
  rw [hfits m hm, hfits n hn] at heq
  exact leBytes_inj hm hn heq

/-- A string is a counted list of bytes. -/
theorem strField_selfDelimiting :
    SelfDelimiting (fun s : String => s.utf8ByteSize < 2 ^ 32) strField := by
  have hbyte : SelfDelimiting (fun _ : UInt8 => True) (fun byte => [byte]) :=
    SelfDelimiting.of_length_eq 1 (fun _ _ => rfl) (fun _ _ _ _ heq => by simpa using heq)
  have hbytes := (lengthField_selfDelimiting.counted hbyte).comap asBytes asBytes_injective
  intro s t rest tail hs ht heq
  apply hbytes (by simpa using hs) (by simpa using ht)
  simpa [strField] using heq

theorem strVecField_selfDelimiting :
    SelfDelimiting (fun v : List String => v.length < 2 ^ 32 ∧ ∀ s ∈ v, s.utf8ByteSize < 2 ^ 32)
      strVecField :=
  lengthField_selfDelimiting.counted strField_selfDelimiting

theorem u64Field_selfDelimiting : SelfDelimiting (fun _ => True) u64Field := by
  intro a b rest tail _ _ heq
  obtain ⟨hvalue, hrest⟩ := leBytes_selfDelimiting 8 a.toNat_lt b.toNat_lt heq
  exact ⟨UInt64.toNat_inj.mp hvalue, hrest⟩

theorem optionField_selfDelimiting : SelfDelimiting (fun _ => True) optionField := by
  intro a b rest tail _ _ heq
  cases a with
  | none =>
      cases b with
      | none => exact ⟨rfl, by simpa [optionField] using heq⟩
      | some t => simp [optionField] at heq
  | some s =>
      cases b with
      | none => simp [optionField] at heq
      | some t =>
          simp only [optionField, List.cons_append, List.cons.injEq, true_and] at heq
          obtain ⟨rfl, hrest⟩ := u64Field_selfDelimiting trivial trivial heq
          exact ⟨rfl, hrest⟩

theorem entryField_selfDelimiting :
    SelfDelimiting (fun entry : PublicHubEntry =>
      entry.hubUrl.utf8ByteSize < 2 ^ 32 ∧ entry.hubName.utf8ByteSize < 2 ^ 32) entryField := by
  rintro ⟨url, name, joined⟩ ⟨url', name', joined'⟩ rest tail ha hb heq
  simp only [entryField, List.append_assoc] at heq
  obtain ⟨rfl, hname⟩ := strField_selfDelimiting ha.1 hb.1 heq
  obtain ⟨rfl, hjoined⟩ := strField_selfDelimiting ha.2 hb.2 hname
  obtain ⟨rfl, hrest⟩ := u64Field_selfDelimiting trivial trivial hjoined
  exact ⟨rfl, hrest⟩

/-! ## The disjoint union of the signed formats -/

/-- A record of any kind that some key signs. -/
inductive SignedRecord
  | homeHubList (r : HomeHubList)
  | subkeyCert (r : SubkeyCert)
  | revocationEntry (r : RevocationEntry)
  | signedPrefsBlob (r : SignedPrefsBlob)
  | pairingOffer (r : PairingOffer)
  | pairingClaim (r : PairingClaim)
  | dhKeyRecord (r : DhKeyRecord)
  | publicHubProfile (r : PublicHubProfile)
  | encryptedDmEnvelope (r : EncryptedDmEnvelope)

/-- The kinds of signed records. -/
inductive RecordKind
  | homeHubList | subkeyCert | revocationEntry | signedPrefsBlob | pairingOffer
  | pairingClaim | dhKeyRecord | publicHubProfile | encryptedDmEnvelope
  deriving DecidableEq

/-- The domain tag of a kind, without the zero byte that closes it. -/
def RecordKind.tag : RecordKind → String
  | .homeHubList => "voxply/home-hub-list/v1"
  | .subkeyCert => "voxply/subkey-cert/v1"
  | .revocationEntry => "voxply/revocation/v1"
  | .signedPrefsBlob => "voxply/prefs-blob/v1"
  | .pairingOffer => "voxply/pairing-offer/v1"
  | .pairingClaim => "voxply/pairing-claim/v1"
  | .dhKeyRecord => "voxply/dh-key/v1"
  | .publicHubProfile => "voxply/public-hub-profile/v1"
  | .encryptedDmEnvelope => "voxply/dm-ciphertext/v1"

theorem RecordKind.tag_injective : Function.Injective RecordKind.tag := by
  intro k k' heq
  cases k <;> cases k' <;> first | rfl | exact absurd heq (by decide)

theorem RecordKind.zero_notMem_tag (k : RecordKind) : (0 : UInt8) ∉ asBytes k.tag := by
  cases k <;> decide

namespace SignedRecord

variable (sha256 : List UInt8 → List UInt8)

/-- The bytes that the key of a record signs. Only the preferences blob can
fail, when its ciphertext is not hexadecimal text. -/
def signingBytes : SignedRecord → Except String (List UInt8)
  | .homeHubList r => .ok r.toSigningBytes
  | .subkeyCert r => .ok r.toSigningBytes
  | .revocationEntry r => .ok r.toSigningBytes
  | .signedPrefsBlob r => r.toSigningBytes sha256
  | .pairingOffer r => .ok r.toSigningBytes
  | .pairingClaim r => .ok r.toSigningBytes
  | .dhKeyRecord r => .ok (DhKeyRecord.signingBytes r.pubkey r.dhPubkeyHex)
  | .publicHubProfile r => .ok r.toSigningBytes
  | .encryptedDmEnvelope r => .ok (envelopeSigningBytes r)

/-- The kind of a record. -/
def kind : SignedRecord → RecordKind
  | .homeHubList _ => .homeHubList
  | .subkeyCert _ => .subkeyCert
  | .revocationEntry _ => .revocationEntry
  | .signedPrefsBlob _ => .signedPrefsBlob
  | .pairingOffer _ => .pairingOffer
  | .pairingClaim _ => .pairingClaim
  | .dhKeyRecord _ => .dhKeyRecord
  | .publicHubProfile _ => .publicHubProfile
  | .encryptedDmEnvelope _ => .encryptedDmEnvelope

/-- Every string and list that is written with a 32-bit length in front of it
has a length that fits. -/
def Bounded : SignedRecord → Prop
  | .homeHubList r => r.masterPubkey.utf8ByteSize < 2 ^ 32 ∧ r.hubs.length < 2 ^ 32 ∧
      ∀ s ∈ r.hubs, s.utf8ByteSize < 2 ^ 32
  | .subkeyCert r => r.masterPubkey.utf8ByteSize < 2 ^ 32 ∧ r.subkeyPubkey.utf8ByteSize < 2 ^ 32 ∧
      r.deviceLabel.utf8ByteSize < 2 ^ 32 ∧ r.fallbackHubs.length < 2 ^ 32 ∧
      ∀ s ∈ r.fallbackHubs, s.utf8ByteSize < 2 ^ 32
  | .revocationEntry r =>
      r.masterPubkey.utf8ByteSize < 2 ^ 32 ∧ r.subkeyPubkey.utf8ByteSize < 2 ^ 32
  | .signedPrefsBlob r => r.masterPubkey.utf8ByteSize < 2 ^ 32
  | .pairingOffer r => r.masterPubkey.utf8ByteSize < 2 ^ 32 ∧ r.homeHubs.length < 2 ^ 32 ∧
      (∀ s ∈ r.homeHubs, s.utf8ByteSize < 2 ^ 32) ∧ r.pairingToken.utf8ByteSize < 2 ^ 32
  | .pairingClaim r => r.pairingToken.utf8ByteSize < 2 ^ 32 ∧
      r.subkeyPubkey.utf8ByteSize < 2 ^ 32 ∧ r.deviceLabel.utf8ByteSize < 2 ^ 32
  | .dhKeyRecord r => r.pubkey.utf8ByteSize < 2 ^ 32 ∧ r.dhPubkeyHex.utf8ByteSize < 2 ^ 32
  | .publicHubProfile r => r.pubkey.utf8ByteSize < 2 ^ 32 ∧ r.publicHubs.length < 2 ^ 32 ∧
      ∀ e ∈ r.publicHubs, e.hubUrl.utf8ByteSize < 2 ^ 32 ∧ e.hubName.utf8ByteSize < 2 ^ 32
  | .encryptedDmEnvelope r => r.convId.utf8ByteSize < 2 ^ 32 ∧
      r.ciphertextHex.utf8ByteSize < 2 ^ 32 ∧ r.nonceHex.utf8ByteSize < 2 ^ 32 ∧
      r.dhPubkeyHex.utf8ByteSize < 2 ^ 32

/-- Two records are of the same kind and agree on every field that their
encoder was given; preferences blobs agree on the digest of their ciphertext. -/
def SameSigned : SignedRecord → SignedRecord → Prop
  | .homeHubList a, .homeHubList b => a.masterPubkey = b.masterPubkey ∧ a.hubs = b.hubs ∧
      a.issuedAt = b.issuedAt ∧ a.sequence = b.sequence
  | .subkeyCert a, .subkeyCert b => a.masterPubkey = b.masterPubkey ∧
      a.subkeyPubkey = b.subkeyPubkey ∧ a.deviceLabel = b.deviceLabel ∧
      a.issuedAt = b.issuedAt ∧ a.notAfter = b.notAfter ∧ a.fallbackHubs = b.fallbackHubs
  | .revocationEntry a, .revocationEntry b => a.masterPubkey = b.masterPubkey ∧
      a.subkeyPubkey = b.subkeyPubkey ∧ a.revokedAt = b.revokedAt
  | .signedPrefsBlob a, .signedPrefsBlob b => a.masterPubkey = b.masterPubkey ∧
      a.blobVersion = b.blobVersion ∧
      (hexDecode a.ciphertextHex).map sha256 = (hexDecode b.ciphertextHex).map sha256
  | .pairingOffer a, .pairingOffer b => a.masterPubkey = b.masterPubkey ∧
      a.homeHubs = b.homeHubs ∧ a.pairingToken = b.pairingToken ∧
      a.issuedAt = b.issuedAt ∧ a.expiresAt = b.expiresAt
  | .pairingClaim a, .pairingClaim b => a.pairingToken = b.pairingToken ∧
      a.subkeyPubkey = b.subkeyPubkey ∧ a.deviceLabel = b.deviceLabel
  | .dhKeyRecord a, .dhKeyRecord b => a.pubkey = b.pubkey ∧ a.dhPubkeyHex = b.dhPubkeyHex
  | .publicHubProfile a, .publicHubProfile b => a.pubkey = b.pubkey ∧
      a.publicHubs = b.publicHubs ∧ a.issuedAt = b.issuedAt
  | .encryptedDmEnvelope a, .encryptedDmEnvelope b => a.convId = b.convId ∧
      a.ciphertextHex = b.ciphertextHex ∧ a.nonceHex = b.nonceHex ∧
      a.dhPubkeyHex = b.dhPubkeyHex
  | _, _ => False

/-- The fields of a record after its tag, in appended form. -/
def body : SignedRecord → Except String (List UInt8)
  | .homeHubList r => .ok (strField r.masterPubkey ++ (strVecField r.hubs ++
      (u64Field r.issuedAt ++ u64Field r.sequence)))
  | .subkeyCert r => .ok (strField r.masterPubkey ++ (strField r.subkeyPubkey ++
      (strField r.deviceLabel ++ (u64Field r.issuedAt ++ (optionField r.notAfter ++
        strVecField r.fallbackHubs)))))
  | .revocationEntry r => .ok (strField r.masterPubkey ++ (strField r.subkeyPubkey ++
      u64Field r.revokedAt))
  | .signedPrefsBlob r =>
      match hexDecode r.ciphertextHex with
      | none => .error "Invalid ciphertext hex"
      | some ciphertext =>
          .ok (strField r.masterPubkey ++ (u64Field r.blobVersion ++ sha256 ciphertext))
  | .pairingOffer r => .ok (strField r.masterPubkey ++ (strVecField r.homeHubs ++
      (strField r.pairingToken ++ (u64Field r.issuedAt ++ u64Field r.expiresAt))))
  | .pairingClaim r => .ok (strField r.pairingToken ++ (strField r.subkeyPubkey ++
      strField r.deviceLabel))
  | .dhKeyRecord r => .ok (strField r.pubkey ++ strField r.dhPubkeyHex)
  | .publicHubProfile r => .ok (strField r.pubkey ++ (u64Field r.issuedAt ++
      (lengthField r.publicHubs.length ++ r.publicHubs.flatMap entryField)))
  | .encryptedDmEnvelope r => .ok (strField r.convId ++ (strField r.ciphertextHex ++
      (strField r.nonceHex ++ strField r.dhPubkeyHex)))

/-- Every encoder writes the tag of its kind, the closing zero byte and the
fields. -/
theorem signingBytes_eq_map_body (r : SignedRecord) :
    r.signingBytes sha256 = (r.body sha256).map (asBytes r.kind.tag ++ [0] ++ ·) := by
  have htag (k : RecordKind) (text : String) (h : asBytes text = asBytes k.tag ++ [0])
      (fields : List UInt8) : asBytes text ++ fields = asBytes k.tag ++ [0] ++ fields := by
    rw [h]
  cases r with
  | homeHubList r =>
      simp only [signingBytes, HomeHubList.toSigningBytes, HomeHubList.signingBytes, body,
        writeStr_eq, writeStrVec_eq, writeU64Le_eq, List.append_assoc, Except.map]
      exact congrArg _ (htag .homeHubList _ rfl _)
  | subkeyCert r =>
      obtain ⟨master, subkey, label, issued, notAfter, hubs, signature⟩ := r
      cases notAfter <;>
        simp only [signingBytes, SubkeyCert.toSigningBytes, SubkeyCert.signingBytes, body,
          optionField, writeStr_eq, writeStrVec_eq, writeU64Le_eq, List.append_assoc,
          List.cons_append, List.nil_append, Except.map]
      · exact congrArg _ (htag .subkeyCert _ rfl _)
      · exact congrArg _ (htag .subkeyCert _ rfl _)
  | revocationEntry r =>
      simp only [signingBytes, RevocationEntry.toSigningBytes, RevocationEntry.signingBytes, body,
        writeStr_eq, writeU64Le_eq, List.append_assoc, Except.map]
      exact congrArg _ (htag .revocationEntry _ rfl _)
  | signedPrefsBlob r =>
      simp only [signingBytes, SignedPrefsBlob.toSigningBytes, body]
      cases hexDecode r.ciphertextHex with
      | none => rfl
      | some ciphertext =>
          simp only [SignedPrefsBlob.signingBytes, writeStr_eq, writeU64Le_eq,
            List.append_assoc, Except.map]
          exact congrArg _ (htag .signedPrefsBlob _ rfl _)
  | pairingOffer r =>
      simp only [signingBytes, PairingOffer.toSigningBytes, PairingOffer.signingBytes, body,
        writeStr_eq, writeStrVec_eq, writeU64Le_eq, List.append_assoc, Except.map]
      exact congrArg _ (htag .pairingOffer _ rfl _)
  | pairingClaim r =>
      simp only [signingBytes, PairingClaim.toSigningBytes, PairingClaim.signingBytes, body,
        writeStr_eq, List.append_assoc, Except.map]
      exact congrArg _ (htag .pairingClaim _ rfl _)
  | dhKeyRecord r =>
      have hstr (s : String) :
          leBytes 4 (UInt32.ofNat (asBytes s).length).toNat ++ asBytes s = strField s := rfl
      simp only [signingBytes, DhKeyRecord.signingBytes, body, List.append_assoc, hstr,
        Except.map]
      exact congrArg _ (htag .dhKeyRecord _ rfl _)
  | publicHubProfile r =>
      simp only [signingBytes, PublicHubProfile.toSigningBytes, PublicHubProfile.signingBytes,
        body, writeStr_eq, writeU64Le_eq, writeU32Le_eq, foldl_append_field writeEntry_eq,
        List.append_assoc, Except.map]
      exact congrArg _ (htag .publicHubProfile _ rfl _)
  | encryptedDmEnvelope r =>
      simp only [signingBytes, envelopeSigningBytes, body,
        foldl_append_field writeEnvelopeField_eq, List.flatMap_cons, List.flatMap_nil,
        List.append_nil, Except.map]
      exact congrArg _ (htag .encryptedDmEnvelope _ rfl _)

variable {sha256}

/-- Fields of one kind are peeled from the front, each by the uniqueness of its
own encoding. -/
theorem sameSigned_of_body_eq {r r' : SignedRecord} {fields : List UInt8}
    (hr : r.Bounded) (hr' : r'.Bounded) (hkind : r.kind = r'.kind)
    (hbody : r.body sha256 = .ok fields) (hbody' : r'.body sha256 = .ok fields) :
    SameSigned sha256 r r' := by
  have heq := hbody.trans hbody'.symm
  cases r with
  | homeHubList a =>
      cases r' <;> simp only [kind, reduceCtorEq] at hkind
      simp only [body, Except.ok.injEq] at heq
      obtain ⟨hmaster, heq⟩ := strField_selfDelimiting hr.1 hr'.1 heq
      obtain ⟨hhubs, heq⟩ := strVecField_selfDelimiting hr.2 hr'.2 heq
      obtain ⟨hissued, heq⟩ := u64Field_selfDelimiting trivial trivial heq
      exact ⟨hmaster, hhubs, hissued, u64Field_selfDelimiting.eq_of_encode_eq trivial trivial heq⟩
  | subkeyCert a =>
      cases r' <;> simp only [kind, reduceCtorEq] at hkind
      simp only [body, Except.ok.injEq] at heq
      obtain ⟨hmaster, heq⟩ := strField_selfDelimiting hr.1 hr'.1 heq
      obtain ⟨hsubkey, heq⟩ := strField_selfDelimiting hr.2.1 hr'.2.1 heq
      obtain ⟨hlabel, heq⟩ := strField_selfDelimiting hr.2.2.1 hr'.2.2.1 heq
      obtain ⟨hissued, heq⟩ := u64Field_selfDelimiting trivial trivial heq
      obtain ⟨hnotAfter, heq⟩ := optionField_selfDelimiting trivial trivial heq
      exact ⟨hmaster, hsubkey, hlabel, hissued, hnotAfter,
        strVecField_selfDelimiting.eq_of_encode_eq hr.2.2.2 hr'.2.2.2 heq⟩
  | revocationEntry a =>
      cases r' <;> simp only [kind, reduceCtorEq] at hkind
      simp only [body, Except.ok.injEq] at heq
      obtain ⟨hmaster, heq⟩ := strField_selfDelimiting hr.1 hr'.1 heq
      obtain ⟨hsubkey, heq⟩ := strField_selfDelimiting hr.2 hr'.2 heq
      exact ⟨hmaster, hsubkey, u64Field_selfDelimiting.eq_of_encode_eq trivial trivial heq⟩
  | signedPrefsBlob a =>
      cases r' <;> simp only [kind, reduceCtorEq] at hkind
      rename_i b
      -- both ciphertexts decode, since both bodies exist
      cases hcipher : hexDecode a.ciphertextHex with
      | none => simp [body, hcipher] at hbody
      | some ciphertext =>
          cases hcipher' : hexDecode b.ciphertextHex with
          | none => simp [body, hcipher'] at hbody'
          | some ciphertext' =>
              simp only [body, hcipher, hcipher', Except.ok.injEq] at heq
              obtain ⟨hmaster, heq⟩ := strField_selfDelimiting hr hr' heq
              obtain ⟨hversion, hdigest⟩ := u64Field_selfDelimiting trivial trivial heq
              refine ⟨hmaster, hversion, ?_⟩
              rw [hcipher, hcipher', Option.map_some, Option.map_some, hdigest]
  | pairingOffer a =>
      cases r' <;> simp only [kind, reduceCtorEq] at hkind
      simp only [body, Except.ok.injEq] at heq
      obtain ⟨hmaster, heq⟩ := strField_selfDelimiting hr.1 hr'.1 heq
      obtain ⟨hhubs, heq⟩ := strVecField_selfDelimiting ⟨hr.2.1, hr.2.2.1⟩
        ⟨hr'.2.1, hr'.2.2.1⟩ heq
      obtain ⟨htoken, heq⟩ := strField_selfDelimiting hr.2.2.2 hr'.2.2.2 heq
      obtain ⟨hissued, heq⟩ := u64Field_selfDelimiting trivial trivial heq
      exact ⟨hmaster, hhubs, htoken, hissued,
        u64Field_selfDelimiting.eq_of_encode_eq trivial trivial heq⟩
  | pairingClaim a =>
      cases r' <;> simp only [kind, reduceCtorEq] at hkind
      simp only [body, Except.ok.injEq] at heq
      obtain ⟨htoken, heq⟩ := strField_selfDelimiting hr.1 hr'.1 heq
      obtain ⟨hsubkey, heq⟩ := strField_selfDelimiting hr.2.1 hr'.2.1 heq
      exact ⟨htoken, hsubkey, strField_selfDelimiting.eq_of_encode_eq hr.2.2 hr'.2.2 heq⟩
  | dhKeyRecord a =>
      cases r' <;> simp only [kind, reduceCtorEq] at hkind
      simp only [body, Except.ok.injEq] at heq
      obtain ⟨hpubkey, heq⟩ := strField_selfDelimiting hr.1 hr'.1 heq
      exact ⟨hpubkey, strField_selfDelimiting.eq_of_encode_eq hr.2 hr'.2 heq⟩
  | publicHubProfile a =>
      cases r' <;> simp only [kind, reduceCtorEq] at hkind
      simp only [body, Except.ok.injEq] at heq
      obtain ⟨hpubkey, heq⟩ := strField_selfDelimiting hr.1 hr'.1 heq
      obtain ⟨hissued, heq⟩ := u64Field_selfDelimiting trivial trivial heq
      have hentries := lengthField_selfDelimiting.counted entryField_selfDelimiting
      exact ⟨hpubkey, hentries.eq_of_encode_eq hr.2 hr'.2 heq, hissued⟩
  | encryptedDmEnvelope a =>
      cases r' <;> simp only [kind, reduceCtorEq] at hkind
      simp only [body, Except.ok.injEq] at heq
      obtain ⟨hconv, heq⟩ := strField_selfDelimiting hr.1 hr'.1 heq
      obtain ⟨hcipher, heq⟩ := strField_selfDelimiting hr.2.1 hr'.2.1 heq
      obtain ⟨hnonce, heq⟩ := strField_selfDelimiting hr.2.2.1 hr'.2.2.1 heq
      exact ⟨hconv, hcipher, hnonce,
        strField_selfDelimiting.eq_of_encode_eq hr.2.2.2 hr'.2.2.2 heq⟩

/-- **Signing bytes determine the signed record.** Two records of any kinds
with the same signing bytes are of one kind and agree on every signed field, so
a signature on one is never a signature on a different other. -/
theorem signingBytes_injective (sha256 : List UInt8 → List UInt8) {r r' : SignedRecord}
    {bytes : List UInt8} (hr : r.Bounded) (hr' : r'.Bounded)
    (hbytes : r.signingBytes sha256 = .ok bytes) (hbytes' : r'.signingBytes sha256 = .ok bytes) :
    SameSigned sha256 r r' := by
  rw [signingBytes_eq_map_body] at hbytes hbytes'
  cases hbody : r.body sha256 with
  | error e => simp [hbody, Except.map] at hbytes
  | ok fields =>
      cases hbody' : r'.body sha256 with
      | error e => simp [hbody', Except.map] at hbytes'
      | ok fields' =>
          simp only [hbody, Except.map, Except.ok.injEq] at hbytes
          simp only [hbody', Except.map, Except.ok.injEq] at hbytes'
          -- the tag ends at the only zero byte it contains
          obtain ⟨htag, hfields⟩ := SelfDelimiting.closed (0 : UInt8)
            r.kind.zero_notMem_tag r'.kind.zero_notMem_tag (hbytes.trans hbytes'.symm)
          have hkind := RecordKind.tag_injective (asBytes_injective htag)
          subst hfields
          exact sameSigned_of_body_eq hr hr' hkind hbody hbody'

/-- Two envelopes of one ciphertext that name different senders carry the same
signature: the sender is not among the signed fields. -/
theorem signingBytes_injective_envelope :
    SameSigned (fun _ => [])
      (.encryptedDmEnvelope ⟨"alice", "conv", "00ff", "01", "02", "sig"⟩)
      (.encryptedDmEnvelope ⟨"mallory", "conv", "00ff", "01", "02", "sig"⟩) :=
  signingBytes_injective (fun _ => []) (by simp [Bounded]; decide) (by simp [Bounded]; decide)
    rfl rfl

end SignedRecord

end Voxply.Identity
