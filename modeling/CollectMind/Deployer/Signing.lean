import CollectMind.Library.CanonicalJson

set_option autoImplicit false

/- The signatures of policy payloads, deployer/signing.py: what `canonical_payload` keeps of a
payload, and what a signature says about it. -/
namespace CollectMind.Deployer

open Python

/-- `canonical_payload`, given how Python writes floats. -/
def canonicalPayload (floatRepr : Rat → String) (payload : Dict) : ByteArray :=
  (String.ofList (dumps .canonical floatRepr 0 (.obj payload))).toUTF8

/-- The keys of the signature scheme and its two operations; `false` is `InvalidSignature`. -/
structure Ed25519 (PrivateKey PublicKey : Type) where
  publicKey : PrivateKey → PublicKey
  sign : PrivateKey → ByteArray → ByteArray
  verify : PublicKey → ByteArray → ByteArray → Bool

/-- A signature is valid for the bytes that were signed and for no others. -/
def Ed25519.Binds {PrivateKey PublicKey : Type} (scheme : Ed25519 PrivateKey PublicKey) : Prop :=
  ∀ key signed bytes,
    scheme.verify (scheme.publicKey key) (scheme.sign key signed) bytes = true ↔ signed = bytes

structure LocalKeySigner (PrivateKey PublicKey : Type) where
  privateKey : PrivateKey
  publicKey : PublicKey
  keyId : String

section Signer

variable {PrivateKey PublicKey : Type} (scheme : Ed25519 PrivateKey PublicKey)
  (floatRepr : Rat → String)

/-- The signer that `generate_for_tests` and `from_path` make of a key. -/
def LocalKeySigner.ofKey (key : PrivateKey) (keyId : String) : LocalKeySigner PrivateKey PublicKey :=
  ⟨key, scheme.publicKey key, keyId⟩

def LocalKeySigner.sign (signer : LocalKeySigner PrivateKey PublicKey) (payload : Dict) :
    ByteArray × String :=
  (scheme.sign signer.privateKey (canonicalPayload floatRepr payload), signer.keyId)

def LocalKeySigner.verify (signer : LocalKeySigner PrivateKey PublicKey) (payload : Dict)
    (signature : ByteArray) (keyId : String) : Bool :=
  if keyId ≠ signer.keyId then false
  else scheme.verify signer.publicKey signature (canonicalPayload floatRepr payload)

end Signer

/-- A payload of nulls, booleans, integers, strings, arrays and dictionaries. -/
structure Payload where
  fields : Dict
  plain : Plain (.obj fields)

/-- Equality of payloads, whatever the order of their keys. -/
def Payload.same (first second : Payload) : Bool := (Json.obj first.fields).same (.obj second.fields)

section Signatures

variable {PrivateKey PublicKey : Type}

theorem canonicalPayload_eq_iff (floatRepr : Rat → String) (first second : Payload) :
    canonicalPayload floatRepr first.fields = canonicalPayload floatRepr second.fields ↔
      first.same second = true := by
  rw [Payload.same, ← dumps_canonical_iff floatRepr first.plain second.plain, canonicalPayload,
    canonicalPayload]
  exact String.toByteArray_inj.trans String.ofList_inj

/-- A signature verifies for a payload under the key that it was made with exactly if the bytes are
those that were signed and the key is named as the verifier names it. -/
theorem verify_sign_iff {scheme : Ed25519 PrivateKey PublicKey} (binds : scheme.Binds)
    (floatRepr : Rat → String) {signer verifier : LocalKeySigner PrivateKey PublicKey}
    (sameKey : verifier.publicKey = scheme.publicKey signer.privateKey) (signed payload : Dict)
    (keyId : String) :
    verifier.verify scheme floatRepr payload (signer.sign scheme floatRepr signed).1 keyId = true ↔
      keyId = verifier.keyId ∧
        canonicalPayload floatRepr signed = canonicalPayload floatRepr payload := by
  rw [LocalKeySigner.verify, LocalKeySigner.sign, sameKey]
  by_cases named : keyId = verifier.keyId
  · rw [if_neg (not_not_intro named), binds]
    exact (and_iff_right named).symm
  · rw [if_pos named]
    exact ⟨nofun, fun both => absurd both.1 named⟩

/-- The canonical bytes are the same for equal payloads and for no others, so a signature made for
one payload verifies for another under the same key only if they are equal. -/
theorem canonicalPayload_identifies (scheme : Ed25519 PrivateKey PublicKey) (binds : scheme.Binds)
    (floatRepr : Rat → String) (first second : Payload) :
    (canonicalPayload floatRepr first.fields = canonicalPayload floatRepr second.fields ↔
      first.same second = true) ∧
    ∀ (signer verifier : LocalKeySigner PrivateKey PublicKey) (keyId : String),
      verifier.publicKey = scheme.publicKey signer.privateKey →
      (verifier.verify scheme floatRepr second.fields
          (signer.sign scheme floatRepr first.fields).1 keyId = true ↔
        keyId = verifier.keyId ∧ first.same second = true) := by
  refine ⟨canonicalPayload_eq_iff floatRepr first second, ?_⟩
  intro signer verifier keyId sameKey
  rw [verify_sign_iff binds floatRepr sameKey, canonicalPayload_eq_iff]

/-- The scheme whose signatures are the signed bytes. -/
def echoScheme : Ed25519 Unit Unit where
  publicKey _ := ()
  sign _ bytes := bytes
  verify _ signature bytes := decide (signature.data = bytes.data)

/-- A payload with these two fields, in either order. -/
def policyPayload (idFirst : Bool) : Payload where
  fields := if idFirst then [("policy_id", .str "policy-1"), ("extra", .arr [.int 1, .bool true])]
    else [("extra", .arr [.int 1, .bool true]), ("policy_id", .str "policy-1")]
  plain := by
    have items : ∀ item ∈ [Json.int 1, .bool true], Plain item := by
      simp only [List.forall_mem_cons]
      exact ⟨.int 1, .bool true, List.forall_mem_nil _⟩
    cases idFirst with
    | false =>
        refine .obj (by decide) ?_
        simp only [Bool.false_eq_true, if_false, List.forall_mem_cons]
        exact ⟨.arr items, .str _, List.forall_mem_nil _⟩
    | true =>
        refine .obj (by decide) ?_
        simp only [if_true, List.forall_mem_cons]
        exact ⟨.str _, .arr items, List.forall_mem_nil _⟩

theorem canonicalPayload_identifies_reordered :
    let signer := LocalKeySigner.ofKey echoScheme () "dev-key-1"
    (policyPayload true).same (policyPayload false) = true ∧
      signer.verify echoScheme (fun _ => "0.0") (policyPayload false).fields
        (signer.sign echoScheme (fun _ => "0.0") (policyPayload true).fields).1 "dev-key-1" = true := by
  intro signer
  have equal : (policyPayload true).same (policyPayload false) = true := by decide +kernel
  have binds : echoScheme.Binds := fun _ _ _ => decide_eq_true_iff.trans ByteArray.ext_iff.symm
  refine ⟨equal, ?_⟩
  exact ((canonicalPayload_identifies echoScheme binds (fun _ => "0.0") (policyPayload true)
    (policyPayload false)).2 signer signer "dev-key-1" rfl).mpr ⟨rfl, equal⟩

end Signatures

end CollectMind.Deployer
