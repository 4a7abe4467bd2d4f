import Mathlib.Tactic.Lemma
import Mathlib.Data.List.Basic
import Mathlib.Data.Nat.Notation

/-! Authenticated encryption behind an interface that hands out the decrypted bytes before it
compares the tag: the plaintext of a ciphertext and the verdict on its tag are two functions. -/

namespace Aead

/-- The arguments are the key, the initialization vector, the additional data, and then the
plaintext, or the ciphertext and the tag. -/
structure Scheme where
  encrypt : List UInt8 → List UInt8 → List UInt8 → List UInt8 → List UInt8 × List UInt8
  decryptUpdate : List UInt8 → List UInt8 → List UInt8 → List UInt8 → List UInt8
  verifies : List UInt8 → List UInt8 → List UInt8 → List UInt8 → List UInt8 → Bool

variable {scheme : Scheme} {key iv aad plaintext ciphertext tag : List UInt8}

/-- The decryption of a ciphertext whose tag verifies. -/
def Scheme.decrypt (scheme : Scheme) (key iv aad ciphertext tag : List UInt8) :
    Option (List UInt8) :=
  if scheme.verifies key iv aad ciphertext tag then
    some (scheme.decryptUpdate key iv aad ciphertext)
  else none

/-- Decryption returns a plaintext on what its encryption produces, and on nothing else. -/
structure Scheme.Lawful (scheme : Scheme) (tagLength : ℕ) : Prop where
  length_tag : ∀ key iv aad plaintext, (scheme.encrypt key iv aad plaintext).2.length = tagLength
  length_plaintext : ∀ key iv aad ciphertext,
    (scheme.decryptUpdate key iv aad ciphertext).length = ciphertext.length
  exact : ∀ key iv aad plaintext ciphertext tag,
    scheme.decrypt key iv aad ciphertext tag = some plaintext ↔
      scheme.encrypt key iv aad plaintext = (ciphertext, tag)

lemma Scheme.decrypt_eq_some_iff :
    scheme.decrypt key iv aad ciphertext tag = some plaintext ↔
      scheme.verifies key iv aad ciphertext tag = true ∧
        scheme.decryptUpdate key iv aad ciphertext = plaintext := by
  unfold Scheme.decrypt
  split
  · rename_i verified
    simp [verified]
  · rename_i refused
    simp [refused]

variable {tagLength : ℕ}

/-- What was encrypted verifies and is decrypted. -/
lemma Scheme.Lawful.decrypts (lawful : scheme.Lawful tagLength)
    (key iv aad plaintext : List UInt8) :
    scheme.verifies key iv aad (scheme.encrypt key iv aad plaintext).1
        (scheme.encrypt key iv aad plaintext).2 = true ∧
      scheme.decryptUpdate key iv aad (scheme.encrypt key iv aad plaintext).1 = plaintext :=
  Scheme.decrypt_eq_some_iff.mp ((lawful.exact _ _ _ _ _ _).mpr rfl)

/-- What verifies was encrypted from what it decrypts to. -/
lemma Scheme.Lawful.encrypts (lawful : scheme.Lawful tagLength)
    (verified : scheme.verifies key iv aad ciphertext tag = true) :
    scheme.encrypt key iv aad (scheme.decryptUpdate key iv aad ciphertext) = (ciphertext, tag) :=
  (lawful.exact _ _ _ _ _ _).mp (Scheme.decrypt_eq_some_iff.mpr ⟨verified, rfl⟩)

lemma Scheme.Lawful.length_ciphertext (lawful : scheme.Lawful tagLength)
    (key iv aad plaintext : List UInt8) :
    (scheme.encrypt key iv aad plaintext).1.length = plaintext.length := by
  have length := lawful.length_plaintext key iv aad (scheme.encrypt key iv aad plaintext).1
  rw [(lawful.decrypts key iv aad plaintext).2] at length
  exact length.symm

/-! ### A key stream and a tag of the ciphertext -/

def applyStream (stream : ℕ → UInt8) (bytes : List UInt8) : List UInt8 :=
  bytes.mapIdx fun i byte => byte ^^^ stream i

lemma applyStream_applyStream (stream : ℕ → UInt8) (bytes : List UInt8) :
    applyStream stream (applyStream stream bytes) = bytes := by
  apply List.ext_getElem
  · simp [applyStream]
  · intro i _ _
    simp only [applyStream, List.getElem_mapIdx]
    rw [UInt8.xor_assoc, UInt8.xor_self, UInt8.xor_zero]

/-- Counter mode, with a tag that is computed from the ciphertext. -/
def ofStream (stream : List UInt8 → List UInt8 → ℕ → UInt8)
    (tagOf : List UInt8 → List UInt8 → List UInt8 → List UInt8 → List UInt8) : Scheme where
  encrypt key iv aad plaintext :=
    let ciphertext := applyStream (stream key iv) plaintext
    (ciphertext, tagOf key iv aad ciphertext)
  decryptUpdate key iv _ ciphertext := applyStream (stream key iv) ciphertext
  verifies key iv aad ciphertext tag := tag = tagOf key iv aad ciphertext

lemma ofStream_lawful (stream : List UInt8 → List UInt8 → ℕ → UInt8)
    {tagOf : List UInt8 → List UInt8 → List UInt8 → List UInt8 → List UInt8}
    (length : ∀ key iv aad ciphertext, (tagOf key iv aad ciphertext).length = tagLength) :
    (ofStream stream tagOf).Lawful tagLength where
  length_tag key iv aad plaintext := length _ _ _ _
  length_plaintext key iv aad ciphertext := List.length_mapIdx
  exact key iv aad plaintext ciphertext tag := by
    rw [Scheme.decrypt_eq_some_iff]
    constructor
    · rintro ⟨verified, rfl⟩
      have same : tag = tagOf key iv aad ciphertext := of_decide_eq_true verified
      simp [ofStream, applyStream_applyStream, same]
    · intro encrypted
      cases encrypted
      exact ⟨decide_eq_true rfl, applyStream_applyStream _ _⟩

end Aead
