import Mathlib.Data.Set.Basic
import ExecutionHandoff.Library.ByteCursor

/-!
# Sealed payloads

`TransportCipher`: a payload is sealed with a key that is derived from the root
key and the context, and with the context, the sequence and further data
authenticated beside it.  What CryptoKit computes is a parameter; the ideal
cipher opens what was sealed in the calls that were made, and nothing else.
-/

namespace ExecutionHandoff.TakeoverCore

open Library List

inductive TransportDirection where
  | hostToClient
  | clientToHost
  deriving DecidableEq

def TransportDirection.rawValue : TransportDirection → UInt8
  | hostToClient => 1
  | clientToHost => 2

inductive TransportChannel where
  | video
  | inputRealtime
  | inputCritical
  | control
  | inputFeedback
  | videoFeedback
  deriving DecidableEq

def TransportChannel.rawValue : TransportChannel → UInt8
  | video => 1
  | inputRealtime => 2
  | inputCritical => 3
  | control => 4
  | inputFeedback => 5
  | videoFeedback => 6

theorem TransportDirection.rawValue_injective {direction other : TransportDirection}
    (same : direction.rawValue = other.rawValue) : direction = other := by
  revert same
  cases direction <;> cases other <;> decide

theorem TransportChannel.rawValue_injective {channel other : TransportChannel}
    (same : channel.rawValue = other.rawValue) : channel = other := by
  revert same
  cases channel <;> cases other <;> decide

structure TransportCryptoContext where
  sessionHash : UInt64
  epoch : UInt64
  generation : UInt32
  direction : TransportDirection
  channel : TransportChannel
  deriving DecidableEq

inductive TransportCryptoError where
  | invalidSealedPayload
  | authenticationFailed
  deriving DecidableEq

/-- What CryptoKit computes: `HKDF<SHA256>.deriveKey` of a root key, a salt and an info, and
`ChaChaPoly` with a key, a nonce and authenticated data.  A sealed box has a ciphertext and a tag. -/
structure CryptoKit where
  deriveKey : List UInt8 → List UInt8 → List UInt8 → List UInt8
  sealBox : List UInt8 → List UInt8 → List UInt8 → List UInt8 → List UInt8 × List UInt8
  openBox : List UInt8 → List UInt8 → List UInt8 → List UInt8 × List UInt8 → Option (List UInt8)

/-- The bytes of a text of ASCII characters. -/
def utf8Bytes (text : String) : List UInt8 := text.toList.map fun c => .ofNat c.toNat

/-- The root key has the length that `init` asks for. -/
structure TransportCipher where
  rootKeyData : List UInt8
  keyed : rootKeyData.length = 32
  deriving DecidableEq

namespace TransportCipher

def nonceBytes : Nat := 12

def tagBytes : Nat := 16

def contextBytes (context : TransportCryptoContext) (rest : List UInt8) : List UInt8 :=
  bigEndian 8 context.sessionHash.toNat ++ (bigEndian 8 context.epoch.toNat ++
    (bigEndian 4 context.generation.toNat ++
    (context.direction.rawValue :: context.channel.rawValue :: rest)))

def contextKeyInfo (context : TransportCryptoContext) : List UInt8 :=
  utf8Bytes "TTKR-key-v1" ++ contextBytes context []

def contextAAD (context : TransportCryptoContext) (sequence : UInt64)
    (associatedData : List UInt8) : List UInt8 :=
  utf8Bytes "TTKR-aad-v1" ++
    contextBytes context (bigEndian 8 sequence.toNat ++ associatedData)

variable (crypto : CryptoKit) (cipher : TransportCipher)

def derivedKey (context : TransportCryptoContext) : List UInt8 :=
  crypto.deriveKey cipher.rootKeyData (utf8Bytes "thin-takeover-runtime/v1")
    (contextKeyInfo context)

/-- `seal` with the nonce that is drawn for it. -/
def sealPayload (nonce plaintext : List UInt8) (sequence : UInt64) (context : TransportCryptoContext)
    (associatedData : List UInt8) : List UInt8 :=
  let key := cipher.derivedKey crypto context
  let aad := contextAAD context sequence associatedData
  let box := crypto.sealBox key nonce aad plaintext
  nonce ++ (box.1 ++ box.2)

/-- `open`. -/
def openPayload (sealedPayload : List UInt8) (sequence : UInt64) (context : TransportCryptoContext)
    (associatedData : List UInt8) : Except TransportCryptoError (List UInt8) :=
  if sealedPayload.length < nonceBytes + tagBytes then .error .invalidSealedPayload
  else
    let nonce := sealedPayload.take nonceBytes
    let authenticatedPayload := sealedPayload.drop nonceBytes
    let split := authenticatedPayload.length - tagBytes
    let ciphertext := authenticatedPayload.take split
    let tag := authenticatedPayload.drop split
    let key := cipher.derivedKey crypto context
    let aad := contextAAD context sequence associatedData
    match crypto.openBox key nonce aad (ciphertext, tag) with
    | some plaintext => .ok plaintext
    | none => .error .authenticationFailed

theorem contextBytes_injective {context other : TransportCryptoContext} {rest tail : List UInt8}
    (same : contextBytes context rest = contextBytes other tail) : context = other ∧ rest = tail := by
  unfold contextBytes at same
  obtain ⟨session, same⟩ := bigEndian_append_inj context.sessionHash.toNat_lt
    other.sessionHash.toNat_lt same
  obtain ⟨epoch, same⟩ := bigEndian_append_inj context.epoch.toNat_lt other.epoch.toNat_lt same
  obtain ⟨generation, same⟩ := bigEndian_append_inj context.generation.toNat_lt
    other.generation.toNat_lt same
  obtain ⟨direction, same⟩ := List.cons.inj same
  obtain ⟨channel, same⟩ := List.cons.inj same
  refine ⟨?_, same⟩
  cases context
  cases other
  rw [TransportCryptoContext.mk.injEq]
  exact ⟨UInt64.toNat_inj.mp session, UInt64.toNat_inj.mp epoch, UInt32.toNat_inj.mp generation,
    TransportDirection.rawValue_injective direction, TransportChannel.rawValue_injective channel⟩

/-- The authenticated data tells everything apart that it is made of. -/
theorem contextAAD_injective {context other : TransportCryptoContext} {sequence number : UInt64}
    {associatedData data : List UInt8}
    (same : contextAAD context sequence associatedData = contextAAD other number data) :
    context = other ∧ sequence = number ∧ associatedData = data := by
  obtain ⟨contexts, same⟩ := contextBytes_injective (append_cancel_left same)
  obtain ⟨numbers, same⟩ := bigEndian_append_inj sequence.toNat_lt number.toNat_lt same
  exact ⟨contexts, UInt64.toNat_inj.mp numbers, same⟩

end TransportCipher

/-! ## The ideal cipher -/

/-- A call of `seal`. -/
structure SealCall where
  cipher : TransportCipher
  nonce : List UInt8
  plaintext : List UInt8
  sequence : UInt64
  context : TransportCryptoContext
  associatedData : List UInt8
  deriving DecidableEq

namespace SealCall

variable (crypto : CryptoKit) (call : SealCall)

def key : List UInt8 := call.cipher.derivedKey crypto call.context

def aad : List UInt8 := TransportCipher.contextAAD call.context call.sequence call.associatedData

def box : List UInt8 × List UInt8 :=
  crypto.sealBox (call.key crypto) call.nonce call.aad call.plaintext

def payload : List UInt8 :=
  call.cipher.sealPayload crypto call.nonce call.plaintext call.sequence call.context call.associatedData

end SealCall

/-- CryptoKit as an ideal, for the ciphers in use and the calls of `seal` that are made: nonces are
drawn afresh, different root keys give different keys, and a box is opened with the key, the nonce
and the data that it was sealed with, and never otherwise. -/
structure Ideal (crypto : CryptoKit) (ciphers : Set TransportCipher) (calls : Set SealCall) : Prop
    where
  drawn : ∀ call ∈ calls, call.nonce.length = TransportCipher.nonceBytes
  fresh : ∀ call ∈ calls, ∀ other ∈ calls, call.nonce = other.nonce → call = other
  tagged : ∀ call ∈ calls, (call.box crypto).2.length = TransportCipher.tagBytes
  derived : ∀ call ∈ calls, ∀ cipher ∈ ciphers,
    cipher.derivedKey crypto call.context = call.key crypto → cipher = call.cipher
  opens : ∀ call ∈ calls,
    crypto.openBox (call.key crypto) call.nonce call.aad (call.box crypto) = some call.plaintext
  unforged : ∀ key nonce aad box plaintext, crypto.openBox key nonce aad box = some plaintext →
    ∃ call ∈ calls, call.key crypto = key ∧ call.nonce = nonce ∧ call.aad = aad ∧
      call.box crypto = box ∧ call.plaintext = plaintext

namespace Ideal

variable {crypto : CryptoKit} {ciphers : Set TransportCipher} {calls : Set SealCall}

/-- What was sealed is opened. -/
theorem openPayload_payload (ideal : Ideal crypto ciphers calls) {call : SealCall}
    (made : call ∈ calls) :
    call.cipher.openPayload crypto (call.payload crypto) call.sequence call.context
      call.associatedData = .ok call.plaintext := by
  have drawn := ideal.drawn call made
  have tagged := ideal.tagged call made
  have whole : call.payload crypto =
      call.nonce ++ ((call.box crypto).1 ++ (call.box crypto).2) := rfl
  have split : ((call.box crypto).1 ++ (call.box crypto).2).length - TransportCipher.tagBytes =
      (call.box crypto).1.length := by
    rw [length_append, tagged, Nat.add_sub_cancel]
  have long : ¬ (call.payload crypto).length <
      TransportCipher.nonceBytes + TransportCipher.tagBytes := by
    rw [whole, length_append, length_append, drawn, tagged]
    omega
  have opened := ideal.opens call made
  unfold TransportCipher.openPayload
  rw [if_neg long, whole]
  dsimp only
  rw [take_left' drawn, drop_left' drawn, split, take_left, drop_left]
  change (match crypto.openBox (call.key crypto) call.nonce call.aad (call.box crypto) with
    | some plaintext => (.ok plaintext : Except TransportCryptoError (List UInt8))
    | none => .error .authenticationFailed) = .ok call.plaintext
  rw [opened]

/-- What is opened was sealed with the same cipher, sequence, context and data. -/
theorem of_openPayload (ideal : Ideal crypto ciphers calls) {cipher : TransportCipher}
    (used : cipher ∈ ciphers) {sealedPayload plaintext associatedData : List UInt8}
    {sequence : UInt64} {context : TransportCryptoContext}
    (opened : cipher.openPayload crypto sealedPayload sequence context associatedData = .ok plaintext) :
    ∃ nonce, ⟨cipher, nonce, plaintext, sequence, context, associatedData⟩ ∈ calls ∧
      sealedPayload = cipher.sealPayload crypto nonce plaintext sequence context associatedData := by
  unfold TransportCipher.openPayload at opened
  split at opened
  · cases opened
  · rename_i long
    dsimp only at opened
    split at opened
    · rename_i text found
      cases opened
      obtain ⟨call, made, key, nonce, aad, box, rfl⟩ := ideal.unforged _ _ _ _ _ found
      obtain ⟨rfl, rfl, rfl⟩ := TransportCipher.contextAAD_injective aad
      cases ideal.derived call made cipher used key.symm
      refine ⟨call.nonce, made, ?_⟩
      change sealedPayload = call.nonce ++ ((call.box crypto).1 ++ (call.box crypto).2)
      rw [nonce, box, take_append_drop, take_append_drop]
    · cases opened

end Ideal

/-- CryptoKit as a record of the calls, with the plaintext for the ciphertext. -/
def recordedKit (calls : List SealCall) : CryptoKit where
  deriveKey root _ _ := root
  sealBox _ _ _ plaintext := (plaintext, List.replicate TransportCipher.tagBytes 0)
  openBox key nonce aad box :=
    (calls.find? fun call => call.cipher.rootKeyData = key && call.nonce = nonce && call.aad = aad
      && (call.plaintext, List.replicate TransportCipher.tagBytes 0) = box).map SealCall.plaintext

/-- A record of calls with nonces of their own is ideal. -/
theorem recordedKit_ideal {calls : List SealCall}
    (drawn : ∀ call ∈ calls, call.nonce.length = TransportCipher.nonceBytes)
    (fresh : ∀ call ∈ calls, ∀ other ∈ calls, call.nonce = other.nonce → call = other) :
    Ideal (recordedKit calls) Set.univ {call | call ∈ calls} where
  drawn := drawn
  fresh := fresh
  tagged := fun _ _ => length_replicate
  derived := fun call _ cipher _ same => by
    cases cipher
    obtain ⟨⟨_, _⟩, _⟩ := call
    cases (same : _ = _)
    rfl
  opens := fun call made => by
    cases found : calls.find? fun other => other.cipher.rootKeyData = call.cipher.rootKeyData
        && other.nonce = call.nonce && other.aad = call.aad
        && (other.plaintext, List.replicate TransportCipher.tagBytes 0) =
          (call.plaintext, List.replicate TransportCipher.tagBytes (0 : UInt8)) with
    | none => exact absurd (find?_eq_none.mp found call made) (by simp)
    | some other =>
        have same := find?_some found
        simp only [Bool.and_eq_true, decide_eq_true_eq] at same
        cases fresh other (mem_of_find?_eq_some found) call made same.1.1.2
        exact congrArg (Option.map SealCall.plaintext) found
  unforged := fun key nonce aad box plaintext opened => by
    obtain ⟨call, found, text⟩ := Option.map_eq_some_iff.mp opened
    have same := find?_some found
    simp only [Bool.and_eq_true, decide_eq_true_eq] at same
    exact ⟨call, mem_of_find?_eq_some found, same.1.1.1, same.1.1.2, same.1.2, same.2, text⟩

end ExecutionHandoff.TakeoverCore
