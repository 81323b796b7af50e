import NiusZigbee.Security.Aes128Decrypt
import NiusZigbee.Security.AesMmo

/-!
# Key transport in touchlink

Both sides derive a transport key from the master key and the two ids of the transaction. The
network key travels under it, encrypted by the chip and decrypted in software.
-/

namespace NiusZigbee.ZigbeeTouchlink

open ZigbeeAes128Decrypt

/-- Most significant byte first. -/
def putBe32 (v : UInt32) : List UInt8 :=
  [(v >>> 24).toUInt8, (v >>> 16).toUInt8, (v >>> 8).toUInt8, v.toUInt8]

variable (encrypt : Encrypt)

/-- `none` is the source's `false`. -/
def deriveTransportKey (masterKey : Block) (transactionId responseId : UInt32) : Option Block :=
  encrypt masterKey (Block.ofList (putBe32 transactionId ++ putBe32 transactionId ++
    putBe32 responseId ++ putBe32 responseId))

def encryptNetworkKey (masterKey : Block) (transactionId responseId : UInt32)
    (networkKey : Block) : Option Block := do
  let tk ← deriveTransportKey encrypt masterKey transactionId responseId
  encrypt tk networkKey

def decryptNetworkKey (masterKey : Block) (transactionId responseId : UInt32)
    (encrypted : Block) : Option Block := do
  let tk ← deriveTransportKey encrypt masterKey transactionId responseId
  return decryptBlock tk encrypted

/-- Wherever it does not fail, the chip computes the cipher. -/
def ComputesAes : Prop :=
  ∀ key block out, encrypt key block = some out → out = Aes128.encrypt key block

variable {encrypt}

theorem decryptNetworkKey_encrypt (h : ComputesAes encrypt) {masterKey networkKey out : Block}
    {transactionId responseId : UInt32}
    (hout : encryptNetworkKey encrypt masterKey transactionId responseId networkKey = some out) :
    decryptNetworkKey encrypt masterKey transactionId responseId out = some networkKey := by
  obtain ⟨tk, htk, hencrypt⟩ := Option.bind_eq_some_iff.mp hout
  rw [decryptNetworkKey, htk, h tk networkKey out hencrypt]
  exact congrArg some (decryptBlock_encrypt tk networkKey)

/-- Other ids or another master key recover the network key only where their transport key encrypts
it to the same block. -/
theorem decryptNetworkKey_eq_some {masterKey networkKey encrypted : Block}
    {transactionId responseId : UInt32} :
    decryptNetworkKey encrypt masterKey transactionId responseId encrypted = some networkKey ↔
      ∃ tk, deriveTransportKey encrypt masterKey transactionId responseId = some tk ∧
        Aes128.encrypt tk networkKey = encrypted := by
  rw [decryptNetworkKey, Option.bind_eq_bind, Option.bind_eq_some_iff]
  apply exists_congr
  intro tk
  apply and_congr_right
  intro htk
  rw [Option.pure_def, Option.some.injEq]
  constructor
  · rintro rfl
    exact encrypt_decryptBlock tk encrypted
  · rintro rfl
    exact decryptBlock_encrypt tk networkKey

/-- Software decryption takes back the cipher, and so what touchlink does with the network key. -/
theorem software_decryption_inverts :
    (∀ key block, decryptBlock key (Aes128.encrypt key block) = block) ∧
      ∀ encrypt : Encrypt, (∀ key block, encrypt key block = some (Aes128.encrypt key block)) →
        ∀ masterKey transactionId responseId networkKey,
          (encryptNetworkKey encrypt masterKey transactionId responseId networkKey).bind
            (decryptNetworkKey encrypt masterKey transactionId responseId) = some networkKey := by
  refine ⟨decryptBlock_encrypt, fun encrypt h masterKey transactionId responseId networkKey => ?_⟩
  have haes : ComputesAes encrypt := by
    intro key block out hout
    exact Option.some.inj (hout.symm.trans (h key block))
  obtain ⟨out, hout⟩ : ∃ out,
      encryptNetworkKey encrypt masterKey transactionId responseId networkKey = some out :=
    ⟨_, by rw [encryptNetworkKey, deriveTransportKey, h]; exact h _ _⟩
  rw [hout, Option.bind_some, decryptNetworkKey_encrypt haes hout]

theorem software_decryption_inverts_network_key :
    (encryptNetworkKey (ZigbeeApsSecurity.Checked.ofCipher Aes128.encrypt) (Block.ofList [0x9F])
      1 2 (Block.ofList [0xC0])).bind
      (decryptNetworkKey (ZigbeeApsSecurity.Checked.ofCipher Aes128.encrypt) (Block.ofList [0x9F])
        1 2) = some (Block.ofList [0xC0]) :=
  software_decryption_inverts.2 _ (fun _ _ => rfl) _ _ _ _

end NiusZigbee.ZigbeeTouchlink
