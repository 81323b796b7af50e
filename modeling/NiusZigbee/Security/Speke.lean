import NiusZigbee.Security.CcmStar
import NiusZigbee.Security.Curve25519Ladder

/-!
# Dynamic link keys by SPEKE

Both sides map the password to a coordinate, exchange scalar multiples of it and hash the multiple
of the multiple. An output of the source that is not written on failure is an `Option`.
-/

namespace NiusZigbee

namespace ZigbeeApsSecurity

/-- The message, a byte `0x80`, zeros and the bit length in the last two of `total` bytes. -/
def mmoPad (msg : List UInt8) (total : Nat) : List UInt8 :=
  let bitLen := (msg.length * 8).toUInt16
  msg ++ 0x80 :: List.replicate (total - 2 - (msg.length + 1)) (0 : UInt8) ++
    [(bitLen >>> 8).toUInt8, (bitLen &&& 0xFF).toUInt8]

/-- The AES-MMO hash; the messages of all callers fit in `uint16_t` with their padding. -/
def aesMmoHash (ecb : BlockCipher) (msg : List UInt8) : Option Block :=
  let total := (msg.length + 3 + 15) / 16 * 16
  if total > 96 then none
  else
    let buf := mmoPad msg total
    some ((List.range (total / 16)).foldl (fun hash k =>
      let block := Block.ofList (buf.drop (16 * k))
      (ecb hash block).xor block) (Block.ofList []))

theorem aesMmoHash_isSome (ecb : BlockCipher) {msg : List UInt8} (h : msg.length ≤ 93) :
    ∃ hash, aesMmoHash ecb msg = some hash := by
  have hfits : ¬(msg.length + 3 + 15) / 16 * 16 > 96 := by omega
  exact ⟨_, if_neg hfits⟩

end ZigbeeApsSecurity

namespace ZigbeeSpeke

open ZigbeeApsSecurity

variable (ecb : BlockCipher)

/-- At most 78 bytes of the password count, behind `S` and the number of the half. -/
def generator (password : List UInt8) : Option (Vector UInt8 32) := do
  let password := password.take (80 - 2)
  let low ← aesMmoHash ecb (0x53 :: 0 :: password)
  let high ← aesMmoHash ecb (0x53 :: 1 :: password)
  some (low ++ high)

def publicShare (password : List UInt8) (myScalar : Vector UInt8 32) :
    Option (Vector UInt8 32) := do
  let gen ← generator ecb password
  some (ZigbeeCurve25519.scalarMult myScalar gen)

def linkKey (myScalar peerShare : Vector UInt8 32) : Option Block :=
  let k := ZigbeeCurve25519.scalarMult myScalar peerShare
  aesMmoHash ecb (0x4C :: 0x4B :: k.toList)

theorem generator_isSome (password : List UInt8) : ∃ gen, generator ecb password = some gen := by
  have hlength : ∀ half, (0x53 :: half :: password.take (80 - 2) : List UInt8).length ≤ 93 := by
    intro half
    have htake := List.length_take_le (80 - 2) password
    rw [List.length_cons, List.length_cons]
    omega
  obtain ⟨low, hlow⟩ := aesMmoHash_isSome ecb (hlength 0)
  obtain ⟨high, hhigh⟩ := aesMmoHash_isSome ecb (hlength 1)
  refine ⟨low ++ high, ?_⟩
  simp only [generator, hlow, hhigh, Option.bind_eq_bind, Option.bind_some]

/-- Two sides with one password and honest shares derive one key, and all of it is written. -/
theorem linkKey_agree (password : List UInt8) (a b : Vector UInt8 32) :
    ∃ shareA shareB key, publicShare ecb password a = some shareA ∧
      publicShare ecb password b = some shareB ∧
      linkKey ecb a shareB = some key ∧ linkKey ecb b shareA = some key := by
  obtain ⟨gen, hgen⟩ := generator_isSome ecb password
  have hcomm := ZigbeeCurve25519.scalarMult_comm a b gen
  have hlength : ∀ k : Vector UInt8 32, (0x4C :: 0x4B :: k.toList : List UInt8).length ≤ 93 := by
    intro k
    rw [List.length_cons, List.length_cons, Vector.length_toList]
    decide
  obtain ⟨key, hkey⟩ := aesMmoHash_isSome ecb
    (hlength (ZigbeeCurve25519.scalarMult a (ZigbeeCurve25519.scalarMult b gen)))
  refine ⟨ZigbeeCurve25519.scalarMult a gen, ZigbeeCurve25519.scalarMult b gen, key, ?_, ?_, hkey,
    ?_⟩
  · rw [publicShare, hgen]
    rfl
  · rw [publicShare, hgen]
    rfl
  · rw [linkKey, ← hcomm]
    exact hkey

end ZigbeeSpeke

end NiusZigbee
