import NiusZigbee.Library.Scratch
import NiusZigbee.Security.Aes128
import NiusZigbee.Security.Speke

/-!
# The AES-MMO hash and its HMAC in their buffers

Both pad or concatenate in a buffer of fixed size, after a check of the size needed, which is
narrowed to 16 bits first. The chip's cipher may fail, and every access to a buffer is checked.
-/

namespace NiusZigbee

open Scratch

/-- `NrfEcb::encrypt` with its failure: a key, a block, the block it becomes. -/
abbrev Encrypt := Block → Block → Option Block

namespace ZigbeeApsSecurity.Checked

variable (encrypt : Encrypt)

/-- The rounds over `n` blocks of `bytes`; the hash so far is the key. -/
def mmoChain (hash : Block) : Nat → List UInt8 → Option Block
  | 0, _ => some hash
  | n + 1, bytes =>
    (encrypt hash (Block.ofList bytes)).bind fun enc =>
      mmoChain (enc.xor (Block.ofList bytes)) n (bytes.drop 16)

/-- `none` is the source's `false`; `scratch` is `buf` as it comes. -/
def aesMmoHash (scratch : Vector UInt8 96) (msg : List UInt8) : Except Fault (Option Block) :=
  let total := ((msg.length + 3 + 15) / 16 * 16).toUInt16
  if total.toNat > 96 then .ok none
  else do
    let buf ← write scratch.toList 0 (List.replicate total.toNat 0)
    let buf ← write buf 0 msg
    let buf ← write buf msg.length [0x80]
    let bitLen := (msg.length * 8).toUInt16
    let buf ← write buf ((total.toNat : Int) - 2) [(bitLen >>> 8).toUInt8]
    let buf ← write buf ((total.toNat : Int) - 1) [(bitLen &&& 0xFF).toUInt8]
    let bytes ← read buf total.toNat
    return mmoChain encrypt (Block.ofList []) (total.toNat / 16) bytes

/-- The buffers of one `hmacAesMmo`: its own, and those of its two hashes. -/
structure HmacScratch where
  buf : Vector UInt8 80
  inner : Vector UInt8 96
  outer : Vector UInt8 96

def hmacAesMmo (scratch : HmacScratch) (key : Block) (data : List UInt8) :
    Except Fault (Option Block) :=
  let kIpad := key.map (· ^^^ 0x36)
  let kOpad := key.map (· ^^^ 0x5C)
  let len := (16 + data.length).toUInt16
  if len.toNat > 80 then .ok none
  else do
    let buf ← write scratch.buf.toList 0 kIpad.toList
    let buf ← write buf 16 data
    let msg ← read buf len.toNat
    let inner ← aesMmoHash encrypt scratch.inner msg
    match inner with
    | none => .ok none
    | some inner => aesMmoHash encrypt scratch.outer (kOpad.toList ++ inner.toList)

/-! ## The hash and the HMAC themselves -/

/-- The message, `0x80`, as few zeros as fill the last block, and the bit length, high byte
first. -/
def padded (msg : List UInt8) : List UInt8 :=
  msg ++ 0x80 :: List.replicate ((16 - (msg.length + 3) % 16) % 16) 0 ++
    [(msg.length * 8 / 2 ^ 8).toUInt8, (msg.length * 8).toUInt8]

/-- Matyas-Meyer-Oseas over the padded message; `none` if the cipher fails. -/
def mmoHash (msg : List UInt8) : Option Block :=
  mmoChain encrypt (Block.ofList []) ((padded msg).length / 16) (padded msg)

def hmacMmo (key : Block) (data : List UInt8) : Option Block :=
  (mmoHash encrypt ((key.map (· ^^^ 0x36)).toList ++ data)).bind fun inner =>
    mmoHash encrypt ((key.map (· ^^^ 0x5C)).toList ++ inner.toList)

/-- The call returns `false` or what it is to compute, and stays inside its buffers. -/
def CorrectOrRefuses (outcome : Except Fault (Option Block)) (expected : Option Block) : Prop :=
  outcome = .ok none ∨ ∃ hash, outcome = .ok (some hash) ∧ expected = some hash

theorem correctOrRefuses_ok (r : Option Block) : CorrectOrRefuses (.ok r) r := by
  cases r with
  | none => exact Or.inl rfl
  | some hash => exact Or.inr ⟨hash, rfl, rfl⟩

theorem not_correctOrRefuses_error {fault : Fault} {expected : Option Block} :
    ¬ CorrectOrRefuses (.error fault) expected := by
  rintro (h | ⟨_, h, -⟩)
  · cases h
  · cases h

/-! ## The hash -/

variable {encrypt} {msg data : List UInt8}

theorem padded_length (msg : List UInt8) :
    (padded msg).length = (msg.length + 3 + 15) / 16 * 16 := by
  simp only [padded, List.length_append, List.length_cons, List.length_replicate, List.length_nil]
  omega

private theorem clear_scratch (scratch : Vector UInt8 96) {total : Nat} (h : total ≤ 96) :
    write scratch.toList 0 (List.replicate total 0) =
      .ok (List.replicate total 0 ++ scratch.toList.drop total) := by
  have hwrite := @write_append _ [] (scratch.toList.take total) (List.replicate total (0 : UInt8))
    (scratch.toList.drop total)
    (by rw [List.length_take, Vector.length_toList, List.length_replicate]; omega) 0 rfl
  rwa [List.nil_append, List.nil_append, List.take_append_drop] at hwrite

private theorem writes_padded (scratch : Vector UInt8 96) {zeros total : Nat}
    (htotal : total = msg.length + (zeros + 3)) (h : total ≤ 96) (hi lo : UInt8) {β : Type}
    (k : List UInt8 → Except Fault β) :
    (do
      let buf ← write scratch.toList 0 (List.replicate total 0)
      let buf ← write buf 0 msg
      let buf ← write buf msg.length [0x80]
      let buf ← write buf ((total : Int) - 2) [hi]
      let buf ← write buf ((total : Int) - 1) [lo]
      let bytes ← read buf total
      k bytes) = k (msg ++ 0x80 :: List.replicate zeros 0 ++ [hi, lo]) := by
  let rest := scratch.toList.drop total
  let front := msg ++ 0x80 :: List.replicate zeros 0
  have hfront : front.length = total - 2 := by
    simp only [front, List.length_append, List.length_cons, List.length_replicate]
    omega
  have hclear : write scratch.toList 0 (List.replicate total 0) =
      .ok (List.replicate total 0 ++ rest) := clear_scratch scratch h
  have hmsg : write (List.replicate total 0 ++ rest) 0 msg =
      .ok (msg ++ (List.replicate (zeros + 3) 0 ++ rest)) := by
    have hwrite := @write_append _ [] (List.replicate msg.length (0 : UInt8)) msg
      (List.replicate (zeros + 3) 0 ++ rest) List.length_replicate 0 rfl
    rwa [List.nil_append, List.nil_append, ← List.append_assoc, List.replicate_append_replicate,
      ← htotal] at hwrite
  have hmark : write (msg ++ (List.replicate (zeros + 3) 0 ++ rest)) msg.length [0x80] =
      .ok (front ++ ([0] ++ ([0] ++ rest))) := by
    have hwrite := @write_append _ msg [(0 : UInt8)] [0x80] (List.replicate (zeros + 2) 0 ++ rest)
      rfl msg.length rfl
    have hzeros : List.replicate (zeros + 2) (0 : UInt8) =
        List.replicate zeros 0 ++ ([0] ++ [0]) := by
      rw [List.replicate_add]
      rfl
    rw [List.append_assoc, ← List.append_assoc [0], ← List.replicate_one,
      List.replicate_append_replicate, Nat.add_comm 1, hzeros] at hwrite
    rw [hwrite]
    simp [front]
  have hhi : write (front ++ ([0] ++ ([0] ++ rest))) ((total : Int) - 2) [hi] =
      .ok ((front ++ [hi]) ++ ([0] ++ rest)) := by
    have hwrite := @write_append _ front [(0 : UInt8)] [hi] ([0] ++ rest) rfl ((total : Int) - 2)
      (by omega)
    rwa [List.append_assoc front] at hwrite
  have hlo : write ((front ++ [hi]) ++ ([0] ++ rest)) ((total : Int) - 1) [lo] =
      .ok ((front ++ [hi, lo]) ++ rest) := by
    have hwrite := @write_append _ (front ++ [hi]) [(0 : UInt8)] [lo] rest rfl ((total : Int) - 1)
      (by rw [List.length_append, List.length_singleton]; omega)
    rw [List.append_assoc (front ++ [hi])] at hwrite
    rw [hwrite]
    simp
  have hread : read ((front ++ [hi, lo]) ++ rest) total = .ok (front ++ [hi, lo]) :=
    read_append (by
      rw [List.length_append, hfront]
      simp only [List.length_cons, List.length_nil]
      omega)
  simp only [hclear, hmsg, hmark, hhi, hlo, hread, bind, Except.bind]
  rfl

private theorem bitLen_bytes (h : msg.length ≤ 93) :
    ((msg.length * 8).toUInt16 >>> 8).toUInt8 = (msg.length * 8 / 2 ^ 8).toUInt8 ∧
      ((msg.length * 8).toUInt16 &&& 0xFF).toUInt8 = (msg.length * 8).toUInt8 := by
  have hsmall : ∀ n : Nat, n < 94 →
      ((n * 8).toUInt16 >>> 8).toUInt8 = (n * 8 / 2 ^ 8).toUInt8 ∧
        ((n * 8).toUInt16 &&& 0xFF).toUInt8 = (n * 8).toUInt8 := by decide
  exact hsmall msg.length (by omega)

theorem aesMmoHash_short (scratch : Vector UInt8 96) (h : msg.length ≤ 93) :
    aesMmoHash encrypt scratch msg = .ok (mmoHash encrypt msg) := by
  have hle : (msg.length + 3 + 15) / 16 * 16 ≤ 96 := by omega
  have htotal : ((msg.length + 3 + 15) / 16 * 16).toUInt16.toNat =
      (msg.length + 3 + 15) / 16 * 16 := Nat.mod_eq_of_lt (by omega)
  have hbits := bitLen_bytes h
  rw [aesMmoHash, htotal, if_neg (by omega)]
  refine (@writes_padded msg scratch ((16 - (msg.length + 3) % 16) % 16) _ (by omega) hle _ _ _
    _).trans ?_
  rw [hbits.1, hbits.2, mmoHash, padded_length]
  rfl

theorem aesMmoHash_refused (scratch : Vector UInt8 96) (h : 93 < msg.length)
    (h' : msg.length < 65518) : aesMmoHash encrypt scratch msg = .ok none := by
  have htotal : ((msg.length + 3 + 15) / 16 * 16).toUInt16.toNat =
      (msg.length + 3 + 15) / 16 * 16 := Nat.mod_eq_of_lt (by omega)
  rw [aesMmoHash, htotal, if_pos (by omega)]

/-- From 65518 bytes on the size is narrowed to 0 or 16, and the message runs over the buffer. -/
theorem aesMmoHash_overrun (scratch : Vector UInt8 96) (h : 65518 ≤ msg.length)
    (h' : msg.length ≤ 65535) : aesMmoHash encrypt scratch msg = .error .outside := by
  have htotal : ((msg.length + 3 + 15) / 16 * 16).toUInt16.toNat ≤ 96 := by
    change (msg.length + 3 + 15) / 16 * 16 % 2 ^ 16 ≤ 96
    omega
  have hmsg : write (List.replicate ((msg.length + 3 + 15) / 16 * 16).toUInt16.toNat 0 ++
      scratch.toList.drop ((msg.length + 3 + 15) / 16 * 16).toUInt16.toNat) 0 msg =
      .error .outside := by
    apply write_outside
    rw [List.length_append, List.length_replicate, List.length_drop, Vector.length_toList]
    omega
  rw [aesMmoHash, if_neg (by omega), clear_scratch scratch htotal]
  simp only [hmsg, bind, Except.bind]

theorem aesMmoHash_correct_iff (scratch : Vector UInt8 96) (h : msg.length ≤ 65535) :
    CorrectOrRefuses (aesMmoHash encrypt scratch msg) (mmoHash encrypt msg) ↔
      msg.length < 65518 := by
  by_cases hover : 65518 ≤ msg.length
  · rw [aesMmoHash_overrun scratch hover h]
    exact iff_of_false not_correctOrRefuses_error (by omega)
  · refine iff_of_true ?_ (by omega)
    by_cases hshort : msg.length ≤ 93
    · rw [aesMmoHash_short scratch hshort]
      exact correctOrRefuses_ok _
    · exact Or.inl (aesMmoHash_refused scratch (by omega) (by omega))

/-! ## The HMAC -/

variable {key : Block}

private theorem write_key (buf : Vector UInt8 80) (kIpad : Block) :
    write buf.toList 0 kIpad.toList = .ok (kIpad.toList ++ buf.toList.drop 16) := by
  have hwrite := @write_append _ [] (buf.toList.take 16) kIpad.toList (buf.toList.drop 16)
    (by rw [List.length_take, Vector.length_toList, Vector.length_toList]; rfl) 0 rfl
  rwa [List.nil_append, List.nil_append, List.take_append_drop] at hwrite

private theorem read_concat (buf : Vector UInt8 80) (kIpad : Block) (h : data.length ≤ 64)
    {β : Type} (k : List UInt8 → Except Fault β) :
    (do
      let buf ← write buf.toList 0 kIpad.toList
      let buf ← write buf 16 data
      let msg ← read buf (16 + data.length)
      k msg) = k (kIpad.toList ++ data) := by
  have hdata := @write_append _ kIpad.toList ((buf.toList.drop 16).take data.length) data
    ((buf.toList.drop 16).drop data.length)
    (by rw [List.length_take, List.length_drop, Vector.length_toList]; omega) 16
    (by rw [Vector.length_toList]; rfl)
  rw [List.append_assoc, List.take_append_drop] at hdata
  have hread := @read_append _ (kIpad.toList ++ data) ((buf.toList.drop 16).drop data.length)
    (16 + data.length) (by rw [List.length_append, Vector.length_toList])
  simp only [write_key, hdata, hread, bind, Except.bind]

theorem hmacAesMmo_short (scratch : HmacScratch) (h : data.length ≤ 64) :
    hmacAesMmo encrypt scratch key data = .ok (hmacMmo encrypt key data) := by
  have hlen : (16 + data.length).toUInt16.toNat = 16 + data.length := Nat.mod_eq_of_lt (by omega)
  rw [hmacAesMmo, hlen, if_neg (by omega)]
  refine (read_concat scratch.buf _ h _).trans ?_
  rw [aesMmoHash_short _ (by rw [List.length_append, Vector.length_toList]; omega), hmacMmo]
  cases mmoHash encrypt ((key.map (· ^^^ 0x36)).toList ++ data) with
  | none => rfl
  | some inner =>
    exact aesMmoHash_short _ (by
      rw [List.length_append, Vector.length_toList, Vector.length_toList]
      decide)

theorem hmacAesMmo_refused (scratch : HmacScratch) (h : 64 < data.length)
    (h' : data.length < 65520) : hmacAesMmo encrypt scratch key data = .ok none := by
  have hlen : (16 + data.length).toUInt16.toNat = 16 + data.length := Nat.mod_eq_of_lt (by omega)
  rw [hmacAesMmo, hlen, if_pos (by omega)]

/-- From 65520 bytes on the sum is narrowed to less than 16, and the data run over the buffer. -/
theorem hmacAesMmo_overrun (scratch : HmacScratch) (h : 65520 ≤ data.length)
    (h' : data.length ≤ 65535) : hmacAesMmo encrypt scratch key data = .error .outside := by
  have hlen : (16 + data.length).toUInt16.toNat ≤ 80 := by
    change (16 + data.length) % 2 ^ 16 ≤ 80
    omega
  have hdata : write ((key.map (· ^^^ 0x36)).toList ++ scratch.buf.toList.drop 16) 16 data =
      .error .outside := by
    apply write_outside
    rw [List.length_append, List.length_drop, Vector.length_toList, Vector.length_toList]
    omega
  rw [hmacAesMmo, if_neg (by omega)]
  simp only [write_key, hdata, bind, Except.bind]

theorem hmacAesMmo_correct_iff (scratch : HmacScratch) (h : data.length ≤ 65535) :
    CorrectOrRefuses (hmacAesMmo encrypt scratch key data) (hmacMmo encrypt key data) ↔
      data.length < 65520 := by
  by_cases hover : 65520 ≤ data.length
  · rw [hmacAesMmo_overrun scratch hover h]
    exact iff_of_false not_correctOrRefuses_error (by omega)
  · refine iff_of_true ?_ (by omega)
    by_cases hshort : data.length ≤ 64
    · rw [hmacAesMmo_short scratch hshort]
      exact correctOrRefuses_ok _
    · exact Or.inl (hmacAesMmo_refused scratch (by omega) (by omega))

/-- On messages of up to 65535 bytes the hash is computed or refused, inside its buffer, exactly
below 65518 bytes, and the HMAC exactly below 65520. -/
theorem hash_and_hmac_iff (encrypt : Encrypt) :
    (∀ (scratch : Vector UInt8 96) (msg : List UInt8), msg.length ≤ 65535 →
      (CorrectOrRefuses (aesMmoHash encrypt scratch msg) (mmoHash encrypt msg) ↔
        msg.length < 65518)) ∧
      ∀ (scratch : HmacScratch) (key : Block) (data : List UInt8), data.length ≤ 65535 →
        (CorrectOrRefuses (hmacAesMmo encrypt scratch key data) (hmacMmo encrypt key data) ↔
          data.length < 65520) :=
  ⟨fun scratch _ h => aesMmoHash_correct_iff scratch h,
    fun scratch _ _ h => hmacAesMmo_correct_iff scratch h⟩

/-- The link key of an install code is the hash of eighteen bytes. -/
theorem hash_and_hmac_install_code :
    let code := List.replicate 18 0x5A
    let encrypt : Encrypt := fun key block => some (Aes128.encrypt key block)
    CorrectOrRefuses (aesMmoHash encrypt (Vector.replicate 96 0xEE) code)
      (mmoHash encrypt code) := by
  intro code encrypt
  exact ((hash_and_hmac_iff encrypt).1 _ code (by decide)).mpr (by decide)

/-- A message of 65535 bytes is copied into the 96 bytes of the buffer. -/
theorem longest_message_overruns : ¬ ∀ (encrypt : Encrypt) (scratch : Vector UInt8 96)
    (msg : List UInt8), msg.length ≤ 65535 →
      CorrectOrRefuses (aesMmoHash encrypt scratch msg) (mmoHash encrypt msg) := by
  intro h
  have hlength : (List.replicate 65535 (0 : UInt8)).length = 65535 := List.length_replicate
  have hcorrect := h (fun key block => some (Aes128.encrypt key block)) (Vector.replicate 96 0)
    (List.replicate 65535 0) (by rw [hlength])
  rw [aesMmoHash_overrun _ (by rw [hlength]; decide) (by rw [hlength])] at hcorrect
  exact not_correctOrRefuses_error hcorrect

/-- A cipher that never fails. -/
def ofCipher (ecb : BlockCipher) : Encrypt := fun key block => some (ecb key block)

theorem mmoChain_ofCipher (ecb : BlockCipher) (hash : Block) (n : Nat) (bytes : List UInt8) :
    mmoChain (ofCipher ecb) hash n bytes =
      some ((List.range n).foldl (fun hash k =>
        (ecb hash (Block.ofList (bytes.drop (16 * k)))).xor (Block.ofList (bytes.drop (16 * k))))
        hash) := by
  induction n generalizing hash bytes with
  | zero => rfl
  | succ n ih =>
    rw [mmoChain, ofCipher, Option.bind_some]
    refine (ih _ _).trans ?_
    have hdrop : ∀ k, (bytes.drop 16).drop (16 * k) = bytes.drop (16 * (k + 1)) := by
      intro k
      rw [List.drop_drop]
      congr 1
      omega
    simp only [hdrop, List.range_succ_eq_map, List.foldl_cons, List.foldl_map, Nat.mul_zero,
      List.drop_zero, Nat.succ_eq_add_one]

/-- With a cipher that never fails, the hash in its buffer is the one of the short messages. -/
theorem aesMmoHash_ofCipher (ecb : BlockCipher) (scratch : Vector UInt8 96) (h : msg.length ≤ 93) :
    aesMmoHash (ofCipher ecb) scratch msg = .ok (ZigbeeApsSecurity.aesMmoHash ecb msg) := by
  have hfits : ¬(msg.length + 3 + 15) / 16 * 16 > 96 := by omega
  have hpad : padded msg = mmoPad msg ((msg.length + 3 + 15) / 16 * 16) := by
    obtain ⟨hhigh, hlow⟩ := bitLen_bytes h
    have hzeros : (msg.length + 3 + 15) / 16 * 16 - 2 - (msg.length + 1) =
        (16 - (msg.length + 3) % 16) % 16 := by omega
    simp only [padded, mmoPad, hhigh, hlow, hzeros]
  rw [aesMmoHash_short scratch h, mmoHash, mmoChain_ofCipher, padded_length, hpad,
    ZigbeeApsSecurity.aesMmoHash, if_neg hfits]

end ZigbeeApsSecurity.Checked

end NiusZigbee
