import NiusZigbee.Library.Ccm
import NiusZigbee.Security.CcmStar

/-!
# CCM*, loop by loop

`ccmStarCrypt` with the loops and the `uint8_t` counters it runs: chunks are filled, zero-filled and
chained, and the payload is taken under one counter block after the other. The loops end, and what
they compute is the mode as it is defined, with `L = 2`.
-/

namespace NiusZigbee.CcmLoops

open ByteCodec

/-- `while (fill < 16 && pos < len) chunk[fill++] = data[pos++];` -/
def fillChunk (data : List UInt8) (len pos : UInt8) (fill : Nat) (chunk : Block) :
    UInt8 × Nat × Block :=
  if h : fill < 16 ∧ pos < len then
    fillChunk data len (pos + 1) (fill + 1) (chunk.set fill (data.getD pos.toNat 0) h.1)
  else (pos, fill, chunk)
termination_by 16 - fill

/-- `while (fill < 16) chunk[fill++] = 0;` -/
def zeroFill (fill : Nat) (chunk : Block) : Block :=
  if h : fill < 16 then zeroFill (fill + 1) (chunk.set fill 0 h) else chunk
termination_by 16 - fill

variable (ecb : BlockCipher) (key : Block)

/-- `while (pos < len)` over the chunks; `none` is a loop that has not ended after `fuel` rounds. -/
def macLoop (data : List UInt8) (len : UInt8) : Nat → UInt8 → Nat → Block → Block → Option Block
  | 0, _, _, _, _ => none
  | fuel + 1, pos, fill, chunk, x =>
    if pos < len then
      let (pos, fill, chunk) := fillChunk data len pos fill chunk
      let chunk := zeroFill fill chunk
      macLoop data len fuel pos 0 chunk (ecb key (x.xor chunk))
    else some x

/-- `for (i = 0; i < 16 && pos < len; ++i, ++pos) out[pos] = in[pos] ^ ks[i];` -/
def ctrFill (inp : List UInt8) (len : UInt8) (ks : Block) (i : Nat) (pos : UInt8)
    (out : List UInt8) : UInt8 × List UInt8 :=
  if h : i < 16 ∧ pos < len then
    ctrFill inp len ks (i + 1) (pos + 1) (out ++ [inp.getD pos.toNat 0 ^^^ ks[i]])
  else (pos, out)
termination_by 16 - i

def ctrLoop (nonce inp : List UInt8) (len : UInt8) :
    Nat → UInt16 → UInt8 → List UInt8 → Option (List UInt8)
  | 0, _, _, _ => none
  | fuel + 1, counter, pos, out =>
    if pos < len then
      let ks := ecb key (CcmStar.counterBlock nonce counter)
      let (pos, out) := ctrFill inp len ks 0 pos out
      ctrLoop nonce inp len fuel (counter + 1) pos out
    else some out

/-- `diff |= micIn[i] ^ x[i] ^ s0[i]` over the MIC. -/
def micDiff (micLen : Nat) (micIn tag : List UInt8) : UInt8 :=
  (List.range micLen).foldl (fun diff i => diff ||| (micIn.getD i 0 ^^^ tag.getD i 0)) 0

/-- The function with its buffers; the inner `none` is its `return false`. -/
def ccmStarCrypt (encrypt : Bool) (micLen : Nat) (nonce aad inp : List UInt8)
    (micIn : Option (List UInt8)) : Option (Option (List UInt8 × List UInt8)) := do
  let aadLen := aad.length.toUInt8
  let inLen := inp.length.toUInt8
  let x := ecb key (CcmStar.blockB0 micLen nonce inp.length)
  let chunk : Block := Block.ofList [0, aadLen]
  let x ← macLoop ecb key aad aadLen 256 0 2 chunk x
  let x ← macLoop ecb key inp inLen 256 0 0 chunk x
  let s0 := ecb key (CcmStar.counterBlock nonce 0)
  let micOut := (x.xor s0).toList.take micLen
  if micIn.any fun micIn => micDiff micLen micIn micOut ≠ 0 then return none
  else if encrypt then
    let out ← ctrLoop ecb key nonce inp inLen 256 1 0 []
    return some (out, micOut)
  else return some ([], micOut)

/-! ## The chunks -/

theorem fillChunk_eq {data : List UInt8} {len pos : UInt8} {fill : Nat} (chunk : Block)
    (hlen : data.length = len.toNat) (hpos : pos.toNat ≤ len.toNat) (hfill : fill ≤ 16) :
    let taken := slice data pos.toNat (16 - fill)
    ∃ pos' chunk', fillChunk data len pos fill chunk = (pos', fill + taken.length, chunk') ∧
      pos'.toNat = pos.toNat + taken.length ∧
      chunk'.toList.take (fill + taken.length) = chunk.toList.take fill ++ taken := by
  obtain ⟨n, hn⟩ : ∃ n, 16 - fill = n := ⟨_, rfl⟩
  rw [hn]
  induction n generalizing pos fill chunk with
  | zero =>
    refine ⟨pos, chunk, ?_, rfl, (List.append_nil _).symm⟩
    rw [fillChunk, dif_neg (by omega)]
    rfl
  | succ n ih =>
    by_cases hmore : pos < len
    · have hlt : pos.toNat < len.toNat := UInt8.lt_iff_toNat_lt.mp hmore
      have hbyte := len.toNat_lt
      have hsucc : (pos + 1).toNat = pos.toNat + 1 := toNat_succ (by omega)
      have hget : data.getD pos.toNat 0 = data[pos.toNat] := by
        simp [List.getD_eq_getElem?_getD, hlen ▸ hlt]
      have hfill' : fill < 16 := by omega
      obtain ⟨pos', chunk', hrun, hpos', htake⟩ := @ih (pos + 1) (fill + 1)
        (chunk.set fill (data.getD pos.toNat 0) hfill') (by omega) (by omega) (by omega)
      rw [hsucc] at hrun hpos' htake
      rw [fillChunk, dif_pos ⟨hfill', hmore⟩, hrun, slice_succ (by omega)]
      refine ⟨pos', chunk', ?_, ?_, ?_⟩
      · rw [List.length_cons, Nat.add_right_comm, Nat.add_assoc]
      · rw [List.length_cons]
        omega
      · rw [List.length_cons, show fill + ((slice data (pos.toNat + 1) n).length + 1) =
          fill + 1 + (slice data (pos.toNat + 1) n).length by omega, htake, Vector.toList_set,
          take_set _ (by rw [Vector.length_toList]; exact hfill'), hget, List.append_assoc]
        rfl
    · have hend : len.toNat ≤ pos.toNat := UInt8.le_iff_toNat_le.mp (UInt8.not_lt.mp hmore)
      have hnil : slice data pos.toNat (n + 1) = [] := by
        rw [slice, List.drop_eq_nil_of_le (by omega), List.take_nil]
      rw [hnil]
      refine ⟨pos, chunk, ?_, rfl, (List.append_nil _).symm⟩
      rw [fillChunk, dif_neg fun h => hmore h.2]
      rfl

private theorem ofList_zero (bs : List UInt8) : Block.ofList (bs ++ [0]) = Block.ofList bs := by
  apply Vector.ext
  intro i hi
  simp only [Block.ofList, Vector.getElem_ofFn, List.getD_eq_getElem?_getD]
  rcases Nat.lt_trichotomy i bs.length with h | h | h
  · rw [List.getElem?_append_left h]
  · rw [List.getElem?_append_right (by omega), List.getElem?_eq_none (l := bs) (by omega), h,
      Nat.sub_self]
    rfl
  · rw [List.getElem?_eq_none (by rw [List.length_append, List.length_singleton]; omega),
      List.getElem?_eq_none (by omega)]

theorem zeroFill_eq {fill : Nat} (chunk : Block) (hfill : fill ≤ 16) :
    zeroFill fill chunk = Block.ofList (chunk.toList.take fill) := by
  obtain ⟨n, hn⟩ : ∃ n, 16 - fill = n := ⟨_, rfl⟩
  induction n generalizing fill chunk with
  | zero =>
    rw [zeroFill, dif_neg (by omega), show fill = 16 by omega,
      List.take_of_length_le (by rw [Vector.length_toList]), Block.ofList_toList]
  | succ n ih =>
    have hlt : fill < 16 := by omega
    rw [zeroFill, dif_pos hlt, ih _ (by omega) (by omega), Vector.toList_set,
      take_set _ (by rw [Vector.length_toList]; exact hlt), ofList_zero]

/-! ## The CBC-MAC -/

variable {ecb key}

/-- One round chains the next block of what is left, behind the octets already in the chunk. -/
theorem macLoop_round {data : List UInt8} {len pos : UInt8} {fill fuel : Nat} (chunk x : Block)
    (hlen : data.length = len.toNat) (hpos : pos < len) (hfill : fill < 16) :
    let bs := chunk.toList.take fill ++ data.drop pos.toNat
    ∃ pos' chunk', macLoop ecb key data len (fuel + 1) pos fill chunk x =
        macLoop ecb key data len fuel pos' 0 chunk' (ecb key (x.xor (Block.ofList bs))) ∧
      pos.toNat < pos'.toNat ∧ pos'.toNat ≤ len.toNat ∧
      data.drop pos'.toNat = bs.drop 16 := by
  have hlt : pos.toNat < len.toNat := UInt8.lt_iff_toNat_lt.mp hpos
  obtain ⟨pos', chunk', hrun, hpos', htake⟩ := @fillChunk_eq data len pos fill chunk hlen
    (by omega) (by omega)
  have htaken : (slice data pos.toNat (16 - fill)).length =
      min (16 - fill) (len.toNat - pos.toNat) := by
    rw [slice, List.length_take, List.length_drop, hlen]
  have hpre : (chunk.toList.take fill).length = fill := by
    rw [List.length_take, Vector.length_toList]
    omega
  have hblock : Block.ofList (chunk.toList.take fill ++ slice data pos.toNat (16 - fill)) =
      Block.ofList (chunk.toList.take fill ++ data.drop pos.toNat) := by
    by_cases hfull : len.toNat - pos.toNat ≤ 16 - fill
    · have hall : slice data pos.toNat (16 - fill) = data.drop pos.toNat :=
        List.take_of_length_le (by rw [List.length_drop, hlen]; exact hfull)
      rw [hall]
    · have hcut := @Ccm.block_append (chunk.toList.take fill ++
        slice data pos.toNat (16 - fill)) ((data.drop pos.toNat).drop (16 - fill))
        (by rw [List.length_append, hpre, htaken]; omega)
      rw [List.append_assoc, slice, List.take_append_drop] at hcut
      exact hcut.symm
  refine ⟨pos', zeroFill (fill + (slice data pos.toNat (16 - fill)).length) chunk', ?_, ?_, ?_, ?_⟩
  · simp only [macLoop, if_pos hpos, hrun]
    rw [zeroFill_eq chunk' (by omega), htake, hblock]
  · omega
  · omega
  · have hprefix : (chunk.toList.take fill).drop 16 = [] :=
      List.drop_eq_nil_of_le (by omega)
    rw [List.drop_append, hprefix, List.nil_append, hpre, List.drop_drop]
    by_cases hfull : len.toNat - pos.toNat ≤ 16 - fill
    · rw [List.drop_eq_nil_of_le (by omega), List.drop_eq_nil_of_le (by omega)]
    · rw [show pos'.toNat = pos.toNat + (16 - fill) by omega]

/-- From an empty chunk, the loop chains the blocks of what is left. -/
theorem macLoop_blocks {data : List UInt8} {len pos : UInt8} {fuel : Nat} (chunk x : Block)
    (hlen : data.length = len.toNat) (hpos : pos.toNat ≤ len.toNat)
    (hfuel : len.toNat - pos.toNat < fuel) :
    macLoop ecb key data len fuel pos 0 chunk x =
      some (Ccm.chain (ecb key) x (Ccm.blocks (data.drop pos.toNat))) := by
  induction fuel generalizing pos chunk x with
  | zero => omega
  | succ fuel ih =>
    by_cases hmore : pos < len
    · obtain ⟨pos', chunk', hround, hnext, hle, hdrop⟩ :=
        @macLoop_round ecb key data len pos 0 fuel chunk x hlen hmore (by decide)
      have hne : data.drop pos.toNat ≠ [] := by
        have := UInt8.lt_iff_toNat_lt.mp hmore
        exact List.ne_nil_of_length_pos (by rw [List.length_drop]; omega)
      rw [List.take_zero, List.nil_append] at hround hdrop
      rw [hround, ih chunk' _ hle (by omega), hdrop, Ccm.blocks_of_ne_nil hne]
      rfl
    · have hend : len.toNat ≤ pos.toNat := UInt8.le_iff_toNat_le.mp (UInt8.not_lt.mp hmore)
      rw [List.drop_eq_nil_of_le (by omega)]
      exact if_neg hmore

theorem macLoop_aad {aad : List UInt8} (x : Block) (hne : aad ≠ []) (hlen : aad.length ≤ 255) :
    macLoop ecb key aad aad.length.toUInt8 256 0 2 (Block.ofList [0, aad.length.toUInt8]) x =
      some (Ccm.chain (ecb key) x (Ccm.blocks (0 :: aad.length.toUInt8 :: aad))) := by
  have hcount : aad.length.toUInt8.toNat = aad.length := toNat_toUInt8 (by omega)
  have hpos : (0 : UInt8) < aad.length.toUInt8 := by
    rw [UInt8.lt_iff_toNat_lt, hcount]
    exact List.length_pos_of_ne_nil hne
  obtain ⟨pos', chunk', hround, hnext, hle, hdrop⟩ :=
    @macLoop_round ecb key aad aad.length.toUInt8 0 2 255 (Block.ofList [0, aad.length.toUInt8]) x
      hcount.symm hpos (by decide)
  have hpre : (Block.ofList [0, aad.length.toUInt8]).toList.take 2 = [0, aad.length.toUInt8] := by
    rw [Block.ofList, Vector.toList_ofFn]
    rfl
  rw [hpre] at hround hdrop
  rw [hround, macLoop_blocks chunk' _ hcount.symm hle (by omega), hdrop,
    Ccm.blocks_of_ne_nil (List.cons_ne_nil _ _)]
  rfl

/-! ## The counter mode -/

private theorem ctr_getElem? {nonce inp : List UInt8} {k i : Nat} (hi : i < 16)
    (h : 16 * k + i < inp.length) :
    (CcmStar.ctr ecb key nonce inp)[16 * k + i]? =
      some (inp[16 * k + i] ^^^ (ecb key (CcmStar.counterBlock nonce (1 + k).toUInt16))[i]) := by
  have hdiv : (16 * k + i) / 16 = k := by omega
  have hmod : (16 * k + i) % 16 = i := by omega
  simp only [CcmStar.ctr, List.getElem?_mapIdx, List.getElem?_eq_getElem h, Option.map_some,
    CcmStar.keystream, hdiv, hmod]

/-- A round of the counter mode takes the next 16 octets, or what is left. -/
theorem ctrFill_eq {nonce inp : List UInt8} {len pos : UInt8} {k i : Nat}
    (hlen : inp.length = len.toNat) (hpos : pos.toNat = 16 * k + i) (hi : i ≤ 16)
    (hle : pos.toNat ≤ len.toNat) :
    ∃ pos', ctrFill inp len (ecb key (CcmStar.counterBlock nonce (1 + k).toUInt16)) i pos
        ((CcmStar.ctr ecb key nonce inp).take pos.toNat) =
        (pos', (CcmStar.ctr ecb key nonce inp).take pos'.toNat) ∧
      pos'.toNat = min (16 * (k + 1)) len.toNat := by
  obtain ⟨n, hn⟩ : ∃ n, 16 - i = n := ⟨_, rfl⟩
  induction n generalizing i pos with
  | zero =>
    refine ⟨pos, ?_, by omega⟩
    rw [ctrFill, dif_neg (by omega)]
  | succ n ih =>
    by_cases hmore : pos < len
    · have hlt : pos.toNat < len.toNat := UInt8.lt_iff_toNat_lt.mp hmore
      have hbyte := len.toNat_lt
      have hsucc : (pos + 1).toNat = pos.toNat + 1 := toNat_succ (by omega)
      have hi' : i < 16 := by omega
      have hnext : (CcmStar.ctr ecb key nonce inp).take (pos + 1).toNat =
          (CcmStar.ctr ecb key nonce inp).take pos.toNat ++ [inp.getD pos.toNat 0 ^^^
            (ecb key (CcmStar.counterBlock nonce (1 + k).toUInt16))[i]] := by
        have hget : inp.getD (16 * k + i) 0 = inp[16 * k + i] := by
          simp [List.getD_eq_getElem?_getD, show 16 * k + i < inp.length by omega]
        rw [hsucc, hpos, List.take_add_one, ctr_getElem? hi' (by omega), hget]
        rfl
      obtain ⟨pos', hrun, hpos'⟩ := @ih (pos + 1) (i + 1) (by omega) (by omega) (by omega)
        (by omega)
      refine ⟨pos', ?_, hpos'⟩
      rw [ctrFill, dif_pos ⟨hi', hmore⟩, ← hnext, hrun]
    · have hend : len.toNat ≤ pos.toNat := UInt8.le_iff_toNat_le.mp (UInt8.not_lt.mp hmore)
      refine ⟨pos, ?_, by omega⟩
      rw [ctrFill, dif_neg fun h => hmore h.2]

theorem ctrLoop_eq {nonce inp : List UInt8} {len pos : UInt8} {k fuel : Nat}
    (hlen : inp.length = len.toNat) (hpos : pos.toNat = min (16 * k) len.toNat)
    (hfuel : len.toNat - pos.toNat < fuel) :
    ctrLoop ecb key nonce inp len fuel (1 + k).toUInt16 pos
        ((CcmStar.ctr ecb key nonce inp).take pos.toNat) =
      some (CcmStar.ctr ecb key nonce inp) := by
  induction fuel generalizing pos k with
  | zero => omega
  | succ fuel ih =>
    by_cases hmore : pos < len
    · have hlt : pos.toNat < len.toNat := UInt8.lt_iff_toNat_lt.mp hmore
      obtain ⟨pos', hrun, hpos'⟩ := @ctrFill_eq ecb key nonce inp len pos k 0 hlen (by omega)
        (by decide) (by omega)
      have hcounter : (1 + k).toUInt16 + 1 = (1 + (k + 1)).toUInt16 :=
        (UInt16.ofNat_add (1 + k) 1).symm
      simp only [ctrLoop, if_pos hmore, hrun, hcounter]
      exact ih hpos' (by omega)
    · have hend : len.toNat ≤ pos.toNat := UInt8.le_iff_toNat_le.mp (UInt8.not_lt.mp hmore)
      rw [List.take_of_length_le (by rw [CcmStar.ctr_length]; omega)]
      exact if_neg hmore

/-! ## The MIC -/

private theorem foldl_or_eq_zero {f : Nat → UInt8} {is : List Nat} {d : UInt8} :
    is.foldl (fun diff i => diff ||| f i) d = 0 ↔ d = 0 ∧ ∀ i ∈ is, f i = 0 := by
  induction is generalizing d with
  | nil => simp
  | cons i is ih =>
    rw [List.foldl_cons, ih, UInt8.or_eq_zero_iff, List.forall_mem_cons, and_assoc]

theorem micDiff_eq_zero {micLen : Nat} {micIn tag : List UInt8} (hin : micIn.length = micLen)
    (htag : tag.length = micLen) : micDiff micLen micIn tag = 0 ↔ micIn = tag := by
  rw [micDiff, foldl_or_eq_zero]
  constructor
  · rintro ⟨-, h⟩
    apply List.ext_getElem (by omega)
    intro i hi hi'
    have := UInt8.xor_eq_zero_iff.mp (h i (List.mem_range.mpr (by omega)))
    simpa [List.getD_eq_getElem?_getD, hi, hi'] using this
  · rintro rfl
    exact ⟨rfl, fun i _ => UInt8.xor_self⟩

theorem micDiff_ne_zero {micLen : Nat} {micIn tag : List UInt8} (hin : micIn.length = micLen)
    (htag : tag.length = micLen) : (micDiff micLen micIn tag ≠ 0) = (micIn ≠ tag) :=
  propext (not_congr (micDiff_eq_zero hin htag))

/-! ## The function -/

theorem absorb_eq {chunk bs : List UInt8} (x : Block) (h : chunk.length < 16) :
    CcmStar.absorb ecb key x chunk bs = Ccm.chain (ecb key) x (Ccm.blocks (chunk ++ bs)) := by
  induction bs generalizing x chunk with
  | nil =>
    rw [List.append_nil, CcmStar.absorb]
    by_cases hnil : chunk = []
    · rw [if_pos hnil, hnil, Ccm.blocks_nil]
      rfl
    · rw [if_neg hnil, Ccm.blocks_of_ne_nil hnil, List.drop_eq_nil_of_le (by omega),
        Ccm.blocks_nil]
      rfl
  | cons b bs ih =>
    rw [CcmStar.absorb]
    have hsplit : chunk ++ b :: bs = (chunk ++ [b]) ++ bs := by simp
    by_cases hfull : (chunk ++ [b]).length = 16
    · have hblocks := @Ccm.blocks_of_ne_nil (chunk ++ [b] ++ bs) (by simp)
      rw [Ccm.block_append bs hfull, List.drop_left' hfull] at hblocks
      rw [if_pos hfull, ih _ (by decide), hsplit, hblocks]
      rfl
    · have hlen : (chunk ++ [b]).length = chunk.length + 1 := List.length_append
      rw [if_neg hfull, ih _ (by omega), hsplit]

theorem macLoop_absorb {aad : List UInt8} (x : Block) (hlen : aad.length ≤ 255) :
    macLoop ecb key aad aad.length.toUInt8 256 0 2 (Block.ofList [0, aad.length.toUInt8]) x =
      some (if aad = [] then x else CcmStar.absorb ecb key x [0, aad.length.toUInt8] aad) := by
  by_cases hnil : aad = []
  · subst hnil
    rfl
  · rw [if_neg hnil, absorb_eq x (by simp), macLoop_aad x hnil hlen]
    rfl

/-- The loops end and compute what `CcmStar` does on lists. -/
theorem ccmStarCrypt_eq {encrypt : Bool} {micLen : Nat} {nonce aad inp : List UInt8}
    {micIn : Option (List UInt8)} (hmic : micLen ≤ 16) (haad : aad.length ≤ 255)
    (hinp : inp.length ≤ 255) (hin : ∀ mic ∈ micIn, mic.length = micLen) :
    ccmStarCrypt ecb key encrypt micLen nonce aad inp micIn =
      some (CcmStar.ccmStarCrypt ecb key encrypt micLen nonce aad inp micIn) := by
  have hcount : inp.length.toUInt8.toNat = inp.length := toNat_toUInt8 (by omega)
  have hmac : ∀ chunk x, macLoop ecb key inp inp.length.toUInt8 256 0 0 chunk x =
      some (CcmStar.absorb ecb key x [] inp) := fun chunk x => by
    have hstart : (0 : UInt8).toNat ≤ inp.length.toUInt8.toNat := Nat.zero_le _
    rw [macLoop_blocks chunk x hcount.symm hstart (by omega), absorb_eq x (by decide)]
    rfl
  have hctr : ctrLoop ecb key nonce inp inp.length.toUInt8 256 1 0 [] =
      some (CcmStar.ctr ecb key nonce inp) :=
    @ctrLoop_eq ecb key nonce inp inp.length.toUInt8 0 0 256 hcount.symm (Nat.zero_min _).symm
      (by omega)
  have hrun : ccmStarCrypt ecb key encrypt micLen nonce aad inp micIn =
      let tag := CcmStar.mic ecb key micLen nonce aad inp
      if micIn.any fun micIn => micDiff micLen micIn tag ≠ 0 then some none
      else if encrypt then some (some (CcmStar.ctr ecb key nonce inp, tag))
      else some (some ([], tag)) := by
    simp only [ccmStarCrypt, macLoop_absorb _ haad, hmac, hctr, Option.bind_eq_bind,
      Option.bind_some]
    rfl
  rw [hrun, CcmStar.ccmStarCrypt]
  cases micIn with
  | none => cases encrypt <;> rfl
  | some mic =>
    have hdiff := micDiff_ne_zero (hin mic rfl)
      (@CcmStar.mic_length ecb key micLen hmic nonce aad inp)
    simp only [Option.any_some, hdiff]
    by_cases heq : mic = CcmStar.mic ecb key micLen nonce aad inp
    · simp only [heq, ne_eq, not_true_eq_false, decide_false, Bool.false_eq_true, if_false]
      cases encrypt <;> rfl
    · simp only [ne_eq, heq, not_false_eq_true, decide_true, if_true]

end NiusZigbee.CcmLoops
