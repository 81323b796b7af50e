import NiusZigbee.Library.OutBuffer

/-!
# Wire formats of fixed width

A format writes a value as a fixed number of bytes and reads it back at any offset. It carries both
round trips as fields, so a record put together from formats has them too.
-/

namespace ByteCodec

/-! ## Any bytes are the bytes of a word -/

private theorem low_byte (n : Nat) : n &&& 255 = n % 256 := Nat.and_two_pow_sub_one_eq_mod n 8

theorem exists_le16 (b0 b1 : UInt8) : ∃ v, le16 v = [b0, b1] := by
  have h0 := b0.toNat_lt
  have h1 := b1.toNat_lt
  refine ⟨UInt16.ofNat (b0.toNat + 2 ^ 8 * b1.toNat), ?_⟩
  simp only [le16, lo8, hi8, List.cons.injEq, and_true]
  constructor
  · apply UInt8.toNat_inj.mp
    simp [low_byte]
  · apply UInt8.toNat_inj.mp
    simp [Nat.shiftRight_eq_div_pow]
    omega

theorem exists_le32 (b0 b1 b2 b3 : UInt8) : ∃ v, le32 v = [b0, b1, b2, b3] := by
  have h0 := b0.toNat_lt
  have h1 := b1.toNat_lt
  have h2 := b2.toNat_lt
  have h3 := b3.toNat_lt
  refine ⟨UInt32.ofNat (b0.toNat + 2 ^ 8 * b1.toNat + 2 ^ 16 * b2.toNat + 2 ^ 24 * b3.toNat), ?_⟩
  simp only [le32, List.cons.injEq, and_true]
  refine ⟨?_, ?_, ?_, ?_⟩ <;> apply UInt8.toNat_inj.mp <;>
    simp [Nat.shiftRight_eq_div_pow, low_byte] <;> omega

theorem exists_le64 (b0 b1 b2 b3 b4 b5 b6 b7 : UInt8) :
    ∃ v, le64 v = [b0, b1, b2, b3, b4, b5, b6, b7] := by
  have h0 := b0.toNat_lt
  have h1 := b1.toNat_lt
  have h2 := b2.toNat_lt
  have h3 := b3.toNat_lt
  have h4 := b4.toNat_lt
  have h5 := b5.toNat_lt
  have h6 := b6.toNat_lt
  have h7 := b7.toNat_lt
  refine ⟨UInt64.ofNat (b0.toNat + 2 ^ 8 * b1.toNat + 2 ^ 16 * b2.toNat + 2 ^ 24 * b3.toNat +
    2 ^ 32 * b4.toNat + 2 ^ 40 * b5.toNat + 2 ^ 48 * b6.toNat + 2 ^ 56 * b7.toNat), ?_⟩
  simp only [le64, List.range, List.range.loop, List.map_cons, List.map_nil, List.cons.injEq,
    and_true]
  refine ⟨?_, ?_, ?_, ?_, ?_, ?_, ?_, ?_⟩ <;> apply UInt8.toNat_inj.mp <;>
    simp [Nat.shiftRight_eq_div_pow] <;> omega

theorem le32_join32 {bs : List UInt8} (h : bs.length = 4) : le32 (join32 bs) = bs := by
  match bs, h with
  | [b0, b1, b2, b3], _ =>
    obtain ⟨v, hv⟩ := exists_le32 b0 b1 b2 b3
    rw [← hv, join32_le32]

theorem le64_join64 {bs : List UInt8} (h : bs.length = 8) : le64 (join64 bs) = bs := by
  match bs, h with
  | [b0, b1, b2, b3, b4, b5, b6, b7], _ =>
    obtain ⟨v, hv⟩ := exists_le64 b0 b1 b2 b3 b4 b5 b6 b7
    rw [← hv, join64_le64]

theorem le16_join16 (lo hi : UInt8) : le16 (join16 lo hi) = [lo, hi] := by
  obtain ⟨v, hv⟩ := exists_le16 lo hi
  simp only [le16, List.cons.injEq, and_true] at hv
  rw [← hv.1, ← hv.2, join16_bytes]
  rfl

/-! ## Formats -/

structure WireFormat (α : Type) where
  width : Nat
  put : α → List UInt8
  get : List UInt8 → Nat → Option α
  length_put : ∀ a, (put a).length = width
  get_put : ∀ pre a post, get (pre ++ put a ++ post) pre.length = some a
  put_get : ∀ bs off, off + width ≤ bs.length →
    ∃ a, get bs off = some a ∧ put a = slice bs off width

namespace WireFormat

variable {α β : Type} (F : WireFormat α) (G : WireFormat β)

theorem get_put_append (a : α) (post : List UInt8) : F.get (F.put a ++ post) 0 = some a :=
  F.get_put [] a post

theorem get_isSome {bs : List UInt8} {off : Nat} (h : off + F.width ≤ bs.length) :
    ∃ a, F.get bs off = some a :=
  (F.put_get bs off h).imp fun _ ha => ha.1

/-- What is read stands there as it would be written. -/
theorem split_of_get {bs : List UInt8} {off : Nat} {a : α} (h : off + F.width ≤ bs.length)
    (hget : F.get bs off = some a) :
    bs = bs.take off ++ F.put a ++ bs.drop (off + F.width) := by
  obtain ⟨b, hb, hput⟩ := F.put_get bs off h
  obtain rfl : a = b := Option.some.inj (hget.symm.trans hb)
  rw [hput, slice, ← List.take_add, List.take_append_drop]

/-- One after the other. -/
def pair : WireFormat (α × β) where
  width := F.width + G.width
  put p := F.put p.1 ++ G.put p.2
  get bs off := do
    let a ← F.get bs off
    let b ← G.get bs (off + F.width)
    return (a, b)
  length_put p := by rw [List.length_append, F.length_put, G.length_put]
  get_put pre p post := by
    have hfirst := F.get_put pre p.1 (G.put p.2 ++ post)
    have hsecond := G.get_put (pre ++ F.put p.1) p.2 post
    rw [List.length_append, F.length_put] at hsecond
    simp only [List.append_assoc] at hfirst hsecond ⊢
    rw [hfirst, Option.bind_eq_bind, Option.bind_some, hsecond]
    rfl
  put_get bs off h := by
    obtain ⟨a, ha, hputa⟩ := F.put_get bs off (by omega)
    obtain ⟨b, hb, hputb⟩ := G.put_get bs (off + F.width) (by omega)
    refine ⟨(a, b), ?_, ?_⟩
    · rw [ha, Option.bind_eq_bind, Option.bind_some, hb]
      rfl
    · rw [hputa, hputb, slice, slice, slice, ← List.drop_drop, ← List.take_add]

variable {F}

/-- The same bytes for another type of the same values. -/
def record (F : WireFormat α) (make : α → β) (fields : β → α) (hfields : ∀ b, make (fields b) = b)
    (hmake : ∀ a, fields (make a) = a) : WireFormat β where
  width := F.width
  put b := F.put (fields b)
  get bs off := (F.get bs off).map make
  length_put b := F.length_put _
  get_put pre b post := by rw [F.get_put, Option.map_some, hfields]
  put_get bs off h := by
    obtain ⟨a, ha, hput⟩ := F.put_get bs off h
    exact ⟨make a, by rw [ha, Option.map_some], by rw [hmake, hput]⟩

/-! ## The fields -/

def u8 : WireFormat UInt8 where
  width := 1
  put b := [b]
  get := read8
  length_put _ := rfl
  get_put pre b post := by simp [read8]
  put_get bs off h := by
    have hlt : off < bs.length := by omega
    refine ⟨bs[off], by rw [read8, List.getElem?_eq_getElem hlt], ?_⟩
    rw [slice_succ hlt]
    simp [slice]

/-- `n` bytes, read as a value they are the bytes of. -/
def ofBytes {α : Type} (n : Nat) (put : α → List UInt8) (make : List UInt8 → α)
    (hlength : ∀ a, (put a).length = n) (hmake : ∀ a, make (put a) = a)
    (hput : ∀ bs, bs.length = n → put (make bs) = bs) : WireFormat α where
  width := n
  put := put
  get bs off := (readBytes bs off n).map make
  length_put := hlength
  get_put pre a post := by
    have hroom : pre.length + n ≤ (pre ++ put a ++ post).length := by
      simp only [List.length_append, hlength]
      omega
    have hslice : slice (pre ++ put a ++ post) pre.length n = put a := by
      rw [slice_append_left _ (by rw [List.length_append, hlength]), ← hlength a, slice_append]
    rw [readBytes, if_pos hroom, Option.map_some, hslice, hmake]
  put_get bs off h := by
    refine ⟨make (slice bs off n), by rw [readBytes, if_pos h, Option.map_some], hput _ ?_⟩
    rw [slice, List.length_take, List.length_drop]
    omega

def u16 : WireFormat UInt16 where
  width := 2
  put := le16
  get := read16
  length_put := le16_length
  get_put pre v post := by
    rw [List.append_assoc, read16_append_right _ (le_refl _), Nat.sub_self]
    exact read16_le16 v post
  put_get bs off h := by
    refine ⟨_, read16_getD (by omega), ?_⟩
    rw [le16_join16, slice_succ (by omega), slice_succ (by omega),
      List.getD_eq_getElem _ _ (by omega), List.getD_eq_getElem _ _ (by omega)]
    simp [slice]

def u32 : WireFormat UInt32 :=
  ofBytes 4 le32 join32 le32_length join32_le32 fun _ => le32_join32

theorem read64_field (pre : List UInt8) (v : UInt64) (post : List UInt8) :
    read64 (pre ++ le64 v ++ post) pre.length = some v := by
  rw [List.append_assoc, read64_append_right _ (le_refl _), Nat.sub_self]
  exact read64_le64 v post

theorem le64_field (bs : List UInt8) (off : Nat) (h : off + 8 ≤ bs.length) :
    ∃ v, read64 bs off = some v ∧ le64 v = slice bs off 8 := by
  refine ⟨_, by rw [read64, if_pos h], ?_⟩
  apply le64_join64
  rw [List.length_take, List.length_drop]
  omega

def u64 : WireFormat UInt64 where
  width := 8
  put := le64
  get := read64
  length_put := le64_length
  get_put := read64_field
  put_get := le64_field

/-! ## Reading field by field -/

section Fields

variable {γ : Type} (bs : List UInt8) (off : Nat)

theorem bind_get_pair (F : WireFormat α) (G : WireFormat β) (k : α × β → Option γ) :
    ((F.pair G).get bs off).bind k =
      (F.get bs off).bind fun a => (G.get bs (off + F.width)).bind fun b => k (a, b) := by
  simp only [pair, Option.bind_eq_bind, Option.pure_def, Option.bind_assoc, Option.bind_some]

theorem bind_get_record (F : WireFormat α) (make : α → β) (fields : β → α)
    (hfields : ∀ b, make (fields b) = b) (hmake : ∀ a, fields (make a) = a) (k : β → Option γ) :
    ((F.record make fields hfields hmake).get bs off).bind k =
      (F.get bs off).bind fun a => k (make a) := by
  simp only [record, Option.bind_map, Function.comp_def]

theorem bind_get_ofBytes {n : Nat} {put : α → List UInt8} {make : List UInt8 → α}
    (hlength : ∀ a, (put a).length = n) (hmake : ∀ a, make (put a) = a)
    (hput : ∀ bs, bs.length = n → put (make bs) = bs) (k : α → Option γ) :
    ((ofBytes n put make hlength hmake hput).get bs off).bind k =
      (readBytes bs off n).bind fun field => k (make field) := by
  simp only [ofBytes, Option.bind_map, Function.comp_def]

theorem bind_get_u32 (k : UInt32 → Option γ) :
    (u32.get bs off).bind k = (readBytes bs off 4).bind fun field => k (join32 field) :=
  bind_get_ofBytes bs off _ _ _ k

end Fields

end WireFormat

/-- A builder and a parser fit each other: what is built from a valid value is parsed as that value,
whatever follows it; what is parsed was built from a valid value; and the parser reads only what is
there. -/
structure RoundTrips {α : Type} (valid : α → Prop) (bytes : α → List UInt8)
    (parse : List UInt8 → Option (Bool × α)) : Prop where
  total : ∀ payload, ∃ r, parse payload = some r
  recovered : ∀ a post, valid a → parse (bytes a ++ post) = some (true, a)
  accepted : ∀ payload a, parse payload = some (true, a) →
    valid a ∧ ∃ post, payload = bytes a ++ post

/-- A fixed beginning, a format behind it, and a condition on the value. -/
theorem roundTrips_of_format {α : Type} {valid : α → Prop} [DecidablePred valid]
    (F : WireFormat α) (start : List UInt8) {parse : List UInt8 → Option (Bool × α)}
    (hshort : ∀ payload : List UInt8, payload.length < start.length + F.width →
      ∃ a, parse payload = some (false, a))
    (hparse : ∀ payload a, start.length + F.width ≤ payload.length →
      F.get payload start.length = some a →
      if payload.take start.length = start ∧ valid a then parse payload = some (true, a)
      else ∃ b, parse payload = some (false, b)) :
    RoundTrips valid (fun a => start ++ F.put a) parse := by
  have hcases (payload : List UInt8) : (∃ a, parse payload = some (false, a)) ∨
      ∃ a post, valid a ∧ parse payload = some (true, a) ∧ payload = start ++ F.put a ++ post := by
    by_cases hlen : payload.length < start.length + F.width
    · exact Or.inl (hshort payload hlen)
    obtain ⟨a, ha⟩ := F.get_isSome (Nat.not_lt.mp hlen)
    have hone := hparse payload a (Nat.not_lt.mp hlen) ha
    split at hone
    · next hvalid =>
      have hsplit := F.split_of_get (Nat.not_lt.mp hlen) ha
      rw [hvalid.1] at hsplit
      exact Or.inr ⟨a, _, hvalid.2, hone, hsplit⟩
    · exact Or.inl hone
  constructor
  · intro payload
    rcases hcases payload with ⟨a, ha⟩ | ⟨a, post, -, ha, -⟩
    · exact ⟨_, ha⟩
    · exact ⟨_, ha⟩
  · intro a post hvalid
    have hone := hparse (start ++ F.put a ++ post) a
      (by simp only [List.length_append, F.length_put]; omega) (F.get_put start a post)
    rwa [if_pos ⟨by rw [List.append_assoc, List.take_left], hvalid⟩] at hone
  · intro payload a ha
    rcases hcases payload with ⟨b, hb⟩ | ⟨b, post, hvalid, hb, hsplit⟩
    · rw [hb] at ha
      cases ha
    · rw [hb] at ha
      cases ha
      exact ⟨hvalid, post, hsplit⟩

/-- A parser that reads a format, and a condition that its own values meet. -/
theorem roundTrips_of_read {α β : Type} {valid : β → Prop} (F : WireFormat α)
    {parse : List UInt8 → Option (Bool × β)} {make : α → β} {fields : β → α}
    (hshort : ∀ {payload : List UInt8}, payload.length < F.width →
      ∃ b, parse payload = some (false, b))
    (hparse : ∀ {payload : List UInt8}, F.width ≤ payload.length →
      parse payload = (F.get payload 0).bind fun a => some (true, make a))
    (hfields : ∀ a, fields (make a) = a) (hmake : ∀ b, valid b → make (fields b) = b)
    (hvalid : ∀ a, valid (make a)) :
    RoundTrips valid (fun b => F.put (fields b)) parse := by
  constructor
  · intro payload
    by_cases hlen : payload.length < F.width
    · exact (hshort hlen).imp' (Prod.mk false) fun _ h => h
    · have hwidth : 0 + F.width ≤ payload.length := by omega
      obtain ⟨a, ha⟩ := F.get_isSome hwidth
      exact ⟨_, by rw [hparse (Nat.not_lt.mp hlen), ha, Option.bind_some]⟩
  · intro b post hb
    have hroom : F.width ≤ (F.put (fields b) ++ post).length := by
      rw [List.length_append, F.length_put]
      omega
    rw [hparse hroom, F.get_put_append, Option.bind_some, hmake b hb]
  · intro payload b hb
    by_cases hlen : payload.length < F.width
    · obtain ⟨b', hb'⟩ := hshort hlen
      rw [hb'] at hb
      cases hb
    · rw [hparse (Nat.not_lt.mp hlen)] at hb
      obtain ⟨a, ha, hmade⟩ := Option.bind_eq_some_iff.mp hb
      cases hmade
      have hsplit := F.split_of_get (by omega : 0 + F.width ≤ payload.length) ha
      rw [List.take_zero, List.nil_append] at hsplit
      exact ⟨hvalid a, _, by rw [hfields]; exact hsplit⟩

/-- A command of `size` bytes: it is written whole where the buffer has room for it and refused
elsewhere, and it is read back. -/
structure IsCommand {α : Type} (size : α → UInt8) (valid : α → Prop)
    (build : UInt8 → α → OutBuffer.Built) (parse : List UInt8 → Option (Bool × α)) : Prop where
  refused : ∀ outMax a, outMax < size a → build outMax a = .fail
  whole : ∀ outMax a, size a ≤ outMax → build outMax a = .exact (build (size a) a).bytes
  length : ∀ a, (build (size a) a).bytes.length = (size a).toNat
  roundTrips : RoundTrips valid (fun a => (build (size a) a).bytes) parse

theorem IsCommand.of_guard {α : Type} {size : α → UInt8} {valid : α → Prop}
    {build : UInt8 → α → OutBuffer.Built} {parse : List UInt8 → Option (Bool × α)}
    {bytes : α → List UInt8} (h : RoundTrips valid bytes parse)
    (hbuild : ∀ outMax a,
      build outMax a = if outMax < size a then .fail else .exact (bytes a))
    (hlength : ∀ a, (bytes a).length = (size a).toNat) :
    IsCommand size valid build parse := by
  have hwhole (outMax : UInt8) (a : α) (hroom : size a ≤ outMax) :
      build outMax a = .exact (bytes a) := by
    rw [hbuild, if_neg (UInt8.not_lt.mpr hroom)]
  have hbytes (a : α) : (build (size a) a).bytes = bytes a := by
    rw [hwhole (size a) a (UInt8.le_refl _), OutBuffer.Built.exact_bytes]
  constructor
  · intro outMax a hsmall
    rw [hbuild, if_pos hsmall]
  · intro outMax a hroom
    rw [hwhole outMax a hroom, hbytes]
  · intro a
    rw [hbytes, hlength]
  · simpa only [hbytes] using h

theorem take_one_iff {payload : List UInt8} {b : UInt8} :
    payload.take 1 = [b] ↔ payload[0]? = some b := by
  cases payload <;> simp

end ByteCodec
