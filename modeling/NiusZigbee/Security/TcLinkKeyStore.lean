import NiusZigbee.Library.Latest
import NiusZigbee.Library.Runs
import NiusZigbee.Library.SlotTable
import NiusZigbee.Security.InstallCode

/-!
# The Trust Center's link keys

A device with a key of its own, provisioned as it is or by an install code, is given that key, and
any other device the global one. A slot given up by one device is taken by another.
-/

namespace NiusZigbee

open Scratch

structure TcLinkKeyEntry where
  used : Bool := false
  ieee : UInt64 := 0
  key : Block := Block.ofList []
deriving DecidableEq

/-- The device an entry is for, when it is in use. -/
def TcLinkKeyEntry.device (e : TcLinkKeyEntry) : Option UInt64 :=
  if e.used then some e.ieee else none

/-- "ZigBeeAlliance09". -/
def ZigbeeApsKey.defaultTcLinkKey : Block :=
  Block.ofList [0x5A, 0x69, 0x67, 0x42, 0x65, 0x65, 0x41, 0x6C, 0x6C, 0x69, 0x61, 0x6E, 0x63, 0x65,
    0x30, 0x39]

structure ZigbeeTcLinkKeyStore where
  entries : List TcLinkKeyEntry
  global : Block := ZigbeeApsKey.defaultTcLinkKey

namespace ZigbeeTcLinkKeyStore

def begin (capacity : UInt8) : ZigbeeTcLinkKeyStore where
  entries := List.replicate capacity.toNat {}

def setGlobalKey (s : ZigbeeTcLinkKeyStore) (key : Block) : ZigbeeTcLinkKeyStore :=
  { s with global := key }

def find (s : ZigbeeTcLinkKeyStore) (ieee : UInt64) : Option Nat :=
  s.entries.findIdx? fun e => e.used && e.ieee == ieee

def firstFree (s : ZigbeeTcLinkKeyStore) : Option Nat := s.entries.findIdx? fun e => !e.used

def provision (s : ZigbeeTcLinkKeyStore) (ieee : UInt64) (key : Block) :
    Bool × ZigbeeTcLinkKeyStore :=
  match (s.find ieee).or s.firstFree with
  | none => (false, s)
  | some i => (true, { s with entries := s.entries.set i ⟨true, ieee, key⟩ })

def provisionInstallCode (encrypt : Encrypt) (scratch : Vector UInt8 96)
    (s : ZigbeeTcLinkKeyStore) (ieee : UInt64) (codeWithCrc : List UInt8) :
    Except Fault (Bool × ZigbeeTcLinkKeyStore) := do
  match ← ZigbeeInstallCode.deriveLinkKey encrypt scratch codeWithCrc with
  | none => return (false, s)
  | some key => return s.provision ieee key

def remove (s : ZigbeeTcLinkKeyStore) (ieee : UInt64) : Bool × ZigbeeTcLinkKeyStore :=
  match s.find ieee with
  | none => (false, s)
  | some i => (true, { s with entries := s.entries.set i {} })

def hasPerDevice (s : ZigbeeTcLinkKeyStore) (ieee : UInt64) : Bool := (s.find ieee).isSome

def keyFor (s : ZigbeeTcLinkKeyStore) (ieee : UInt64) : Block :=
  match s.entries.find? fun e => e.used && e.ieee == ieee with
  | some e => e.key
  | none => s.global

inductive Call where
  | provision (ieee : UInt64) (key : Block)
  /-- With the buffer of the hash as it comes. -/
  | provisionInstallCode (ieee : UInt64) (codeWithCrc : List UInt8) (scratch : Vector UInt8 96)
  | remove (ieee : UInt64)
  | setGlobalKey (key : Block)

/-- The device a call is about. -/
def Call.device : Call → Option UInt64
  | .provision ieee _ => some ieee
  | .provisionInstallCode ieee _ _ => some ieee
  | .remove ieee => some ieee
  | .setGlobalKey _ => none

section Runs

variable (encrypt : Encrypt)

/-- What a call returns and leaves; `setGlobalKey` does not fail. -/
def step (s : ZigbeeTcLinkKeyStore) : Call → Except Fault (Bool × ZigbeeTcLinkKeyStore)
  | .provision ieee key => .ok (s.provision ieee key)
  | .provisionInstallCode ieee codeWithCrc scratch =>
    provisionInstallCode encrypt scratch s ieee codeWithCrc
  | .remove ieee => .ok (s.remove ieee)
  | .setGlobalKey key => .ok (true, s.setGlobalKey key)

/-- The store after a run of calls. -/
def after (capacity : UInt8) (calls : List Call) : Except Fault ZigbeeTcLinkKeyStore :=
  calls.foldlM (fun s call => (step encrypt s call).map Prod.snd) (begin capacity)

/-- The call is for the device to have the key. -/
def Provides (ieee : UInt64) (call : Call) (key : Block) : Prop :=
  call = .provision ieee key ∨
    ∃ codeWithCrc scratch, call = .provisionInstallCode ieee codeWithCrc scratch ∧
      ZigbeeInstallCode.linkKey encrypt codeWithCrc = some key

/-- It returns true after `past`. -/
def ProvisionsAfter (capacity : UInt8) (ieee : UInt64) (past : List Call) (call : Call)
    (key : Block) : Prop :=
  Provides encrypt ieee call key ∧
    ∃ s s', after encrypt capacity past = .ok s ∧ step encrypt s call = .ok (true, s')

/-- The key of the latest successful provisioning of the device, which was not removed since. -/
def Provisioned (capacity : UInt8) (calls : List Call) (ieee : UInt64) (key : Block) : Prop :=
  Latest.LatestValue (ProvisionsAfter encrypt capacity ieee) (fun _ call => call = .remove ieee)
    calls key

end Runs

/-- The global key that was set last. -/
def GlobalSet (calls : List Call) (key : Block) : Prop :=
  Latest.LatestValue (fun _ call key => call = Call.setGlobalKey key) (fun _ _ => False) calls key

/-! ## One call -/

section Calls

variable {encrypt : Encrypt} {s : ZigbeeTcLinkKeyStore} {ieee other : UInt64} {key : Block}

/-- The device's own key. -/
def ownKey (s : ZigbeeTcLinkKeyStore) (ieee : UInt64) : Option Block :=
  (SlotTable.lookup TcLinkKeyEntry.device s.entries ieee).map TcLinkKeyEntry.key

/-- What a call returns and leaves, where the hash needs no buffer. -/
def next (encrypt : Encrypt) (s : ZigbeeTcLinkKeyStore) : Call → Bool × ZigbeeTcLinkKeyStore
  | .provision ieee key => s.provision ieee key
  | .provisionInstallCode ieee codeWithCrc _ =>
    ((ZigbeeInstallCode.linkKey encrypt codeWithCrc).map (s.provision ieee)).getD (false, s)
  | .remove ieee => s.remove ieee
  | .setGlobalKey key => (true, s.setGlobalKey key)

theorem holds_iff (e : TcLinkKeyEntry) (ieee : UInt64) :
    (e.used && e.ieee == ieee) = decide (e.device = some ieee) := by
  cases h : e.used with
  | false => simp [TcLinkKeyEntry.device, h]
  | true =>
    apply Bool.eq_iff_iff.mpr
    simp [TcLinkKeyEntry.device, h]

theorem find_eq (s : ZigbeeTcLinkKeyStore) (ieee : UInt64) :
    s.find ieee = SlotTable.find TcLinkKeyEntry.device s.entries ieee := by
  simp only [find, SlotTable.find, holds_iff]

theorem firstFree_eq (s : ZigbeeTcLinkKeyStore) :
    s.firstFree = SlotTable.firstFree TcLinkKeyEntry.device s.entries := by
  rw [firstFree, SlotTable.firstFree]
  congr 1
  funext e
  cases h : e.used <;> simp [TcLinkKeyEntry.device, h]

theorem keyFor_eq (s : ZigbeeTcLinkKeyStore) (ieee : UInt64) :
    s.keyFor ieee = (s.ownKey ieee).getD s.global := by
  simp only [keyFor, ownKey, SlotTable.lookup, holds_iff]
  cases s.entries.find? fun e => decide (e.device = some ieee) <;> rfl

theorem slotFor_eq (s : ZigbeeTcLinkKeyStore) (ieee : UInt64) : (s.find ieee).or s.firstFree =
    SlotTable.slotFor TcLinkKeyEntry.device (fun _ => none) s.entries ieee := by
  rw [find_eq, firstFree_eq, SlotTable.slotFor]
  cases SlotTable.find TcLinkKeyEntry.device s.entries ieee with
  | some i => rfl
  | none => cases SlotTable.firstFree TcLinkKeyEntry.device s.entries <;> rfl

theorem provision_cases (s : ZigbeeTcLinkKeyStore) (ieee : UInt64) (key : Block) :
    (∃ i, SlotTable.slotFor TcLinkKeyEntry.device (fun _ => none) s.entries ieee = some i ∧
        s.provision ieee key = (true, { s with entries := s.entries.set i ⟨true, ieee, key⟩ })) ∨
      s.provision ieee key = (false, s) := by
  rw [provision, slotFor_eq]
  cases SlotTable.slotFor TcLinkKeyEntry.device (fun _ => none) s.entries ieee with
  | some i => exact Or.inl ⟨i, rfl, rfl⟩
  | none => exact Or.inr rfl

theorem remove_cases (s : ZigbeeTcLinkKeyStore) (ieee : UInt64) :
    (∃ i, SlotTable.find TcLinkKeyEntry.device s.entries ieee = some i ∧
        s.remove ieee = (true, { s with entries := s.entries.set i {} })) ∨
      s.ownKey ieee = none ∧ s.remove ieee = (false, s) := by
  rw [remove, find_eq]
  cases hfind : SlotTable.find TcLinkKeyEntry.device s.entries ieee with
  | some i => exact Or.inl ⟨i, rfl, rfl⟩
  | none => exact Or.inr ⟨by rw [ownKey, SlotTable.lookup_of_find_none hfind]; rfl, rfl⟩

theorem provision_self (h : (s.provision ieee key).1 = true) :
    (s.provision ieee key).2.ownKey ieee = some key := by
  rcases provision_cases s ieee key with ⟨i, hslot, hprovision⟩ | hprovision
  · obtain ⟨hi, -⟩ := SlotTable.slotFor_of_room (SlotTable.hasRoom_of_slotFor hslot) hslot
    have hstored : SlotTable.lookup TcLinkKeyEntry.device (s.entries.set i ⟨true, ieee, key⟩) ieee =
        some ⟨true, ieee, key⟩ := SlotTable.lookup_store_self hslot hi rfl
    rw [hprovision, ownKey, hstored]
    rfl
  · rw [hprovision] at h
    cases h

theorem provision_other (h : other ≠ ieee) :
    (s.provision ieee key).2.ownKey other = s.ownKey other := by
  rcases provision_cases s ieee key with ⟨i, hslot, hprovision⟩ | hprovision
  · rw [hprovision, ownKey,
      SlotTable.lookup_store_other (SlotTable.hasRoom_of_slotFor hslot) hslot rfl h]
    rfl
  · rw [hprovision]

theorem provision_global (s : ZigbeeTcLinkKeyStore) (ieee : UInt64) (key : Block) :
    (s.provision ieee key).2.global = s.global := by
  rcases provision_cases s ieee key with ⟨i, -, hprovision⟩ | hprovision <;> rw [hprovision]

theorem provision_failed (h : (s.provision ieee key).1 = false) :
    (s.provision ieee key).2 = s := by
  rcases provision_cases s ieee key with ⟨i, -, hprovision⟩ | hprovision
  · rw [hprovision] at h
    cases h
  · rw [hprovision]

theorem remove_self (hdistinct : SlotTable.Distinct TcLinkKeyEntry.device s.entries) :
    (s.remove ieee).2.ownKey ieee = none := by
  rcases remove_cases s ieee with ⟨i, hfind, hremove⟩ | ⟨hnone, hremove⟩
  · rw [hremove, ownKey, hdistinct.lookup_clear hfind rfl]
    rfl
  · rw [hremove, hnone]

theorem remove_other (h : other ≠ ieee) : (s.remove ieee).2.ownKey other = s.ownKey other := by
  rcases remove_cases s ieee with ⟨i, hfind, hremove⟩ | ⟨-, hremove⟩
  · rw [hremove, ownKey, SlotTable.lookup_clear_other hfind rfl h]
    rfl
  · rw [hremove]

theorem remove_global (s : ZigbeeTcLinkKeyStore) (ieee : UInt64) :
    (s.remove ieee).2.global = s.global := by
  rcases remove_cases s ieee with ⟨i, -, hremove⟩ | ⟨-, hremove⟩ <;> rw [hremove]

theorem remove_failed (h : (s.remove ieee).1 = false) : (s.remove ieee).2 = s := by
  rcases remove_cases s ieee with ⟨i, -, hremove⟩ | ⟨-, hremove⟩
  · rw [hremove] at h
    cases h
  · rw [hremove]

/-- No call leaves a buffer. -/
theorem step_eq (encrypt : Encrypt) (s : ZigbeeTcLinkKeyStore) (call : Call) :
    step encrypt s call = .ok (next encrypt s call) := by
  cases call with
  | provision ieee key => rfl
  | provisionInstallCode ieee codeWithCrc scratch =>
    rw [step, provisionInstallCode, ZigbeeInstallCode.deriveLinkKey_eq, next]
    cases ZigbeeInstallCode.linkKey encrypt codeWithCrc <;> rfl
  | remove ieee => rfl
  | setGlobalKey key => rfl

theorem next_provides {call : Call} (h : Provides encrypt ieee call key) :
    next encrypt s call = s.provision ieee key := by
  rcases h with rfl | ⟨codeWithCrc, scratch, rfl, hkey⟩
  · rfl
  · rw [next, hkey]
    rfl

theorem next_cases (encrypt : Encrypt) (s : ZigbeeTcLinkKeyStore) (call : Call) :
    (∃ ieee key, call.device = some ieee ∧ Provides encrypt ieee call key ∧
        next encrypt s call = s.provision ieee key) ∨
      (∃ ieee, call = .remove ieee ∧ next encrypt s call = s.remove ieee) ∨
      (∃ key, call = .setGlobalKey key ∧ next encrypt s call = (true, s.setGlobalKey key)) ∨
      next encrypt s call = (false, s) := by
  cases call with
  | provision ieee key => exact Or.inl ⟨ieee, key, rfl, Or.inl rfl, rfl⟩
  | provisionInstallCode ieee codeWithCrc scratch =>
    cases hkey : ZigbeeInstallCode.linkKey encrypt codeWithCrc with
    | none =>
      refine Or.inr (Or.inr (Or.inr ?_))
      rw [next, hkey]
      rfl
    | some key =>
      have hprovides : Provides encrypt ieee (.provisionInstallCode ieee codeWithCrc scratch) key :=
        Or.inr ⟨codeWithCrc, scratch, rfl, hkey⟩
      exact Or.inl ⟨ieee, key, rfl, hprovides, next_provides hprovides⟩
  | remove ieee => exact Or.inr (Or.inl ⟨ieee, rfl, rfl⟩)
  | setGlobalKey key => exact Or.inr (Or.inr (Or.inl ⟨key, rfl, rfl⟩))

theorem next_other {call : Call} (hdevice : call.device ≠ some ieee) :
    (next encrypt s call).2.ownKey ieee = s.ownKey ieee := by
  rcases next_cases encrypt s call with ⟨other, key, hother, -, hnext⟩ | ⟨other, rfl, hnext⟩ |
    ⟨key, -, hnext⟩ | hnext
  · rw [hnext]
    exact provision_other fun h => hdevice (h ▸ hother)
  · rw [hnext]
    exact remove_other fun h => hdevice (congrArg some h.symm)
  · rw [hnext]
    rfl
  · rw [hnext]

theorem next_global {call : Call} (hcall : ∀ key, call ≠ .setGlobalKey key) :
    (next encrypt s call).2.global = s.global := by
  rcases next_cases encrypt s call with ⟨ieee, key, -, -, hnext⟩ | ⟨ieee, -, hnext⟩ |
    ⟨key, hglobal, -⟩ | hnext
  · rw [hnext]
    exact provision_global s ieee key
  · rw [hnext]
    exact remove_global s ieee
  · exact absurd hglobal (hcall key)
  · rw [hnext]

theorem next_failed {call : Call} (h : (next encrypt s call).1 = false) :
    (next encrypt s call).2 = s := by
  rcases next_cases encrypt s call with ⟨ieee, key, -, -, hnext⟩ | ⟨ieee, -, hnext⟩ |
    ⟨key, -, hnext⟩ | hnext
  · rw [hnext] at h ⊢
    exact provision_failed h
  · rw [hnext] at h ⊢
    exact remove_failed h
  · rw [hnext] at h
    cases h
  · rw [hnext]

theorem next_distinct (h : SlotTable.Distinct TcLinkKeyEntry.device s.entries) (call : Call) :
    SlotTable.Distinct TcLinkKeyEntry.device (next encrypt s call).2.entries := by
  rcases next_cases encrypt s call with ⟨ieee, key, -, -, hnext⟩ | ⟨ieee, -, hnext⟩ |
    ⟨key, -, hnext⟩ | hnext
  · rw [hnext]
    rcases provision_cases s ieee key with ⟨i, hslot, hprovision⟩ | hprovision
    · rw [hprovision]
      exact h.store hslot rfl
    · rwa [hprovision]
  · rw [hnext]
    rcases remove_cases s ieee with ⟨i, -, hremove⟩ | ⟨-, hremove⟩
    · rw [hremove]
      exact h.clear rfl
    · rwa [hremove]
  · rwa [hnext]
  · rwa [hnext]

end Calls

/-! ## A run of calls -/

section Runs

variable (encrypt : Encrypt) (capacity : UInt8)

/-- The store after a run, where the hash needs no buffer. -/
def state (calls : List Call) : ZigbeeTcLinkKeyStore :=
  calls.foldl (fun s call => (next encrypt s call).2) (begin capacity)

theorem state_concat (calls : List Call) (call : Call) :
    state encrypt capacity (calls ++ [call]) =
      (next encrypt (state encrypt capacity calls) call).2 := by
  rw [state, List.foldl_concat]
  rfl

theorem after_eq (calls : List Call) :
    after encrypt capacity calls = .ok (state encrypt capacity calls) := by
  have hfold : ∀ s, calls.foldlM (fun s call => (step encrypt s call).map Prod.snd) s =
      .ok (calls.foldl (fun s call => (next encrypt s call).2) s) := by
    induction calls with
    | nil => exact fun s => rfl
    | cons call calls ih =>
      intro s
      rw [List.foldlM_cons, step_eq]
      exact ih _
  exact hfold (begin capacity)

theorem begin_unused : ∀ e ∈ (begin capacity).entries, e.device = none := by
  intro e he
  rw [List.eq_of_mem_replicate he]
  rfl

theorem state_distinct (calls : List Call) :
    SlotTable.Distinct TcLinkKeyEntry.device (state encrypt capacity calls).entries := by
  have hbegin : SlotTable.Distinct TcLinkKeyEntry.device (begin capacity).entries :=
    SlotTable.distinct_of_unused (begin_unused capacity)
  rw [state]
  induction calls using List.reverseRecOn with
  | nil => exact hbegin
  | append_singleton calls call ih =>
    rw [List.foldl_concat]
    exact next_distinct ih call

variable {encrypt capacity}

theorem provisionsAfter_iff {ieee : UInt64} {past : List Call} {call : Call} {key : Block} :
    ProvisionsAfter encrypt capacity ieee past call key ↔ Provides encrypt ieee call key ∧
      ((state encrypt capacity past).provision ieee key).1 = true := by
  simp only [ProvisionsAfter, after_eq, step_eq]
  constructor
  · rintro ⟨hprovides, s, s', hs, hnext⟩
    obtain rfl := Except.ok.inj hs
    rw [next_provides hprovides] at hnext
    exact ⟨hprovides, congrArg Prod.fst (Except.ok.inj hnext)⟩
  · rintro ⟨hprovides, htrue⟩
    refine ⟨hprovides, _, ((state encrypt capacity past).provision ieee key).2, rfl, ?_⟩
    rw [next_provides hprovides, ← htrue]

/-- A device's own key is the one of its latest successful provisioning, if it was not removed. -/
theorem ownKey_eq_some_iff (calls : List Call) (ieee : UInt64) (key : Block) :
    (state encrypt capacity calls).ownKey ieee = some key ↔
      Provisioned encrypt capacity calls ieee key := by
  refine @Latest.eq_some_iff _ _ (ProvisionsAfter encrypt capacity ieee)
    (fun _ call => call = .remove ieee) (fun calls => (state encrypt capacity calls).ownKey ieee)
    ?_ ?_ ?_ ?_ calls key
  · have hnone : SlotTable.lookup TcLinkKeyEntry.device (begin capacity).entries ieee = none := by
      rw [SlotTable.lookup_eq_none]
      intro e he h
      rw [begin_unused capacity e he] at h
      cases h
    change (SlotTable.lookup TcLinkKeyEntry.device (begin capacity).entries ieee).map _ = none
    rw [hnone]
    rfl
  · intro past call key hprovisions
    obtain ⟨hprovides, htrue⟩ := provisionsAfter_iff.mp hprovisions
    rw [state_concat, next_provides hprovides, provision_self htrue]
  · rintro past _ rfl
    rw [state_concat]
    exact remove_self (state_distinct encrypt capacity past)
  · rintro past call ⟨hremove, hprovisions⟩
    rw [state_concat]
    by_cases hdevice : call.device = some ieee
    · rcases next_cases encrypt (state encrypt capacity past) call with
        ⟨other, key, hother, hprovides, hnext⟩ | ⟨other, rfl, hnext⟩ | ⟨key, rfl, hnext⟩ | hnext
      · obtain rfl := Option.some.inj (hdevice.symm.trans hother)
        rw [hnext, provision_failed]
        exact eq_false_of_ne_true fun htrue =>
          hprovisions key (provisionsAfter_iff.mpr ⟨hprovides, htrue⟩)
      · exact absurd (congrArg Call.remove (Option.some.inj hdevice)) hremove
      · cases hdevice
      · rw [hnext]
    · exact next_other hdevice

theorem global_spec (calls : List Call) :
    (∀ key, GlobalSet calls key → (state encrypt capacity calls).global = key) ∧
      ((∀ key, Call.setGlobalKey key ∉ calls) →
        (state encrypt capacity calls).global = ZigbeeApsKey.defaultTcLinkKey) := by
  induction calls using List.reverseRecOn with
  | nil => exact ⟨fun key h => absurd h (Latest.not_latestValue_nil key), fun _ => rfl⟩
  | append_singleton calls call ih =>
    rw [state_concat]
    constructor
    · intro key h
      rcases Latest.latestValue_concat.mp h with rfl | ⟨⟨-, hidle⟩, hlatest⟩
      · rfl
      · rw [next_global hidle]
        exact ih.1 key hlatest
    · intro h
      have hcall : ∀ key, call ≠ .setGlobalKey key := by
        rintro key rfl
        exact h key (List.mem_append_right calls (List.mem_singleton.mpr rfl))
      rw [next_global hcall]
      exact ih.2 fun key hkey => h key (List.mem_append_left _ hkey)

end Runs

/-- What holds of the store after a run of calls. -/
structure Law (encrypt : Encrypt) (capacity : UInt8) (calls : List Call)
    (s : ZigbeeTcLinkKeyStore) : Prop where
  own : ∀ ieee key, Provisioned encrypt capacity calls ieee key → s.keyFor ieee = key
  other : ∀ ieee, (∀ key, ¬ Provisioned encrypt capacity calls ieee key) →
    s.keyFor ieee = s.global
  set : ∀ key, GlobalSet calls key → s.global = key
  notSet : (∀ key, Call.setGlobalKey key ∉ calls) → s.global = ZigbeeApsKey.defaultTcLinkKey
  returns : ∀ call, ∃ r, step encrypt s call = .ok r
  isolated : ∀ call device ieee r, call.device = some device → device ≠ ieee →
    step encrypt s call = .ok r → r.2.keyFor ieee = s.keyFor ieee
  failed : ∀ call s', step encrypt s call = .ok (false, s') → s' = s

/-- The key of a device is its own one, else the global one, after any run of calls. -/
theorem tc_link_key_store_law (encrypt : Encrypt) (capacity : UInt8) (calls : List Call) :
    ∃ s, after encrypt capacity calls = .ok s ∧ Law encrypt capacity calls s := by
  refine ⟨state encrypt capacity calls, after_eq encrypt capacity calls, ?_, ?_,
    (global_spec calls).1, (global_spec calls).2, fun call => ⟨_, step_eq encrypt _ call⟩, ?_, ?_⟩
  · intro ieee key h
    rw [keyFor_eq, (ownKey_eq_some_iff calls ieee key).mpr h, Option.getD_some]
  · intro ieee h
    have hnone : (state encrypt capacity calls).ownKey ieee = none := by
      apply Option.eq_none_iff_forall_ne_some.mpr
      intro key hkey
      exact h key ((ownKey_eq_some_iff calls ieee key).mp hkey)
    rw [keyFor_eq, hnone, Option.getD_none]
  · intro call device ieee r hdevice hne hstep
    have hcall : ∀ key, call ≠ .setGlobalKey key := by
      rintro key rfl
      cases hdevice
    rw [step_eq] at hstep
    obtain rfl := Except.ok.inj hstep
    rw [keyFor_eq, keyFor_eq, next_global hcall,
      next_other (by rw [hdevice]; exact fun h => hne (Option.some.inj h))]
  · intro call s' hstep
    rw [step_eq] at hstep
    have hnext := Except.ok.inj hstep
    have hfailed := next_failed (congrArg Prod.fst hnext)
    rw [hnext] at hfailed
    exact hfailed

/-- One device with a key of its own, and a global key that was set. -/
theorem tc_link_key_store_law_one_device :
    let encrypt := ZigbeeApsSecurity.Checked.ofCipher Aes128.encrypt
    ∃ s, after encrypt 1 ([.setGlobalKey (Block.ofList [1])] ++
        [.provision 0xA1 (Block.ofList [2])]) = .ok s ∧
      s.keyFor 0xA1 = Block.ofList [2] ∧ s.global = Block.ofList [1] := by
  intro encrypt
  obtain ⟨s, hs, hlaw⟩ := tc_link_key_store_law encrypt 1
    ([.setGlobalKey (Block.ofList [1])] ++ [.provision 0xA1 (Block.ofList [2])])
  refine ⟨s, hs, hlaw.own 0xA1 _ ?_, hlaw.set _ ?_⟩
  · exact Latest.latestValue_concat.mpr (Or.inl ⟨Or.inl rfl, _, _, rfl, rfl⟩)
  · refine Latest.latestValue_concat.mpr (Or.inr ⟨⟨not_false, ?_⟩, ?_⟩)
    · rintro key ⟨⟩
    · exact ⟨[], _, [], rfl, rfl, by simp⟩

end ZigbeeTcLinkKeyStore

end NiusZigbee
