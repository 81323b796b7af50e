import NiusZigbee.Library.OutBuffer
import NiusZigbee.Library.Records
import Mathlib.Data.List.Induction

/-!
# Network Updates

The network manager announces a new PAN id or a new channel in a Network Update frame, under one
update id that both kinds of change share. A node adopts an update that is newer than its own id.
So a node that receives the announcements out of order keeps those that are ahead of everything
announced later, and may be left with an old value of one setting under the newest update id.
-/

namespace NiusZigbee

open ByteCodec OutBuffer Records

def nwkUpdatePanId : UInt8 := 0x00
def nwkUpdateChannel : UInt8 := 0x01

structure NwkNetworkUpdate where
  updateType : UInt8 := 0
  extendedPanId : UInt64 := 0
  updateId : UInt8 := 0
  newPanId : UInt16 := 0
  newChannel : UInt8 := 0
deriving DecidableEq, Repr

namespace ZigbeePanIdConflict

def buildUpdate (outMax : UInt8) (u : NwkNetworkUpdate) : Built :=
  if outMax.toNat < 12 then .fail
  else
    { len := 12
      writes := emit 0 [((u.updateType &&& 0x07) <<< (5 : UInt8)) ||| 0x01] ++
        emit 1 (le64 u.extendedPanId) ++ emit 9 [u.updateId] ++ emit 10 (le16 u.newPanId) }

def parseUpdate (payload : List UInt8) : Option (Bool × NwkNetworkUpdate) :=
  if payload.length < 12 then some (false, {})
  else do
    return (true,
      { updateType := ((← read8 payload 0) >>> (5 : UInt8)) &&& 0x07
        extendedPanId := ← read64 payload 1
        updateId := ← read8 payload 9
        newPanId := ← read16 payload 10 })

def buildChannelUpdate (outMax : UInt8) (u : NwkNetworkUpdate) : Built :=
  if outMax.toNat < 11 then .fail
  else
    { len := 11
      writes := emit 0 [((nwkUpdateChannel &&& 0x07) <<< (5 : UInt8)) ||| 0x01] ++
        emit 1 (le64 u.extendedPanId) ++ emit 9 [u.updateId] ++ emit 10 [u.newChannel] }

def parseChannelUpdate (payload : List UInt8) : Option (Bool × NwkNetworkUpdate) :=
  if payload.length < 11 then some (false, {})
  else do
    let updateType := ((← read8 payload 0) >>> (5 : UInt8)) &&& 0x07
    if updateType ≠ nwkUpdateChannel then return (false, { updateType := updateType })
    else
      return (true,
        { updateType := updateType
          extendedPanId := ← read64 payload 1
          updateId := ← read8 payload 9
          newChannel := ← read8 payload 10 })

/-- The half-window test. -/
def updateIdIsNewer (incoming current : UInt8) : Bool :=
  incoming - current != 0 && incoming - current < 128

end ZigbeePanIdConflict

/-- The network identity of the manager, and of a node that follows it. -/
structure ZigbeeNetworkManager where
  panId : UInt16 := 0
  extPanId : UInt64 := 0
  channel : UInt8 := 11
  updateId : UInt8 := 0
deriving DecidableEq, Repr

namespace ZigbeeNetworkManager

open ZigbeePanIdConflict

def buildPanIdChange (mgr : ZigbeeNetworkManager) (outMax : UInt8) (newPanId : UInt16) : Built :=
  buildUpdate outMax
    { updateType := nwkUpdatePanId, extendedPanId := mgr.extPanId, updateId := mgr.updateId + 1
      newPanId := newPanId }

def buildChannelChange (mgr : ZigbeeNetworkManager) (outMax newChannel : UInt8) : Built :=
  buildChannelUpdate outMax
    { updateType := nwkUpdateChannel, extendedPanId := mgr.extPanId, updateId := mgr.updateId + 1
      newChannel := newChannel }

def commitPanId (mgr : ZigbeeNetworkManager) (newPanId : UInt16) : ZigbeeNetworkManager :=
  { mgr with panId := newPanId, updateId := mgr.updateId + 1 }

def commitChannel (mgr : ZigbeeNetworkManager) (newChannel : UInt8) : ZigbeeNetworkManager :=
  { mgr with channel := newChannel, updateId := mgr.updateId + 1 }

def applyUpdate (node : ZigbeeNetworkManager) (u : NwkNetworkUpdate) :
    Bool × ZigbeeNetworkManager :=
  if u.extendedPanId ≠ node.extPanId then (false, node)
  else if !updateIdIsNewer u.updateId node.updateId then (false, node)
  else if u.updateType = nwkUpdatePanId then
    (true, { node with panId := u.newPanId, updateId := u.updateId })
  else if u.updateType = nwkUpdateChannel then
    (true, { node with channel := u.newChannel, updateId := u.updateId })
  else (false, node)

/-- A change the manager makes. -/
inductive NetworkChange where
  | panId (newPanId : UInt16)
  | channel (newChannel : UInt8)
deriving DecidableEq, Repr

/-- The announcement of a change, then its commit. -/
def announce (outMax : UInt8) (mgr : ZigbeeNetworkManager) :
    NetworkChange → Built × ZigbeeNetworkManager
  | .panId newPanId => (buildPanIdChange mgr outMax newPanId, commitPanId mgr newPanId)
  | .channel newChannel => (buildChannelChange mgr outMax newChannel, commitChannel mgr newChannel)

/-- The frames of a sequence of changes, and the manager behind them. -/
def announceAll (outMax : UInt8) :
    ZigbeeNetworkManager → List NetworkChange → List (List UInt8) × ZigbeeNetworkManager
  | mgr, [] => ([], mgr)
  | mgr, change :: changes =>
      let (frame, mgr') := announce outMax mgr change
      let (frames, final) := announceAll outMax mgr' changes
      (frame.bytes :: frames, final)

/-- The parser for the frame's type, then `applyUpdate` on what it accepts. -/
def receive (node : ZigbeeNetworkManager) (frame : List UInt8) : ZigbeeNetworkManager :=
  let parsed := if (frame.getD 0 0 >>> (5 : UInt8)) &&& 0x07 = nwkUpdateChannel then
      parseChannelUpdate frame
    else parseUpdate frame
  match parsed with
  | some (true, u) => (applyUpdate node u).2
  | _ => node

/-! ## One announcement -/

/-- The bytes that announce a change. -/
def frameBytes (extPanId : UInt64) (updateId : UInt8) : NetworkChange → List UInt8
  | .panId newPanId => [0x01] ++ le64 extPanId ++ [updateId] ++ le16 newPanId
  | .channel newChannel => [0x21] ++ le64 extPanId ++ [updateId] ++ [newChannel]

/-- A change taken over under its update id. -/
def adopt (node : ZigbeeNetworkManager) (updateId : UInt8) :
    NetworkChange → ZigbeeNetworkManager
  | .panId newPanId => { node with panId := newPanId, updateId := updateId }
  | .channel newChannel => { node with channel := newChannel, updateId := updateId }

@[simp] theorem adopt_extPanId (node : ZigbeeNetworkManager) (updateId : UInt8)
    (change : NetworkChange) : (adopt node updateId change).extPanId = node.extPanId := by
  cases change <;> rfl

@[simp] theorem adopt_updateId (node : ZigbeeNetworkManager) (updateId : UInt8)
    (change : NetworkChange) : (adopt node updateId change).updateId = updateId := by
  cases change <;> rfl

theorem announce_eq {outMax : UInt8} (hbuffer : 12 ≤ outMax.toNat) (mgr : ZigbeeNetworkManager)
    (change : NetworkChange) :
    (announce outMax mgr change).1.bytes =
        frameBytes mgr.extPanId (mgr.updateId + 1) change ∧
      (announce outMax mgr change).2 = adopt mgr (mgr.updateId + 1) change := by
  cases change with
  | panId newPanId =>
    refine ⟨?_, rfl⟩
    have hbuild : buildPanIdChange mgr outMax newPanId =
        .exact (frameBytes mgr.extPanId (mgr.updateId + 1) (.panId newPanId)) := by
      rw [buildPanIdChange, buildUpdate, if_neg (by omega)]
      simp [Built.exact, frameBytes, emit_append, emit, nwkUpdatePanId]
    rw [announce, hbuild, Built.exact_bytes]
  | channel newChannel =>
    refine ⟨?_, rfl⟩
    have hbuild : buildChannelChange mgr outMax newChannel =
        .exact (frameBytes mgr.extPanId (mgr.updateId + 1) (.channel newChannel)) := by
      have hoptions : ((nwkUpdateChannel &&& 0x07) <<< (5 : UInt8)) ||| 0x01 = 0x21 := rfl
      rw [buildChannelChange, buildChannelUpdate, if_neg (by omega), hoptions]
      simp [Built.exact, frameBytes, emit_append, emit]
    rw [announce, hbuild, Built.exact_bytes]

private theorem frame_reads (options updateId : UInt8) (extPanId : UInt64) (rest : List UInt8) :
    let frame := [options] ++ le64 extPanId ++ [updateId] ++ rest
    frame.length = 10 + rest.length ∧ frame[0]? = some options ∧
      read64 frame 1 = some extPanId ∧ frame[9]? = some updateId ∧ frame[10]? = rest[0]? ∧
      read16 frame 10 = read16 rest 0 := by
  have hhead : ([options] ++ le64 extPanId ++ [updateId]).length = 10 := by simp
  refine ⟨?_, rfl, ?_, rfl, ?_, ?_⟩
  · rw [List.length_append, hhead]
  · simp only [List.cons_append, List.nil_append, List.append_assoc, read64_cons, read64_le64]
  · rw [List.getElem?_append_right (by omega), hhead]
  · rw [read16_append_right _ (by omega), hhead]

/-- A node takes an announcement of its own network over when its update id is newer. -/
theorem receive_frame (node : ZigbeeNetworkManager) (updateId : UInt8) (change : NetworkChange) :
    receive node (frameBytes node.extPanId updateId change) =
      if updateIdIsNewer updateId node.updateId then adopt node updateId change else node := by
  cases change with
  | panId newPanId =>
    have hparse : parseUpdate (frameBytes node.extPanId updateId (.panId newPanId)) =
        some (true, { updateType := nwkUpdatePanId, extendedPanId := node.extPanId
                      updateId := updateId, newPanId := newPanId }) := by
      obtain ⟨hlen, h0, h1, h9, -, h10⟩ :=
        frame_reads 0x01 updateId node.extPanId (le16 newPanId)
      have hpan : read16 (le16 newPanId) 0 = some newPanId := read16_le16 newPanId []
      simp only [frameBytes, parseUpdate, hlen, h0, h1, h9, h10, hpan, read8_eq]
      rfl
    have htype : ¬ ((frameBytes node.extPanId updateId (.panId newPanId)).getD 0 0 >>>
        (5 : UInt8)) &&& 0x07 = nwkUpdateChannel := by
      have hoptions : (frameBytes node.extPanId updateId (.panId newPanId)).getD 0 0 = 0x01 := by
        simp [frameBytes]
      rw [hoptions]
      decide
    simp only [receive, if_neg htype, hparse, applyUpdate]
    by_cases hnewer : updateIdIsNewer updateId node.updateId <;> simp [hnewer, adopt]
  | channel newChannel =>
    have hparse : parseChannelUpdate (frameBytes node.extPanId updateId (.channel newChannel)) =
        some (true, { updateType := nwkUpdateChannel, extendedPanId := node.extPanId
                      updateId := updateId, newChannel := newChannel }) := by
      obtain ⟨hlen, h0, h1, h9, h10, -⟩ := frame_reads 0x21 updateId node.extPanId [newChannel]
      simp only [frameBytes, parseChannelUpdate, hlen, h0, h1, h9, h10, read8_eq]
      rfl
    have htype : ((frameBytes node.extPanId updateId (.channel newChannel)).getD 0 0 >>>
        (5 : UInt8)) &&& 0x07 = nwkUpdateChannel := by
      have hoptions : (frameBytes node.extPanId updateId (.channel newChannel)).getD 0 0 =
          0x21 := by
        simp [frameBytes]
      rw [hoptions]
      decide
    have hne : nwkUpdateChannel ≠ nwkUpdatePanId := by decide
    simp only [receive, if_pos htype, hparse, applyUpdate]
    by_cases hnewer : updateIdIsNewer updateId node.updateId <;> simp [hnewer, hne, adopt]

/-! ## Sequences of announcements -/

/-- What is left of a setting after some changes, those of the other setting aside. -/
def settingAfter {α : Type} (setting : NetworkChange → Option α) (start : α)
    (changes : List NetworkChange) : α :=
  ((changes.filterMap setting).getLast?).getD start

def NetworkChange.panId? : NetworkChange → Option UInt16
  | .panId newPanId => some newPanId
  | .channel _ => none

def NetworkChange.channel? : NetworkChange → Option UInt8
  | .panId _ => none
  | .channel newChannel => some newChannel

theorem settingAfter_cons {α : Type} (setting : NetworkChange → Option α) (start : α)
    (change : NetworkChange) (changes : List NetworkChange) :
    settingAfter setting start (change :: changes) =
      settingAfter setting ((setting change).getD start) changes := by
  cases h : setting change with
  | none => simp [settingAfter, h]
  | some v => simp [settingAfter, h, List.getLast?_cons]

/-- Update ids in use, at most 127 apart, compare as their positions do. -/
theorem updateIdIsNewer_add (base : UInt8) {i k : Nat} (hi : i < 128) (hk : k < 128) :
    updateIdIsNewer (base + i.toUInt8) (base + k.toUInt8) = decide (k < i) := by
  have hdiff : (base + i.toUInt8 - (base + k.toUInt8)).toNat = (256 + i - k) % 256 := by
    simp only [UInt8.toNat_sub, UInt8.toNat_add, Nat.toUInt8_eq, UInt8.toNat_ofNat']
    omega
  simp only [updateIdIsNewer]
  generalize base + i.toUInt8 - (base + k.toUInt8) = diff at hdiff
  have hzero : diff = 0 ↔ diff.toNat = 0 := by
    rw [← UInt8.toNat_inj]
    rfl
  have hlow : diff < 128 ↔ diff.toNat < 128 := UInt8.lt_iff_toNat_lt
  rw [Bool.eq_iff_iff]
  simp only [Bool.and_eq_true, bne_iff_ne, ne_eq, decide_eq_true_eq, hzero, hlow]
  omega

/-- The manager announces its `i`th change under the `i + 1`st id after its first, and ends with
the last value of each setting under the last id. -/
theorem announceAll_eq {outMax : UInt8} (hbuffer : 12 ≤ outMax.toNat)
    (mgr : ZigbeeNetworkManager) (changes : List NetworkChange) :
    (announceAll outMax mgr changes).1 = changes.zipIdx.map (fun p =>
        frameBytes mgr.extPanId (mgr.updateId + (p.2 + 1).toUInt8) p.1) ∧
      (announceAll outMax mgr changes).2 =
        { panId := settingAfter NetworkChange.panId? mgr.panId changes
          extPanId := mgr.extPanId
          channel := settingAfter NetworkChange.channel? mgr.channel changes
          updateId := mgr.updateId + changes.length.toUInt8 } := by
  induction changes generalizing mgr with
  | nil => simp [announceAll, settingAfter]
  | cons change changes ih =>
    obtain ⟨hbytes, hcommit⟩ := announce_eq hbuffer mgr change
    obtain ⟨hframes, hfinal⟩ := ih (adopt mgr (mgr.updateId + 1) change)
    have hid : ∀ k : Nat, mgr.updateId + 1 + k.toUInt8 = mgr.updateId + (k + 1).toUInt8 := by
      intro k
      rw [UInt8.add_assoc]
      congr 1
      apply UInt8.toNat_inj.mp
      simp only [UInt8.toNat_add, UInt8.toNat_one, Nat.toUInt8_eq, UInt8.toNat_ofNat']
      omega
    constructor
    · simp only [announceAll, hbytes, hcommit, hframes, adopt_extPanId, adopt_updateId, hid,
        List.zipIdx_cons', List.map_cons, List.map_map]
      rfl
    · simp only [announceAll, hcommit, hfinal, adopt_extPanId, adopt_updateId, hid,
        settingAfter_cons, List.length_cons]
      cases change <;> rfl

/-! ## Receiving them in any order -/

section Receiving

variable {changes : List NetworkChange} (start : ZigbeeNetworkManager)

/-- The frame of the `i`th change. -/
def announced (i : Fin changes.length) : List UInt8 :=
  frameBytes start.extPanId (start.updateId + (i.val + 1).toUInt8) changes[i]

/-- A node that is `k` changes on takes over the announcements that are records above `k`. -/
theorem receive_records (hcount : changes.length < 128) (order : List (Fin changes.length))
    {node : ZigbeeNetworkManager} {k : Nat} {floor : WithBot (Fin changes.length)}
    (hext : node.extPanId = start.extPanId)
    (hid : node.updateId = start.updateId + k.toUInt8) (hk : k ≤ changes.length)
    (hfloor : ∀ i : Fin changes.length, floor < i ↔ k ≤ i.val) :
    let kept := (records floor order).map fun i => changes[i]
    ∃ k', k ≤ k' ∧ k' ≤ changes.length ∧ (∀ i ∈ order, i.val < k') ∧
      order.foldl (fun node i => receive node (announced start i)) node =
        { panId := settingAfter NetworkChange.panId? node.panId kept
          extPanId := start.extPanId
          channel := settingAfter NetworkChange.channel? node.channel kept
          updateId := start.updateId + k'.toUInt8 } := by
  induction order generalizing node k floor with
  | nil =>
    refine ⟨k, Nat.le_refl k, hk, by simp, ?_⟩
    rw [List.foldl_nil, ← hext, ← hid]
    rfl
  | cons i order ih =>
    have hreceive := receive_frame node (start.updateId + (i.val + 1).toUInt8) changes[i]
    rw [hext, hid, updateIdIsNewer_add start.updateId (by omega) (by omega)] at hreceive
    simp only [List.foldl_cons, announced, hreceive]
    by_cases hnew : k ≤ i.val
    · have hlt : k < i.val + 1 := by omega
      obtain ⟨k', hle, hbound, hrest, hrun⟩ := @ih (adopt node _ changes[i]) (i.val + 1) i
        ((adopt_extPanId _ _ _).trans hext) (adopt_updateId _ _ _) i.isLt (by
          intro j
          rw [WithBot.coe_lt_coe, Fin.lt_def]
          omega)
      refine ⟨k', by omega, hbound, ?_, ?_⟩
      · intro j hj
        rcases List.mem_cons.mp hj with rfl | hj
        · omega
        · exact hrest j hj
      · simp only [hlt, decide_true, if_true, records, (hfloor i).mpr hnew, List.map_cons,
          settingAfter_cons]
        refine hrun.trans ?_
        cases changes[i] <;> rfl
    · obtain ⟨k', hle, hbound, hrest, hrun⟩ := ih hext hid hk hfloor
      refine ⟨k', hle, hbound, ?_, ?_⟩
      · intro j hj
        rcases List.mem_cons.mp hj with rfl | hj
        · omega
        · exact hrest j hj
      · have hlt : ¬ k < i.val + 1 := by omega
        have hskip : ¬ floor < (i : WithBot (Fin changes.length)) := fun h => hnew ((hfloor i).mp h)
        simp only [hlt, decide_false, Bool.false_eq_true, if_false, records, hskip]
        exact hrun

end Receiving

/-- The changes whose announcement reaches the node before anything announced later, in the order
they were made. -/
def aheadChanges (changes : List NetworkChange) (order : List (Fin changes.length)) :
    List NetworkChange :=
  ((List.finRange changes.length).filter (Ahead order ·)).map fun i => changes[i]

/-- Of either setting, the last change that arrives ahead is as good as the last change made. -/
def ArrivesInTime (start : ZigbeeNetworkManager) (changes : List NetworkChange)
    (order : List (Fin changes.length)) : Prop :=
  settingAfter NetworkChange.panId? start.panId (aheadChanges changes order) =
      settingAfter NetworkChange.panId? start.panId changes ∧
    settingAfter NetworkChange.channel? start.channel (aheadChanges changes order) =
      settingAfter NetworkChange.channel? start.channel changes

instance (start : ZigbeeNetworkManager) (changes : List NetworkChange)
    (order : List (Fin changes.length)) : Decidable (ArrivesInTime start changes order) :=
  inferInstanceAs (Decidable (_ ∧ _))

/-- The network as a node sees it after the announcements of `changes`, received in `order`. -/
def receiveAll (outMax : UInt8) (start : ZigbeeNetworkManager) (changes : List NetworkChange)
    (order : List (Fin changes.length)) : ZigbeeNetworkManager :=
  let frames := (announceAll outMax start changes).1
  (order.map fun i : Fin changes.length => frames.getD i.val []).foldl receive start

/-- A node that receives every announcement ends as the manager does exactly when the last change
of each setting arrives in time. -/
theorem converges_iff {outMax : UInt8} (hbuffer : 12 ≤ outMax.toNat)
    (start : ZigbeeNetworkManager) {changes : List NetworkChange} (hcount : changes.length < 128)
    {order : List (Fin changes.length)} (hall : ∀ i, i ∈ order) :
    let final := (announceAll outMax start changes).2
    let node := receiveAll outMax start changes order
    (node.panId = final.panId ∧ node.channel = final.channel ∧ node.updateId = final.updateId) ↔
      ArrivesInTime start changes order := by
  obtain ⟨hframes, hfinal⟩ := announceAll_eq hbuffer start changes
  have hframe : ∀ i : Fin changes.length,
      (announceAll outMax start changes).1.getD i [] = announced start i := by
    intro i
    rw [hframes, List.getD_eq_getElem?_getD, List.getElem?_map, List.getElem?_zipIdx,
      List.getElem?_eq_getElem i.isLt]
    simp [announced]
  obtain ⟨k, -, hbound, hreached, hrun⟩ := @receive_records changes start hcount order start 0 ⊥ rfl
    (by simp) (Nat.zero_le _) (fun i => by simp [WithBot.bot_lt_coe])
  have hrecords : records ⊥ order = (List.finRange changes.length).filter (Ahead order ·) :=
    records_eq_filter (List.sortedLT_finRange _) (fun i => by simp [hall i])
  have hk : k = changes.length := by
    rcases Nat.eq_zero_or_pos changes.length with hzero | hpos
    · omega
    · have := hreached ⟨changes.length - 1, by omega⟩ (hall _)
      simp only at this
      omega
  have hnode : receiveAll outMax start changes order =
      order.foldl (fun node i => receive node (announced start i)) start := by
    simp only [receiveAll, hframe, List.foldl_map]
  simp only [hnode, hrun, hfinal, hrecords, hk, ArrivesInTime, aheadChanges, and_true]

/-- A PAN id change and a channel change, and a node that hears of the channel first. -/
theorem converges_iff_in_order :
    let start : ZigbeeNetworkManager := ⟨0x1A62, 0x1A62195E00000000, 15, 3⟩
    let node := receiveAll 16 start [.panId 0x3C4D, .channel 25] [0, 1, 0]
    node.panId = 0x3C4D ∧ node.channel = 25 ∧ node.updateId = 5 :=
  (converges_iff (by decide) ⟨0x1A62, 0x1A62195E00000000, 15, 3⟩ (by decide) (by decide)).mpr
    (by decide)

theorem late_panId_ignored :
    let start : ZigbeeNetworkManager := ⟨0x1A62, 0x1A62195E00000000, 15, 3⟩
    let changes : List NetworkChange := [.panId 0x3C4D, .channel 25]
    let order : List (Fin changes.length) := [1, 0]
    (∀ i, i ∈ order) ∧ (announceAll 16 start changes).2 = ⟨0x3C4D, 0x1A62195E00000000, 25, 5⟩ ∧
      receiveAll 16 start changes order = ⟨0x1A62, 0x1A62195E00000000, 25, 5⟩ := by
  decide

private theorem settingAfter_filter {α β : Type} (setting : NetworkChange → Option α) (start : α)
    (f : β → NetworkChange) (keep : β → Bool) {xs : List β}
    (hlast : ∀ pre x post, xs = pre ++ x :: post → (setting (f x)).isSome →
      (∀ y ∈ post, setting (f y) = none) → keep x) :
    settingAfter setting start ((xs.filter keep).map f) =
      settingAfter setting start (xs.map f) := by
  induction xs using List.reverseRecOn with
  | nil => rfl
  | append_singleton xs x ih =>
    simp only [settingAfter, List.filter_append, List.map_append, List.filterMap_append] at ih ⊢
    cases hx : setting (f x) with
    | some v =>
      have hkeep : keep x := hlast xs x [] rfl (by simp [hx]) (by simp)
      simp [hkeep, hx]
    | none =>
      have htail : ((([x].filter keep).map f).filterMap setting) = [] := by
        by_cases hkeep : keep x <;> simp [hkeep, hx]
      simp only [htail, List.append_nil, List.map_cons, List.map_nil, List.filterMap_cons, hx,
        List.filterMap_nil]
      refine ih ?_
      intro pre y post hsplit hsome hnone
      refine hlast pre y (post ++ [x]) (by simp [hsplit]) hsome ?_
      intro z hz
      rcases List.mem_append.mp hz with hz | hz
      · exact hnone z hz
      · rw [List.mem_singleton.mp hz, hx]

/-- It is enough that the newest change of each setting is ahead of what is announced after it. -/
theorem arrivesInTime_of_newest {start : ZigbeeNetworkManager} {changes : List NetworkChange}
    {order : List (Fin changes.length)}
    (hpan : ∀ i : Fin changes.length, changes[i].panId?.isSome →
      (∀ j : Fin changes.length, i < j → changes[j].panId? = none) → Ahead order i)
    (hchannel : ∀ i : Fin changes.length, changes[i].channel?.isSome →
      (∀ j : Fin changes.length, i < j → changes[j].channel? = none) → Ahead order i) :
    ArrivesInTime start changes order := by
  have hlist : (List.finRange changes.length).map (fun i => changes[i]) = changes :=
    List.map_getElem_finRange changes
  -- what follows a change in the list of positions is announced after it
  have hafter : ∀ {pre : List (Fin changes.length)} {i post},
      List.finRange changes.length = pre ++ i :: post → ∀ j, i < j → j ∈ post := by
    intro pre i post hsplit j hlt
    have hmem : j ∈ pre ++ i :: post := hsplit ▸ List.mem_finRange j
    have hsorted := hsplit ▸ (List.sortedLT_finRange changes.length).pairwise
    rcases List.mem_append.mp hmem with hpre | hpost
    · exact absurd ((List.pairwise_append.mp hsorted).2.2 j hpre i List.mem_cons_self) hlt.not_gt
    · rcases List.mem_cons.mp hpost with rfl | hpost
      · exact absurd hlt (lt_irrefl _)
      · exact hpost
  constructor
  · rw [aheadChanges, settingAfter_filter, hlist]
    intro pre i post hsplit hsome hnone
    exact decide_eq_true (hpan i hsome fun j hlt => hnone j (hafter hsplit j hlt))
  · rw [aheadChanges, settingAfter_filter, hlist]
    intro pre i post hsplit hsome hnone
    exact decide_eq_true (hchannel i hsome fun j hlt => hnone j (hafter hsplit j hlt))

end ZigbeeNetworkManager

end NiusZigbee
