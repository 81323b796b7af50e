import NiusZigbee.Network.NetworkUpdate

/-!
# What an update installs

Two parsers fill in one structure: the one for PAN id updates takes a payload of any type, the one
for channel updates only its own. `applyUpdate` goes by the type, so a channel update read as a PAN
id update installs the channel that was never filled in.
-/

namespace NiusZigbee.ZigbeePanIdConflict

open ByteCodec ZigbeeNetworkManager

/-- The parsers of Network Updates. -/
inductive UpdateParser where
  | update
  | channelUpdate
deriving DecidableEq, Repr

def UpdateParser.parse : UpdateParser → List UInt8 → Option (Bool × NwkNetworkUpdate)
  | update => parseUpdate
  | channelUpdate => parseChannelUpdate

/-- `applyUpdate` on what the parser accepts. -/
def applied (p : UpdateParser) (node : ZigbeeNetworkManager) (payload : List UInt8) :
    ZigbeeNetworkManager :=
  match p.parse payload with
  | some (true, u) => (applyUpdate node u).2
  | _ => node

def typeOf (payload : List UInt8) : UInt8 := (payload.getD 0 0 >>> (5 : UInt8)) &&& 0x07

def extendedPanIdOf (payload : List UInt8) : UInt64 := join64 (slice payload 1 8)

/-- What changes is taken from the payload, and of its own type. -/
def InstallsCarried (p : UpdateParser) (node : ZigbeeNetworkManager) (payload : List UInt8) :
    Prop :=
  ((applied p node payload).panId ≠ node.panId →
      typeOf payload = nwkUpdatePanId ∧ 12 ≤ payload.length ∧
        (applied p node payload).panId = join16 (payload.getD 10 0) (payload.getD 11 0)) ∧
    ((applied p node payload).channel ≠ node.channel →
      typeOf payload = nwkUpdateChannel ∧ 11 ≤ payload.length ∧
        (applied p node payload).channel = payload.getD 10 0) ∧
    (typeOf payload ≠ nwkUpdatePanId ∧ typeOf payload ≠ nwkUpdateChannel →
      (applied p node payload).panId = node.panId ∧
        (applied p node payload).channel = node.channel ∧
        (applied p node payload).updateId = node.updateId)

/-- A channel update that is due here and long enough for a PAN id update. -/
def Misread (node : ZigbeeNetworkManager) (payload : List UInt8) : Prop :=
  typeOf payload = nwkUpdateChannel ∧ 12 ≤ payload.length ∧
    extendedPanIdOf payload = node.extPanId ∧
    updateIdIsNewer (payload.getD 9 0) node.updateId = true ∧ payload.getD 10 0 ≠ 0 ∧
    node.channel ≠ 0

instance (node : ZigbeeNetworkManager) (payload : List UInt8) : Decidable (Misread node payload) :=
  inferInstanceAs (Decidable (_ ∧ _ ∧ _ ∧ _ ∧ _ ∧ _))

variable {p : UpdateParser} {node : ZigbeeNetworkManager} {payload : List UInt8}

/-- Only an update of this network that is newer changes anything. -/
theorem applyUpdate_eq (node : ZigbeeNetworkManager) (u : NwkNetworkUpdate) :
    (applyUpdate node u).2 =
      if u.extendedPanId = node.extPanId ∧ updateIdIsNewer u.updateId node.updateId = true then
        if u.updateType = nwkUpdatePanId then
          { node with panId := u.newPanId, updateId := u.updateId }
        else if u.updateType = nwkUpdateChannel then
          { node with channel := u.newChannel, updateId := u.updateId }
        else node
      else node := by
  rw [applyUpdate]
  by_cases hnetwork : u.extendedPanId = node.extPanId
  swap
  · rw [if_pos hnetwork, if_neg fun h => hnetwork h.1]
  by_cases hnewer : updateIdIsNewer u.updateId node.updateId = true
  swap
  · rw [if_neg (not_not_intro hnetwork), if_pos (by simpa using hnewer), if_neg fun h => hnewer h.2]
  have hdue : u.extendedPanId = node.extPanId ∧ updateIdIsNewer u.updateId node.updateId = true :=
    ⟨hnetwork, hnewer⟩
  rw [if_neg (not_not_intro hnetwork), if_neg (by simpa using hnewer), if_pos hdue]
  by_cases hpan : u.updateType = nwkUpdatePanId
  · rw [if_pos hpan, if_pos hpan]
  rw [if_neg hpan, if_neg hpan]
  by_cases hchannel : u.updateType = nwkUpdateChannel
  · rw [if_pos hchannel, if_pos hchannel]
  · rw [if_neg hchannel, if_neg hchannel]

theorem parseUpdate_eq (payload : List UInt8) :
    parseUpdate payload =
      if payload.length < 12 then some (false, {})
      else some (true,
        { updateType := typeOf payload
          extendedPanId := extendedPanIdOf payload
          updateId := payload.getD 9 0
          newPanId := join16 (payload.getD 10 0) (payload.getD 11 0) }) := by
  rw [parseUpdate]
  split
  · rfl
  · next hlen =>
    have h64 : read64 payload 1 = some (extendedPanIdOf payload) := if_pos (by omega)
    simp only [read8_eq, getElem?_getD (show 0 < payload.length by omega),
      getElem?_getD (show 9 < payload.length by omega), h64,
      read16_getD (show 10 + 1 < payload.length by omega)]
    rfl

theorem parseChannelUpdate_eq (payload : List UInt8) :
    parseChannelUpdate payload =
      if payload.length < 11 then some (false, {})
      else if typeOf payload ≠ nwkUpdateChannel then
        some (false, { updateType := typeOf payload })
      else some (true,
        { updateType := typeOf payload
          extendedPanId := extendedPanIdOf payload
          updateId := payload.getD 9 0
          newChannel := payload.getD 10 0 }) := by
  rw [parseChannelUpdate]
  split
  · rfl
  · next hlen =>
    have h64 : read64 payload 1 = some (extendedPanIdOf payload) := if_pos (by omega)
    simp only [read8_eq, getElem?_getD (show 0 < payload.length by omega),
      getElem?_getD (show 9 < payload.length by omega),
      getElem?_getD (show 10 < payload.length by omega), h64, Option.bind_eq_bind,
      Option.bind_some]
    rfl

theorem applied_eq_of_some (node : ZigbeeNetworkManager) {u : NwkNetworkUpdate}
    (h : p.parse payload = some (true, u)) :
    applied p node payload = (applyUpdate node u).2 := by
  rw [applied, h]

theorem applied_eq_of_refused (node : ZigbeeNetworkManager) {u : NwkNetworkUpdate}
    (h : p.parse payload = some (false, u)) :
    applied p node payload = node := by
  rw [applied, h]

theorem carried_of_unchanged (h : applied p node payload = node) :
    InstallsCarried p node payload := by
  rw [InstallsCarried, h]
  exact ⟨fun hne => absurd rfl hne, fun hne => absurd rfl hne, fun _ => ⟨rfl, rfl, rfl⟩⟩

theorem parseChannelUpdate_carried (node : ZigbeeNetworkManager) (payload : List UInt8) :
    InstallsCarried .channelUpdate node payload := by
  have hparse : UpdateParser.channelUpdate.parse payload = _ := parseChannelUpdate_eq payload
  by_cases hlen : payload.length < 11
  · rw [if_pos hlen] at hparse
    exact carried_of_unchanged (applied_eq_of_refused node hparse)
  rw [if_neg hlen] at hparse
  by_cases htype : typeOf payload = nwkUpdateChannel
  swap
  · rw [if_pos htype] at hparse
    exact carried_of_unchanged (applied_eq_of_refused node hparse)
  rw [if_neg (not_not_intro htype)] at hparse
  have happlied := (applied_eq_of_some node hparse).trans (applyUpdate_eq node _)
  dsimp only at happlied
  by_cases hdue : extendedPanIdOf payload = node.extPanId ∧
    updateIdIsNewer (payload.getD 9 0) node.updateId = true
  swap
  · rw [if_neg hdue] at happlied
    exact carried_of_unchanged happlied
  have hpan : typeOf payload ≠ nwkUpdatePanId := by
    rw [htype]
    decide
  rw [if_pos hdue, if_neg hpan, if_pos htype] at happlied
  rw [InstallsCarried, happlied]
  exact ⟨fun hne => absurd rfl hne, fun _ => ⟨htype, Nat.not_lt.mp hlen, rfl⟩,
    fun hother => absurd htype hother.2⟩

/-- The PAN id parser takes a channel update as well, without its channel. -/
theorem parseUpdate_carried_iff (node : ZigbeeNetworkManager) (payload : List UInt8) :
    InstallsCarried .update node payload ↔ ¬ Misread node payload := by
  have hparse : UpdateParser.update.parse payload = _ := parseUpdate_eq payload
  by_cases hlen : payload.length < 12
  · rw [if_pos hlen] at hparse
    exact iff_of_true (carried_of_unchanged (applied_eq_of_refused node hparse))
      fun h => absurd h.2.1 (Nat.not_le.mpr hlen)
  rw [if_neg hlen] at hparse
  have happlied := (applied_eq_of_some node hparse).trans (applyUpdate_eq node _)
  dsimp only at happlied
  by_cases hdue : extendedPanIdOf payload = node.extPanId ∧
    updateIdIsNewer (payload.getD 9 0) node.updateId = true
  swap
  · rw [if_neg hdue] at happlied
    exact iff_of_true (carried_of_unchanged happlied) fun h => hdue ⟨h.2.2.1, h.2.2.2.1⟩
  rw [if_pos hdue] at happlied
  by_cases hpan : typeOf payload = nwkUpdatePanId
  · rw [if_pos hpan] at happlied
    refine iff_of_true ?_ fun h => absurd (hpan.symm.trans h.1) (by decide)
    rw [InstallsCarried, happlied]
    exact ⟨fun _ => ⟨hpan, Nat.not_lt.mp hlen, rfl⟩, fun hne => absurd rfl hne,
      fun hother => absurd hpan hother.1⟩
  rw [if_neg hpan] at happlied
  by_cases hchannel : typeOf payload = nwkUpdateChannel
  swap
  · rw [if_neg hchannel] at happlied
    exact iff_of_true (carried_of_unchanged happlied) fun h => hchannel h.1
  rw [if_pos hchannel] at happlied
  rw [InstallsCarried, happlied]
  dsimp only
  constructor
  · rintro ⟨-, hcarried, -⟩ ⟨-, -, -, -, hbyte, hset⟩
    exact hbyte (hcarried hset.symm).2.2.symm
  · intro hmisread
    refine ⟨fun hne => absurd rfl hne, fun hset => ⟨hchannel, by omega, ?_⟩,
      fun hother => absurd hchannel hother.2⟩
    by_contra hbyte
    exact hmisread ⟨hchannel, Nat.not_lt.mp hlen, hdue.1, hdue.2, fun h => hbyte h.symm,
      hset.symm⟩

/-- An update installs nothing that it does not carry, but for a channel update that is taken for a
PAN id update. -/
theorem installs_carried_iff (p : UpdateParser) (node : ZigbeeNetworkManager)
    (payload : List UInt8) :
    InstallsCarried p node payload ↔ (p = .update → ¬ Misread node payload) := by
  cases p with
  | update => exact (parseUpdate_carried_iff node payload).trans ⟨fun h _ => h, fun h => h rfl⟩
  | channelUpdate =>
    exact iff_of_true (parseChannelUpdate_carried node payload) fun h => by cases h

/-- A channel update to channel 20 with one byte behind it. -/
def longChannelUpdate : List UInt8 := [0x21] ++ le64 0xAB ++ [1] ++ [20, 0]

/-- Read as a PAN id update it takes the node to channel 0. -/
theorem channel_lost :
    ¬ ∀ (p : UpdateParser) (node : ZigbeeNetworkManager) (payload : List UInt8),
      payload.length < 256 → InstallsCarried p node payload := by
  intro h
  have hcarried := (parseUpdate_carried_iff { extPanId := 0xAB } longChannelUpdate).mp
    (h .update _ _ (by decide))
  revert hcarried
  decide

end NiusZigbee.ZigbeePanIdConflict
