import NiusZigbee.Library.OutBuffer
import NiusZigbee.Library.SlotTable

/-!
# The clusters of a light

What a received cluster-specific command does to the state of its cluster: On/Off, Level Control,
Color Control, Identify, Groups and Scenes. `none` is a read outside the payload.
-/

namespace NiusZigbee

open ByteCodec OutBuffer

namespace ZigbeeZcl

def kClusterIdentify : UInt16 := 0x0003
def kClusterGroups : UInt16 := 0x0004
def kClusterScenes : UInt16 := 0x0005
def kClusterOnOff : UInt16 := 0x0006
def kClusterLevelControl : UInt16 := 0x0008
def kClusterColorControl : UInt16 := 0x0300

def zclOnOffCmdOff : UInt8 := 0x00
def zclOnOffCmdOn : UInt8 := 0x01
def zclOnOffCmdToggle : UInt8 := 0x02

/-- The new state, and whether the command was one of the cluster's. -/
def applyOnOffCommand (commandId : UInt8) (on : Bool) : Bool × Bool :=
  if commandId = zclOnOffCmdOff then (false, true)
  else if commandId = zclOnOffCmdOn then (true, true)
  else if commandId = zclOnOffCmdToggle then (!on, true)
  else (on, false)

end ZigbeeZcl

/-! ## Level Control -/

namespace ZigbeeLevelControlCluster

def levelCmdMoveToLevel : UInt8 := 0x00
def levelCmdStep : UInt8 := 0x02
def levelCmdMoveToLevelWithOnOff : UInt8 := 0x04
def levelCmdStepWithOnOff : UInt8 := 0x06

def levelDirUp : UInt8 := 0x00

def kMaxLevel : UInt8 := 254

/-- The level a step leads to, clamped at both ends. -/
def stepLevel (mode size currentLevel : UInt8) : UInt8 :=
  if mode = levelDirUp then
    if currentLevel.toNat + size.toNat > kMaxLevel.toNat then kMaxLevel else currentLevel + size
  else if size ≥ currentLevel then 0
  else currentLevel - size

/-- The new level, and whether it changed. -/
def applyCommand (commandId : UInt8) (payload : List UInt8) (currentLevel : UInt8) :
    Option (UInt8 × Bool) :=
  if commandId = levelCmdMoveToLevel ∨ commandId = levelCmdMoveToLevelWithOnOff then
    if payload.length < 1 then some (currentLevel, false)
    else do
      let level ← read8 payload 0
      let target := if level > kMaxLevel then kMaxLevel else level
      if target = currentLevel then return (currentLevel, false) else return (target, true)
  else if commandId = levelCmdStep ∨ commandId = levelCmdStepWithOnOff then
    if payload.length < 2 then some (currentLevel, false)
    else do
      let level := stepLevel (← read8 payload 0) (← read8 payload 1) currentLevel
      if level = currentLevel then return (currentLevel, false) else return (level, true)
  else some (currentLevel, false)

end ZigbeeLevelControlCluster

/-! ## Color Control -/

structure ColorState where
  hue : UInt8 := 0
  saturation : UInt8 := 0
  x : UInt16 := 0
  y : UInt16 := 0
  temperatureMireds : UInt16 := 0
  mode : UInt8 := 0x00
deriving DecidableEq, Repr

namespace ZigbeeColorControlCluster

def colorCmdMoveToHue : UInt8 := 0x00
def colorCmdMoveToSaturation : UInt8 := 0x03
def colorCmdMoveToHueAndSaturation : UInt8 := 0x06
def colorCmdMoveToColor : UInt8 := 0x07
def colorCmdMoveToColorTemperature : UInt8 := 0x0A

def colorModeHueSat : UInt8 := 0x00
def colorModeXy : UInt8 := 0x01
def colorModeTemperature : UInt8 := 0x02

def applyCommand (commandId : UInt8) (payload : List UInt8) (state : ColorState) :
    Option (ColorState × Bool) :=
  if commandId = colorCmdMoveToHue then
    if payload.length < 1 then some (state, false)
    else do return ({ state with hue := ← read8 payload 0, mode := colorModeHueSat }, true)
  else if commandId = colorCmdMoveToSaturation then
    if payload.length < 1 then some (state, false)
    else do return ({ state with saturation := ← read8 payload 0, mode := colorModeHueSat }, true)
  else if commandId = colorCmdMoveToHueAndSaturation then
    if payload.length < 2 then some (state, false)
    else do
      return ({ state with
        hue := ← read8 payload 0
        saturation := ← read8 payload 1
        mode := colorModeHueSat }, true)
  else if commandId = colorCmdMoveToColor then
    if payload.length < 4 then some (state, false)
    else do
      return ({ state with
        x := ← read16 payload 0
        y := ← read16 payload 2
        mode := colorModeXy }, true)
  else if commandId = colorCmdMoveToColorTemperature then
    if payload.length < 2 then some (state, false)
    else do
      return ({ state with
        temperatureMireds := ← read16 payload 0, mode := colorModeTemperature }, true)
  else some (state, false)

end ZigbeeColorControlCluster

/-! ## Identify -/

namespace ZigbeeIdentifyCluster

def identifyCmdIdentify : UInt8 := 0x00

/-- The seconds of an Identify payload; the inner `none` is the parser's `return false`. -/
def parseIdentify (payload : List UInt8) : Option (Option UInt16) :=
  if payload.length < 2 then some none else (read16 payload 0).map some

/-- The new countdown, and whether it runs. -/
def applyIdentify (payload : List UInt8) (identifyTime : UInt16) : Option (UInt16 × Bool) := do
  let identifyTime := (← parseIdentify payload).getD identifyTime
  return (identifyTime, identifyTime > 0)

end ZigbeeIdentifyCluster

/-! ## Groups -/

/-- Membership of groups: the part of the storage in use. -/
structure ZigbeeGroupTable where
  capacity : Nat
  groups : List UInt16 := []
deriving DecidableEq, Repr

namespace ZigbeeGroupTable

def isMember (table : ZigbeeGroupTable) (groupId : UInt16) : Bool :=
  table.groups.any (· == groupId)

def add (table : ZigbeeGroupTable) (groupId : UInt16) : ZigbeeGroupTable × Bool :=
  if table.isMember groupId then (table, true)
  else if table.groups.length ≥ table.capacity then (table, false)
  else ({ table with groups := table.groups ++ [groupId] }, true)

/-- The last group takes the place of the one removed. -/
def remove (table : ZigbeeGroupTable) (groupId : UInt16) : ZigbeeGroupTable × Bool :=
  match table.groups.findIdx? (· == groupId) with
  | none => (table, false)
  | some i =>
    ({ table with
      groups := (table.groups.set i (table.groups.getLastD 0)).dropLast }, true)

def clear (table : ZigbeeGroupTable) : ZigbeeGroupTable := { table with groups := [] }

end ZigbeeGroupTable

namespace ZigbeeGroupsCluster

def groupsCmdAdd : UInt8 := 0x00
def groupsCmdGetMembership : UInt8 := 0x02
def groupsCmdRemove : UInt8 := 0x03
def groupsCmdRemoveAll : UInt8 := 0x04
def groupsCmdAddIfIdentifying : UInt8 := 0x05

def groupsStatusSuccess : UInt8 := 0x00
def groupsStatusInsufficientSpace : UInt8 := 0x89
def groupsStatusDuplicateExists : UInt8 := 0x8A
def groupsStatusNotFound : UInt8 := 0x8B

def buildStatusResponse (outMax status : UInt8) (groupId : UInt16) : Built :=
  if outMax.toNat < 3 then .fail
  else { len := 3, writes := emit 0 [status] ++ emit 1 (le16 groupId) }

def buildMembershipResponse (outMax : UInt8) (capacity : Nat) (groups : List UInt16) : Built :=
  let need := (2 + groups.length * 2) % 256
  if outMax.toNat < need then .fail
  else
    { len := need
      writes := emit 0 [capacity.toUInt8] ++ emit 1 [groups.length.toUInt8] ++
        groups.zipIdx.flatMap fun p => emit (2 + p.2 * 2) (le16 p.1) }

/-- The members among `n` requested groups from the `i`th on, behind the `mine` found so far. The
offsets run over a `uint8_t`. -/
def requestedGroups (table : ZigbeeGroupTable) (payload : List UInt8) :
    Nat → Nat → List UInt16 → Option (List UInt16)
  | 0, _, mine => some mine
  | n + 1, i, mine =>
    let off := (1 + i * 2) % 256
    if (off + 2) % 256 > payload.length then some mine
    else do
      let g ← read16 payload off
      requestedGroups table payload n (i + 1)
        (if table.isMember g && decide (mine.length < 16) then mine ++ [g] else mine)

/-- The table afterwards, the response command if there is one, and the response. -/
def handle (table : ZigbeeGroupTable) (commandId : UInt8) (payload : List UInt8)
    (respMax : UInt8) : Option (ZigbeeGroupTable × Option UInt8 × Built) :=
  if commandId = groupsCmdAdd ∨ commandId = groupsCmdAddIfIdentifying then
    if payload.length < 2 then some (table, none, .fail)
    else do
      let g ← read16 payload 0
      if table.isMember g then
        return (table, some groupsCmdAdd,
          buildStatusResponse respMax groupsStatusDuplicateExists g)
      else
        let (table, added) := table.add g
        let status := if added then groupsStatusSuccess else groupsStatusInsufficientSpace
        return (table, some groupsCmdAdd, buildStatusResponse respMax status g)
  else if commandId = groupsCmdRemove then
    if payload.length < 2 then some (table, none, .fail)
    else do
      let g ← read16 payload 0
      let (table, removed) := table.remove g
      let status := if removed then groupsStatusSuccess else groupsStatusNotFound
      return (table, some groupsCmdRemove, buildStatusResponse respMax status g)
  else if commandId = groupsCmdRemoveAll then some (table.clear, none, .fail)
  else if commandId = groupsCmdGetMembership then
    if payload.length < 1 then some (table, none, .fail)
    else do
      let reqCount ← read8 payload 0
      let mine ←
        if reqCount = 0 then some (table.groups.take 16)
        else requestedGroups table payload reqCount.toNat 0 []
      let capacity := (table.capacity + 256 - table.groups.length) % 256
      return (table, some groupsCmdGetMembership,
        buildMembershipResponse respMax capacity mine)
  else some (table, none, .fail)

end ZigbeeGroupsCluster

/-! ## Scenes -/

structure SceneEntry where
  used : Bool := false
  groupId : UInt16 := 0
  sceneId : UInt8 := 0
  onOff : Bool := false
  level : UInt8 := 0
deriving DecidableEq, Repr

namespace SceneEntry

/-- Group and scene of a used entry. -/
def key (e : SceneEntry) : Option (UInt16 × UInt8) :=
  if e.used then some (e.groupId, e.sceneId) else none

end SceneEntry

/-- The entries of a scene store, used or not. -/
abbrev ZigbeeSceneTable := List SceneEntry

namespace ZigbeeSceneTable

/-- To the entry with these ids, else to the first free one. -/
def store (table : ZigbeeSceneTable) (group : UInt16) (scene : UInt8) (onOff : Bool)
    (level : UInt8) : ZigbeeSceneTable × Bool :=
  match SlotTable.slotFor SceneEntry.key (fun _ => none) table (group, scene) with
  | none => (table, false)
  | some i =>
    (table.set i
      { used := true, groupId := group, sceneId := scene, onOff := onOff, level := level }, true)

/-- `recall` of the source. -/
def recallScene (table : ZigbeeSceneTable) (group : UInt16) (scene : UInt8) :
    Option (Bool × UInt8) :=
  (SlotTable.lookup SceneEntry.key table (group, scene)).map fun e => (e.onOff, e.level)

def remove (table : ZigbeeSceneTable) (group : UInt16) (scene : UInt8) : ZigbeeSceneTable × Bool :=
  match SlotTable.find SceneEntry.key table (group, scene) with
  | none => (table, false)
  | some i => (table.set i {}, true)

def removeAllForGroup (table : ZigbeeSceneTable) (group : UInt16) : ZigbeeSceneTable :=
  table.map fun e => if e.used ∧ e.groupId = group then {} else e

def count (table : ZigbeeSceneTable) : Nat := table.countP (·.used)

end ZigbeeSceneTable

namespace ZigbeeScenesCluster

def scenesCmdRemove : UInt8 := 0x02
def scenesCmdRemoveAll : UInt8 := 0x03
def scenesCmdStore : UInt8 := 0x04
def scenesCmdRecall : UInt8 := 0x05

def scenesStatusSuccess : UInt8 := 0x00
def scenesStatusInsufficientSpace : UInt8 := 0x89
def scenesStatusNotFound : UInt8 := 0x8B

/-- What a Scenes command leaves. -/
structure Outcome where
  table : ZigbeeSceneTable
  onOff : Bool
  level : UInt8
  status : UInt8 := scenesStatusSuccess
  understood : Bool
deriving DecidableEq, Repr

def handle (table : ZigbeeSceneTable) (commandId : UInt8) (payload : List UInt8) (onOff : Bool)
    (level : UInt8) : Option Outcome :=
  let malformed : Outcome := { table := table, onOff := onOff, level := level, understood := false }
  let done : Outcome := { malformed with understood := true }
  if commandId = scenesCmdStore then
    if payload.length < 3 then some malformed
    else do
      let (table, stored) := table.store (← read16 payload 0) (← read8 payload 2) onOff level
      return { done with
        table := table
        status := if stored then scenesStatusSuccess else scenesStatusInsufficientSpace }
  else if commandId = scenesCmdRecall then
    if payload.length < 3 then some malformed
    else do
      match table.recallScene (← read16 payload 0) (← read8 payload 2) with
      | none => return { done with status := scenesStatusNotFound }
      | some (onOff, level) => return { done with onOff := onOff, level := level }
  else if commandId = scenesCmdRemove then
    if payload.length < 3 then some malformed
    else do
      let (table, removed) := table.remove (← read16 payload 0) (← read8 payload 2)
      return { done with
        table := table
        status := if removed then scenesStatusSuccess else scenesStatusNotFound }
  else if commandId = scenesCmdRemoveAll then
    if payload.length < 2 then some malformed
    else do return { done with table := table.removeAllForGroup (← read16 payload 0) }
  else some malformed

end ZigbeeScenesCluster

end NiusZigbee
