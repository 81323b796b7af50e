import NiusZigbee.Library.Latest
import NiusZigbee.Zcl.GroupSet

/-!
# A light over a run of commands

`ZigbeeLight` hands each command to its cluster. Over any run of commands its level stays in range,
its tables hold no group and no scene twice, and a Recall restores what was current at the latest
Store of that scene.
-/

namespace NiusZigbee

open ByteCodec ZigbeeZcl

structure ZigbeeLight where
  on : Bool := false
  level : UInt8 := 254
  color : ColorState := {}
  identifyTime : UInt16 := 0
  groups : ZigbeeGroupTable := { capacity := 4 }
  scenes : ZigbeeSceneTable := List.replicate 4 {}
deriving DecidableEq, Repr

/-- A command of at most 125 payload bytes. -/
structure LightCommand where
  clusterId : UInt16
  commandId : UInt8
  payload : List UInt8
  short : payload.length ≤ 125

namespace ZigbeeLight

/-- The light afterwards, and whether the command was handled. -/
def handleCommand (light : ZigbeeLight) (clusterId : UInt16) (commandId : UInt8)
    (payload : List UInt8) : Option (ZigbeeLight × Bool) :=
  if clusterId = kClusterOnOff then
    let (on, handled) := applyOnOffCommand commandId light.on
    some ({ light with on := on }, handled)
  else if clusterId = kClusterLevelControl then do
    let (level, handled) ← ZigbeeLevelControlCluster.applyCommand commandId payload light.level
    return ({ light with level := level }, handled)
  else if clusterId = kClusterColorControl then do
    let (color, handled) ← ZigbeeColorControlCluster.applyCommand commandId payload light.color
    return ({ light with color := color }, handled)
  else if clusterId = kClusterIdentify then
    if commandId = ZigbeeIdentifyCluster.identifyCmdIdentify then do
      let (identifyTime, _) ← ZigbeeIdentifyCluster.applyIdentify payload light.identifyTime
      return ({ light with identifyTime := identifyTime }, true)
    else some (light, false)
  else if clusterId = kClusterGroups then do
    let (groups, _) ← ZigbeeGroupsCluster.handle light.groups commandId payload 24
    return ({ light with groups := groups }, true)
  else if clusterId = kClusterScenes then do
    let o ← ZigbeeScenesCluster.handle light.scenes commandId payload light.on light.level
    return ({ light with scenes := o.table, on := o.onOff, level := o.level }, o.understood)
  else some (light, false)

def step (light : ZigbeeLight) (c : LightCommand) : Option ZigbeeLight :=
  (light.handleCommand c.clusterId c.commandId c.payload).map Prod.fst

/-- The light after a run of commands from its initial state. -/
def after (commands : List LightCommand) : Option ZigbeeLight := commands.foldlM step {}

/-- No level above 254, and tables within their size that hold nothing twice. -/
structure Consistent (light : ZigbeeLight) : Prop where
  level_le : light.level ≤ 254
  groups_nodup : light.groups.groups.Nodup
  groups_length : light.groups.groups.length ≤ 4
  scenes_distinct : SlotTable.Distinct SceneEntry.key light.scenes
  scenes_count : light.scenes.count ≤ 4

end ZigbeeLight

namespace LightCommand

/-- A Scenes command for one group and scene. -/
def IsScene (c : LightCommand) (commandId : UInt8) (k : UInt16 × UInt8) : Prop :=
  c.clusterId = kClusterScenes ∧ c.commandId = commandId ∧ read16 c.payload 0 = some k.1 ∧
    read8 c.payload 2 = some k.2

/-- A Remove of the scene, or a Remove All of its group. -/
def Removes (c : LightCommand) (k : UInt16 × UInt8) : Prop :=
  c.IsScene ZigbeeScenesCluster.scenesCmdRemove k ∨
    c.clusterId = kClusterScenes ∧ c.commandId = ZigbeeScenesCluster.scenesCmdRemoveAll ∧
      read16 c.payload 0 = some k.1

/-- A Store of the scene that succeeds after `past`, with what is current then. -/
def StoresAfter (k : UInt16 × UInt8) (past : List LightCommand) (c : LightCommand)
    (snapshot : Bool × UInt8) : Prop :=
  ∃ light, ZigbeeLight.after past = some light ∧
    c.IsScene ZigbeeScenesCluster.scenesCmdStore k ∧
    (light.scenes.store k.1 k.2 light.on light.level).2 = true ∧
    snapshot = (light.on, light.level)

/-- What was current at the latest successful Store of the scene, if it was not removed since. -/
def Stored (k : UInt16 × UInt8) (commands : List LightCommand) (snapshot : Bool × UInt8) : Prop :=
  Latest.LatestValue (StoresAfter k) (fun _ c => c.Removes k) commands snapshot

end LightCommand

/-! ## Groups -/

namespace ZigbeeGroupTable

variable {table : ZigbeeGroupTable}

/-- No group twice, and no more than the storage takes. -/
def Sound (table : ZigbeeGroupTable) : Prop :=
  table.groups.Nodup ∧ table.groups.length ≤ table.capacity

theorem sound_iff : table.Sound ↔ ∃ s : BoundedSet UInt16 table.capacity, table.Refines s := by
  constructor
  · rintro ⟨hnodup, hlen⟩
    have hcard := List.toFinset_card_of_nodup hnodup
    exact ⟨⟨table.groups.toFinset, hcard ▸ hlen⟩, rfl, hnodup, rfl⟩
  · rintro ⟨s, -, hs⟩
    exact ⟨hs.1, hs.length_le⟩

end ZigbeeGroupTable

namespace ZigbeeGroupsCluster

theorem handle_sound {table : ZigbeeGroupTable} (h : table.Sound) (commandId : UInt8)
    {payload : List UInt8} (hshort : payload.length ≤ 125) (respMax : UInt8) :
    ∃ table' response, handle table commandId payload respMax = some (table', response) ∧
      table'.Sound ∧ table'.capacity = table.capacity := by
  obtain ⟨s, hs⟩ := ZigbeeGroupTable.sound_iff.mp h
  obtain ⟨table', response, hcall, ⟨hcapacity, hrepresents⟩, -⟩ :=
    handle_serves hs commandId hshort respMax
  refine ⟨table', response, hcall, ⟨hrepresents.1, ?_⟩, hcapacity⟩
  rw [hcapacity]
  exact hrepresents.length_le

end ZigbeeGroupsCluster

/-! ## Level, color, identify -/

namespace ZigbeeLevelControlCluster

theorem stepLevel_le {mode size level : UInt8} (h : level ≤ 254) :
    stepLevel mode size level ≤ 254 := by
  rw [UInt8.le_iff_toNat_le] at h ⊢
  simp only [stepLevel]
  by_cases hup : mode = levelDirUp
  · rw [if_pos hup]
    by_cases hmax : level.toNat + size.toNat > kMaxLevel.toNat
    · rw [if_pos hmax]
      exact Nat.le_refl _
    · rw [if_neg hmax, UInt8.toNat_add]
      exact Nat.le_trans (Nat.mod_le _ _) (Nat.not_lt.mp hmax)
  · rw [if_neg hup]
    by_cases hzero : size ≥ level
    · rw [if_pos hzero]
      exact Nat.zero_le _
    · have hle : size ≤ level := UInt8.le_of_lt (UInt8.not_le.mp hzero)
      rw [if_neg hzero, UInt8.toNat_sub_of_le _ _ hle]
      omega

theorem applyCommand_le (commandId : UInt8) (payload : List UInt8) {level : UInt8}
    (h : level ≤ 254) :
    ∃ level' changed, applyCommand commandId payload level = some (level', changed) ∧
      level' ≤ 254 := by
  rw [applyCommand]
  split
  · by_cases hlen : payload.length < 1
    · exact ⟨level, false, if_pos hlen, h⟩
    obtain ⟨target, htarget⟩ := @getElem?_isSome payload 0 (by omega)
    simp only [if_neg hlen, read8_eq, htarget, Option.bind_eq_bind, Option.bind_some]
    have hle : (if target > kMaxLevel then kMaxLevel else target) ≤ 254 := by
      split
      · exact UInt8.le_refl _
      · next hmax => exact UInt8.not_lt.mp hmax
    generalize (if target > kMaxLevel then kMaxLevel else target) = target' at hle ⊢
    split
    · exact ⟨level, false, rfl, h⟩
    · exact ⟨_, true, rfl, hle⟩
  · split
    · by_cases hlen : payload.length < 2
      · exact ⟨level, false, if_pos hlen, h⟩
      obtain ⟨mode, hmode⟩ := @getElem?_isSome payload 0 (by omega)
      obtain ⟨size, hsize⟩ := @getElem?_isSome payload 1 (by omega)
      simp only [if_neg hlen, read8_eq, hmode, hsize, Option.bind_eq_bind, Option.bind_some]
      split
      · exact ⟨level, false, rfl, h⟩
      · exact ⟨_, true, rfl, stepLevel_le h⟩
    · exact ⟨level, false, rfl, h⟩

end ZigbeeLevelControlCluster

theorem ZigbeeColorControlCluster.applyCommand_isSome (commandId : UInt8) (payload : List UInt8)
    (state : ColorState) : ∃ r, applyCommand commandId payload state = some r := by
  have hread8 {n : Nat} (i : Nat) (hi : i < n) (hlen : ¬ payload.length < n) :
      ∃ b, payload[i]? = some b := getElem?_isSome (by omega)
  have hread16 {n : Nat} (i : Nat) (hi : i + 1 < n) (hlen : ¬ payload.length < n) :
      ∃ v, read16 payload i = some v := read16_isSome (by omega)
  rw [applyCommand]
  split
  · split
    · exact ⟨_, rfl⟩
    · next hlen =>
      obtain ⟨hue, hhue⟩ := hread8 0 (by omega) hlen
      simp [hhue]
  split
  · split
    · exact ⟨_, rfl⟩
    · next hlen =>
      obtain ⟨saturation, hsaturation⟩ := hread8 0 (by omega) hlen
      simp [hsaturation]
  split
  · split
    · exact ⟨_, rfl⟩
    · next hlen =>
      obtain ⟨hue, hhue⟩ := hread8 0 (by omega) hlen
      obtain ⟨saturation, hsaturation⟩ := hread8 1 (by omega) hlen
      simp [hhue, hsaturation]
  split
  · split
    · exact ⟨_, rfl⟩
    · next hlen =>
      obtain ⟨x, hx⟩ := hread16 0 (by omega) hlen
      obtain ⟨y, hy⟩ := hread16 2 (by omega) hlen
      simp [hx, hy]
  split
  · split
    · exact ⟨_, rfl⟩
    · next hlen =>
      obtain ⟨mireds, hmireds⟩ := hread16 0 (by omega) hlen
      simp [hmireds]
  · exact ⟨_, rfl⟩

theorem ZigbeeIdentifyCluster.applyIdentify_isSome (payload : List UInt8) (identifyTime : UInt16) :
    ∃ r, applyIdentify payload identifyTime = some r := by
  by_cases hlen : payload.length < 2
  · simp [applyIdentify, parseIdentify, hlen]
  · obtain ⟨seconds, hseconds⟩ := @read16_isSome payload 0 (by omega)
    simp [applyIdentify, parseIdentify, hlen, hseconds]

/-! ## Scenes -/

theorem SceneEntry.key_eq_some {e : SceneEntry} {k : UInt16 × UInt8} :
    e.key = some k ↔ e.used = true ∧ e.groupId = k.1 ∧ e.sceneId = k.2 := by
  rw [key]
  by_cases hused : e.used = true
  · rw [if_pos hused, Option.some.injEq, Prod.ext_iff]
    exact (and_iff_right hused).symm
  · rw [if_neg hused]
    exact iff_of_false (by simp) fun h => hused h.1

namespace ZigbeeSceneTable

variable {table : ZigbeeSceneTable} {group : UInt16} {scene : UInt8} {k : UInt16 × UInt8}

/-- No scene twice, in a storage of `n` entries, with every level in range. -/
structure Sound (n : Nat) (table : ZigbeeSceneTable) : Prop where
  distinct : SlotTable.Distinct SceneEntry.key table
  length_eq : table.length = n
  level_le : ∀ e ∈ table, e.level ≤ 254

theorem recall_eq_none (h : SlotTable.lookup SceneEntry.key table k = none) :
    table.recallScene k.1 k.2 = none := by
  rw [recallScene, h]
  rfl

theorem store_full {onOff : Bool} {level : UInt8}
    (h : ¬ (table.store group scene onOff level).2 = true) :
    (table.store group scene onOff level).1 = table := by
  unfold store at h ⊢
  split
  · rfl
  · next hslot => simp [hslot] at h

theorem store_stored {onOff : Bool} {level : UInt8}
    (h : (table.store group scene onOff level).2 = true) :
    (table.store group scene onOff level).1.recallScene group scene = some (onOff, level) := by
  unfold store at h ⊢
  cases hslot : SlotTable.slotFor SceneEntry.key (fun _ => none) table (group, scene) with
  | none => simp [hslot] at h
  | some i =>
    obtain ⟨hi, -⟩ := SlotTable.slotFor_of_room (SlotTable.hasRoom_of_slotFor hslot) hslot
    rw [recallScene, SlotTable.lookup_store_self hslot hi rfl]
    rfl

theorem store_other {onOff : Bool} {level : UInt8} (hne : k ≠ (group, scene)) :
    (table.store group scene onOff level).1.recallScene k.1 k.2 = table.recallScene k.1 k.2 := by
  unfold store
  cases hslot : SlotTable.slotFor SceneEntry.key (fun _ => none) table (group, scene) with
  | none => rfl
  | some i =>
    have hroom := SlotTable.hasRoom_of_slotFor hslot
    dsimp only
    rw [recallScene, recallScene, SlotTable.lookup_store_other hroom hslot rfl hne]

theorem store_sound {n : Nat} {onOff : Bool} {level : UInt8} (h : Sound n table)
    (hlevel : level ≤ 254) : Sound n (table.store group scene onOff level).1 := by
  unfold store
  cases hslot : SlotTable.slotFor SceneEntry.key (fun _ => none) table (group, scene) with
  | none => exact h
  | some i =>
    refine ⟨h.distinct.store hslot rfl, (List.length_set ..).trans h.length_eq, ?_⟩
    intro e he
    rcases List.mem_or_eq_of_mem_set he with he | rfl
    · exact h.level_le e he
    · exact hlevel

theorem remove_self (h : SlotTable.Distinct SceneEntry.key table) :
    (table.remove k.1 k.2).1.recallScene k.1 k.2 = none := by
  unfold remove
  cases hfind : SlotTable.find SceneEntry.key table (k.1, k.2) with
  | none => exact recall_eq_none (SlotTable.lookup_of_find_none hfind)
  | some i => exact recall_eq_none (h.lookup_clear hfind rfl)

theorem remove_other (hne : k ≠ (group, scene)) :
    (table.remove group scene).1.recallScene k.1 k.2 = table.recallScene k.1 k.2 := by
  unfold remove
  cases hfind : SlotTable.find SceneEntry.key table (group, scene) with
  | none => rfl
  | some i =>
    obtain ⟨hi, hkey, -⟩ := SlotTable.find_eq_some hfind
    have hold : ∀ _ : i < table.length, SceneEntry.key table[i] ≠ some k := by
      intro _ hk
      exact hne (Option.some.inj (hk.symm.trans hkey))
    dsimp only
    rw [recallScene, recallScene, SlotTable.lookup_set_other hold (by simp [SceneEntry.key])]

theorem remove_sound {n : Nat} (h : Sound n table) : Sound n (table.remove group scene).1 := by
  unfold remove
  cases hfind : SlotTable.find SceneEntry.key table (group, scene) with
  | none => exact h
  | some i =>
    refine ⟨h.distinct.set ?_, (List.length_set ..).trans h.length_eq, ?_⟩
    · intro j b k' _ _ hk'
      cases hk'
    · intro e he
      rcases List.mem_or_eq_of_mem_set he with he | rfl
      · exact h.level_le e he
      · exact UInt8.zero_le

theorem removeAllForGroup_self : (table.removeAllForGroup k.1).recallScene k.1 k.2 = none := by
  apply recall_eq_none
  rw [SlotTable.lookup_eq_none]
  intro e he hk
  obtain ⟨e', -, rfl⟩ := List.mem_map.mp he
  obtain ⟨hused, hgroup, -⟩ := SceneEntry.key_eq_some.mp hk
  by_cases h : e'.used = true ∧ e'.groupId = k.1
  · rw [if_pos h] at hused
    cases hused
  · rw [if_neg h] at hused hgroup
    exact h ⟨hused, hgroup⟩

theorem removeAllForGroup_other (hne : k.1 ≠ group) :
    (table.removeAllForGroup group).recallScene k.1 k.2 = table.recallScene k.1 k.2 := by
  rw [recallScene, recallScene, removeAllForGroup, SlotTable.lookup_map]
  · intro e hk
    obtain ⟨-, hgroup, -⟩ := SceneEntry.key_eq_some.mp hk
    exact if_neg fun h => hne (hgroup.symm.trans h.2)
  · intro e hk
    by_cases h : e.used = true ∧ e.groupId = group
    · rw [if_pos h] at hk
      cases hk
    · rwa [if_neg h] at hk

theorem removeAllForGroup_sound {n : Nat} (h : Sound n table) :
    Sound n (table.removeAllForGroup group) := by
  refine ⟨h.distinct.map ?_, (List.length_map ..).trans h.length_eq, ?_⟩
  · intro e
    split
    · exact Or.inl rfl
    · exact Or.inr rfl
  · intro e he
    obtain ⟨e', he', rfl⟩ := List.mem_map.mp he
    split
    · exact UInt8.zero_le
    · exact h.level_le e' he'

theorem recall_le {n : Nat} (h : Sound n table) {snapshot : Bool × UInt8}
    (hrecall : table.recallScene group scene = some snapshot) : snapshot.2 ≤ 254 := by
  obtain ⟨e, he, rfl⟩ := Option.map_eq_some_iff.mp hrecall
  exact h.level_le e (SlotTable.lookup_mem he)

end ZigbeeSceneTable

namespace ZigbeeScenesCluster

/-- What a Scenes command does, well-formed or not. -/
inductive Does (table : ZigbeeSceneTable) (commandId : UInt8) (payload : List UInt8) (onOff : Bool)
    (level : UInt8) : Outcome → Prop where
  | stored (g : UInt16) (s status : UInt8) (hcommand : commandId = scenesCmdStore)
      (hgroup : read16 payload 0 = some g) (hscene : read8 payload 2 = some s) :
      Does table commandId payload onOff level
        ⟨(table.store g s onOff level).1, onOff, level, status, true⟩
  | recalled (g : UInt16) (s status : UInt8) (hcommand : commandId = scenesCmdRecall)
      (hgroup : read16 payload 0 = some g) (hscene : read8 payload 2 = some s) :
      Does table commandId payload onOff level
        ⟨table, ((table.recallScene g s).getD (onOff, level)).1,
          ((table.recallScene g s).getD (onOff, level)).2, status, true⟩
  | removed (g : UInt16) (s status : UInt8) (hcommand : commandId = scenesCmdRemove)
      (hgroup : read16 payload 0 = some g) (hscene : read8 payload 2 = some s) :
      Does table commandId payload onOff level
        ⟨(table.remove g s).1, onOff, level, status, true⟩
  | removedAll (g : UInt16) (hcommand : commandId = scenesCmdRemoveAll)
      (hgroup : read16 payload 0 = some g) :
      Does table commandId payload onOff level
        ⟨table.removeAllForGroup g, onOff, level, scenesStatusSuccess, true⟩
  | ignored (hscene : commandId = scenesCmdStore ∨ commandId = scenesCmdRecall ∨
        commandId = scenesCmdRemove → read8 payload 2 = none)
      (hgroup : commandId = scenesCmdRemoveAll → read16 payload 0 = none) :
      Does table commandId payload onOff level
        ⟨table, onOff, level, scenesStatusSuccess, false⟩

theorem handle_does (table : ZigbeeSceneTable) (commandId : UInt8) (payload : List UInt8)
    (onOff : Bool) (level : UInt8) :
    ∃ o, handle table commandId payload onOff level = some o ∧
      Does table commandId payload onOff level o := by
  have hreads (hlen : ¬ payload.length < 3) :
      ∃ g s, read16 payload 0 = some g ∧ payload[2]? = some s := by
    obtain ⟨g, hg⟩ := @read16_isSome payload 0 (by omega)
    obtain ⟨s, hs⟩ := @getElem?_isSome payload 2 (by omega)
    exact ⟨g, s, hg, hs⟩
  rw [handle]
  by_cases hstore : commandId = scenesCmdStore
  · rw [if_pos hstore]
    by_cases hlen : payload.length < 3
    · exact ⟨_, if_pos hlen, .ignored (fun _ => List.getElem?_eq_none (by omega))
        fun h => absurd (hstore.symm.trans h) (by decide)⟩
    obtain ⟨g, s, hg, hs⟩ := hreads hlen
    simp only [if_neg hlen, hg, read8_eq, hs, Option.bind_eq_bind, Option.bind_some]
    exact ⟨_, rfl, .stored g s _ hstore hg hs⟩
  rw [if_neg hstore]
  by_cases hrecall : commandId = scenesCmdRecall
  · rw [if_pos hrecall]
    by_cases hlen : payload.length < 3
    · exact ⟨_, if_pos hlen, .ignored (fun _ => List.getElem?_eq_none (by omega))
        fun h => absurd (hrecall.symm.trans h) (by decide)⟩
    obtain ⟨g, s, hg, hs⟩ := hreads hlen
    simp only [if_neg hlen, hg, read8_eq, hs, Option.bind_eq_bind, Option.bind_some]
    have hdoes (status : UInt8) :=
      @Does.recalled table commandId payload onOff level g s status hrecall hg hs
    cases hfound : table.recallScene g s with
    | none =>
      rw [hfound] at hdoes
      exact ⟨_, rfl, hdoes scenesStatusNotFound⟩
    | some snapshot =>
      rw [hfound] at hdoes
      exact ⟨_, rfl, hdoes scenesStatusSuccess⟩
  rw [if_neg hrecall]
  by_cases hremove : commandId = scenesCmdRemove
  · rw [if_pos hremove]
    by_cases hlen : payload.length < 3
    · exact ⟨_, if_pos hlen, .ignored (fun _ => List.getElem?_eq_none (by omega))
        fun h => absurd (hremove.symm.trans h) (by decide)⟩
    obtain ⟨g, s, hg, hs⟩ := hreads hlen
    simp only [if_neg hlen, hg, read8_eq, hs, Option.bind_eq_bind, Option.bind_some]
    exact ⟨_, rfl, .removed g s _ hremove hg hs⟩
  rw [if_neg hremove]
  by_cases hall : commandId = scenesCmdRemoveAll
  · rw [if_pos hall]
    by_cases hlen : payload.length < 2
    · exact ⟨_, if_pos hlen, .ignored (by simp [hstore, hrecall, hremove])
        fun _ => read16_eq_none (by omega)⟩
    obtain ⟨g, hg⟩ := @read16_isSome payload 0 (by omega)
    simp only [if_neg hlen, hg, Option.bind_eq_bind, Option.bind_some]
    exact ⟨_, rfl, .removedAll g hall hg⟩
  · rw [if_neg hall]
    exact ⟨_, rfl, .ignored (by simp [hstore, hrecall, hremove]) fun h => absurd h hall⟩

end ZigbeeScenesCluster

/-! ## One command -/

namespace ZigbeeLight

variable {light : ZigbeeLight}

structure Sound (light : ZigbeeLight) : Prop where
  level_le : light.level ≤ 254
  groups : light.groups.Sound
  capacity_eq : light.groups.capacity = 4
  scenes : light.scenes.Sound 4

theorem initial_sound : ({} : ZigbeeLight).Sound := by
  refine ⟨UInt8.le_refl _, ⟨List.nodup_nil, Nat.zero_le _⟩, rfl, ?_, rfl, ?_⟩
  · exact SlotTable.distinct_of_unused fun e he => by rw [List.eq_of_mem_replicate he]; rfl
  · intro e he
    rw [List.eq_of_mem_replicate he]
    exact UInt8.zero_le

theorem Sound.consistent (h : light.Sound) : light.Consistent :=
  { level_le := h.level_le
    groups_nodup := h.groups.1
    groups_length := h.capacity_eq ▸ h.groups.2
    scenes_distinct := h.scenes.distinct
    scenes_count := Nat.le_trans List.countP_le_length (Nat.le_of_eq h.scenes.length_eq) }

theorem does_sound {o : ZigbeeScenesCluster.Outcome} {commandId : UInt8} {payload : List UInt8}
    (h : light.Sound) (hdoes : ZigbeeScenesCluster.Does light.scenes commandId payload light.on
      light.level o) : o.table.Sound 4 ∧ o.level ≤ 254 := by
  cases hdoes with
  | stored g s => exact ⟨ZigbeeSceneTable.store_sound h.scenes h.level_le, h.level_le⟩
  | recalled g s =>
    refine ⟨h.scenes, ?_⟩
    cases hrecall : light.scenes.recallScene g s with
    | none => exact h.level_le
    | some snapshot => exact ZigbeeSceneTable.recall_le h.scenes hrecall
  | removed g s => exact ⟨ZigbeeSceneTable.remove_sound h.scenes, h.level_le⟩
  | removedAll g => exact ⟨ZigbeeSceneTable.removeAllForGroup_sound h.scenes, h.level_le⟩
  | ignored => exact ⟨h.scenes, h.level_le⟩

/-- A command is always taken; only a Scenes command touches the scenes. -/
theorem handleCommand_sound (h : light.Sound) (c : LightCommand) :
    ∃ light' handled,
      light.handleCommand c.clusterId c.commandId c.payload = some (light', handled) ∧
      light'.Sound ∧
      (c.clusterId ≠ kClusterScenes ∧ light'.scenes = light.scenes ∨
        c.clusterId = kClusterScenes ∧ ∃ o,
          ZigbeeScenesCluster.Does light.scenes c.commandId c.payload light.on light.level o ∧
          light' = { light with scenes := o.table, on := o.onOff, level := o.level } ∧
          handled = o.understood) := by
  rw [handleCommand]
  by_cases hon : c.clusterId = kClusterOnOff
  · rw [if_pos hon]
    exact ⟨_, _, rfl, ⟨h.level_le, h.groups, h.capacity_eq, h.scenes⟩,
      Or.inl ⟨by rw [hon]; decide, rfl⟩⟩
  rw [if_neg hon]
  by_cases hlevel : c.clusterId = kClusterLevelControl
  · obtain ⟨level, changed, happly, hle⟩ :=
      ZigbeeLevelControlCluster.applyCommand_le c.commandId c.payload h.level_le
    simp only [if_pos hlevel, happly, Option.bind_eq_bind, Option.bind_some]
    exact ⟨_, _, rfl, ⟨hle, h.groups, h.capacity_eq, h.scenes⟩,
      Or.inl ⟨by rw [hlevel]; decide, rfl⟩⟩
  rw [if_neg hlevel]
  by_cases hcolor : c.clusterId = kClusterColorControl
  · obtain ⟨⟨color, changed⟩, happly⟩ :=
      ZigbeeColorControlCluster.applyCommand_isSome c.commandId c.payload light.color
    simp only [if_pos hcolor, happly, Option.bind_eq_bind, Option.bind_some]
    exact ⟨_, _, rfl, ⟨h.level_le, h.groups, h.capacity_eq, h.scenes⟩,
      Or.inl ⟨by rw [hcolor]; decide, rfl⟩⟩
  rw [if_neg hcolor]
  by_cases hidentify : c.clusterId = kClusterIdentify
  · rw [if_pos hidentify]
    have hne : c.clusterId ≠ kClusterScenes := by
      rw [hidentify]
      decide
    split
    · obtain ⟨⟨time, runs⟩, happly⟩ :=
        ZigbeeIdentifyCluster.applyIdentify_isSome c.payload light.identifyTime
      simp only [happly, Option.bind_eq_bind, Option.bind_some]
      exact ⟨_, _, rfl, ⟨h.level_le, h.groups, h.capacity_eq, h.scenes⟩, Or.inl ⟨hne, rfl⟩⟩
    · exact ⟨_, _, rfl, h, Or.inl ⟨hne, rfl⟩⟩
  rw [if_neg hidentify]
  by_cases hgroups : c.clusterId = kClusterGroups
  · obtain ⟨groups, response, hhandle, hsound, hcapacity⟩ :=
      ZigbeeGroupsCluster.handle_sound h.groups c.commandId c.short 24
    simp only [if_pos hgroups, hhandle, Option.bind_eq_bind, Option.bind_some]
    exact ⟨_, _, rfl, ⟨h.level_le, hsound, hcapacity.trans h.capacity_eq, h.scenes⟩,
      Or.inl ⟨by rw [hgroups]; decide, rfl⟩⟩
  rw [if_neg hgroups]
  by_cases hscenes : c.clusterId = kClusterScenes
  · obtain ⟨o, hhandle, hdoes⟩ := ZigbeeScenesCluster.handle_does light.scenes c.commandId
      c.payload light.on light.level
    obtain ⟨htable, hle⟩ := does_sound h hdoes
    simp only [if_pos hscenes, hhandle, Option.bind_eq_bind, Option.bind_some]
    exact ⟨_, _, rfl, ⟨hle, h.groups, h.capacity_eq, htable⟩,
      Or.inr ⟨hscenes, o, hdoes, rfl, rfl⟩⟩
  · rw [if_neg hscenes]
    exact ⟨_, _, rfl, h, Or.inl ⟨hscenes, rfl⟩⟩

/-! ## A run of commands -/

theorem after_concat (commands : List LightCommand) (c : LightCommand) :
    after (commands ++ [c]) = (after commands).bind fun light => light.step c := by
  simp [after, List.foldlM_append]

theorem after_sound (commands : List LightCommand) :
    ∃ light, after commands = some light ∧ light.Sound := by
  refine @Runs.refines _ _ Unit step (fun u _ => u) (fun light _ => light.Sound) ?_ {} ()
    initial_sound commands
  intro light u c hsound
  obtain ⟨light', handled, hhandle, hsound', -⟩ := handleCommand_sound hsound c
  exact ⟨light', by rw [step, hhandle]; rfl, hsound'⟩

theorem not_removes {c : LightCommand} {commandId : UInt8} (hcommand : c.commandId = commandId)
    (hremove : commandId ≠ ZigbeeScenesCluster.scenesCmdRemove)
    (hall : commandId ≠ ZigbeeScenesCluster.scenesCmdRemoveAll) (k : UInt16 × UInt8) :
    ¬ c.Removes k := by
  intro h
  rcases h with h | h
  · exact hremove (hcommand.symm.trans h.2.1)
  · exact hall (hcommand.symm.trans h.2.1)

/-- What a command does to one scene: a Store that succeeds sets it, a removal clears it, and
nothing else touches it. -/
theorem step_scene (h : light.Sound) (c : LightCommand) (k : UInt16 × UInt8) :
    ∃ light', light.step c = some light' ∧
      (c.IsScene ZigbeeScenesCluster.scenesCmdStore k →
        (light.scenes.store k.1 k.2 light.on light.level).2 = true →
        light'.scenes.recallScene k.1 k.2 = some (light.on, light.level)) ∧
      (c.Removes k → light'.scenes.recallScene k.1 k.2 = none) ∧
      (¬ (c.IsScene ZigbeeScenesCluster.scenesCmdStore k ∧
          (light.scenes.store k.1 k.2 light.on light.level).2 = true) →
        ¬ c.Removes k → light'.scenes.recallScene k.1 k.2 = light.scenes.recallScene k.1 k.2) := by
  obtain ⟨light', handled, hhandle, -, hcase⟩ := handleCommand_sound h c
  refine ⟨light', by rw [step, hhandle]; rfl, ?_⟩
  rcases hcase with ⟨hcluster, hscenes⟩ | ⟨hcluster, o, hdoes, rfl, -⟩
  · rw [hscenes]
    refine ⟨fun hstore => absurd hstore.1 hcluster, ?_, fun _ _ => rfl⟩
    rintro (hremove | hremove)
    · exact absurd hremove.1 hcluster
    · exact absurd hremove.1 hcluster
  -- One case a kind of Scenes command; the command ids tell the kinds apart.
  cases hdoes with
  | stored g s status hcommand hgroup hscene =>
    have hnot := not_removes hcommand (by decide) (by decide) k
    refine ⟨?_, fun hremove => absurd hremove hnot, ?_⟩
    · rintro ⟨-, -, hg, hs⟩ hok
      obtain rfl := Option.some.inj (hgroup.symm.trans hg)
      obtain rfl := Option.some.inj (hscene.symm.trans hs)
      exact ZigbeeSceneTable.store_stored hok
    · intro hidle _
      by_cases hk : k = (g, s)
      · subst hk
        have hfull : ¬ (light.scenes.store g s light.on light.level).2 = true :=
          fun hok => hidle ⟨⟨hcluster, hcommand, hgroup, hscene⟩, hok⟩
        dsimp only
        rw [ZigbeeSceneTable.store_full hfull]
      · exact ZigbeeSceneTable.store_other hk
  | recalled g s status hcommand hgroup hscene =>
    have hnot := not_removes hcommand (by decide) (by decide) k
    exact ⟨fun hstore => absurd (hcommand.symm.trans hstore.2.1) (by decide),
      fun hremove => absurd hremove hnot, fun _ _ => rfl⟩
  | removed g s status hcommand hgroup hscene =>
    refine ⟨fun hstore => absurd (hcommand.symm.trans hstore.2.1) (by decide), ?_, ?_⟩
    · rintro (⟨-, -, hg, hs⟩ | hremove)
      · obtain rfl := Option.some.inj (hgroup.symm.trans hg)
        obtain rfl := Option.some.inj (hscene.symm.trans hs)
        exact ZigbeeSceneTable.remove_self h.scenes.distinct
      · exact absurd (hcommand.symm.trans hremove.2.1) (by decide)
    · intro _ hnot
      refine ZigbeeSceneTable.remove_other fun hk => hnot (Or.inl ?_)
      subst hk
      exact ⟨hcluster, hcommand, hgroup, hscene⟩
  | removedAll g hcommand hgroup =>
    refine ⟨fun hstore => absurd (hcommand.symm.trans hstore.2.1) (by decide), ?_, ?_⟩
    · rintro (hremove | ⟨-, -, hg⟩)
      · exact absurd (hcommand.symm.trans hremove.2.1) (by decide)
      · obtain rfl := Option.some.inj (hgroup.symm.trans hg)
        exact ZigbeeSceneTable.removeAllForGroup_self
    · intro _ hnot
      refine ZigbeeSceneTable.removeAllForGroup_other fun hk => hnot (Or.inr ?_)
      exact ⟨hcluster, hcommand, by rw [hk]; exact hgroup⟩
  | ignored hscene hgroup =>
    refine ⟨?_, ?_, fun _ _ => rfl⟩
    · rintro ⟨-, hcommand, -, hs⟩
      rw [hscene (Or.inl hcommand)] at hs
      cases hs
    · rintro (⟨-, hcommand, -, hs⟩ | ⟨-, hcommand, hg⟩)
      · rw [hscene (Or.inr (Or.inr hcommand))] at hs
        cases hs
      · rw [hgroup hcommand] at hg
        cases hg

/-- The snapshot that the table holds after a run. -/
def snapshot (k : UInt16 × UInt8) (commands : List LightCommand) : Option (Bool × UInt8) :=
  (after commands).bind fun light => light.scenes.recallScene k.1 k.2

theorem snapshot_concat {past : List LightCommand} {c : LightCommand} {light light' : ZigbeeLight}
    (hafter : after past = some light) (hstep : light.step c = some light')
    (k : UInt16 × UInt8) : snapshot k (past ++ [c]) = light'.scenes.recallScene k.1 k.2 := by
  rw [snapshot, after_concat, hafter, Option.bind_some, hstep, Option.bind_some]

theorem snapshot_eq_some_iff (k : UInt16 × UInt8) (commands : List LightCommand)
    (s : Bool × UInt8) : snapshot k commands = some s ↔ LightCommand.Stored k commands s := by
  refine Latest.eq_some_iff ?_ ?_ ?_ ?_ commands s
  · have hempty : SlotTable.lookup SceneEntry.key (List.replicate 4 {}) k = none := by
      rw [SlotTable.lookup_eq_none]
      intro e he
      rw [List.eq_of_mem_replicate he]
      simp [SceneEntry.key]
    exact ZigbeeSceneTable.recall_eq_none hempty
  · rintro past c s ⟨light, hafter, hstore, hok, rfl⟩
    obtain ⟨light₀, hafter₀, hsound⟩ := after_sound past
    obtain rfl := Option.some.inj (hafter.symm.trans hafter₀)
    obtain ⟨light', hstep, hset, -⟩ := step_scene hsound c k
    rw [snapshot_concat hafter hstep]
    exact hset hstore hok
  · intro past c hremove
    obtain ⟨light, hafter, hsound⟩ := after_sound past
    obtain ⟨light', hstep, -, hclear, -⟩ := step_scene hsound c k
    rw [snapshot_concat hafter hstep]
    exact hclear hremove
  · rintro past c ⟨hnot, hidle⟩
    obtain ⟨light, hafter, hsound⟩ := after_sound past
    obtain ⟨light', hstep, -, -, hkeep⟩ := step_scene hsound c k
    rw [snapshot_concat hafter hstep, snapshot, hafter, Option.bind_some]
    exact hkeep (fun h => hidle _ ⟨light, hafter, h.1, h.2, rfl⟩) hnot

/-- After any run of commands the light is consistent, and a Recall of a scene restores what was
current at its latest Store that was not removed since; without one it changes nothing. -/
theorem light_law (commands : List LightCommand) :
    ∃ light, after commands = some light ∧ light.Consistent ∧
      ∀ (c : LightCommand) (k : UInt16 × UInt8), c.IsScene ZigbeeScenesCluster.scenesCmdRecall k →
        ∃ light', light.handleCommand c.clusterId c.commandId c.payload = some (light', true) ∧
          (∀ s, LightCommand.Stored k commands s →
            light' = { light with on := s.1, level := s.2 }) ∧
          ((∀ s, ¬ LightCommand.Stored k commands s) → light' = light) := by
  obtain ⟨light, hafter, hsound⟩ := after_sound commands
  refine ⟨light, hafter, hsound.consistent, ?_⟩
  rintro c k ⟨hcluster, hcommand, hgroup, hscene⟩
  obtain ⟨light', handled, hhandle, -, hcase⟩ := handleCommand_sound hsound c
  rcases hcase with ⟨hne, -⟩ | ⟨-, o, hdoes, rfl, rfl⟩
  · exact absurd hcluster hne
  have hsnapshot (s : Bool × UInt8) :
      light.scenes.recallScene k.1 k.2 = some s ↔ LightCommand.Stored k commands s := by
    rw [← snapshot_eq_some_iff, snapshot, hafter, Option.bind_some]
  cases hdoes with
  | recalled g s status _ hg hs =>
    obtain rfl := Option.some.inj (hgroup.symm.trans hg)
    obtain rfl := Option.some.inj (hscene.symm.trans hs)
    refine ⟨_, hhandle, ?_, ?_⟩
    · intro s hstored
      rw [(hsnapshot s).mpr hstored]
      rfl
    · intro hnone
      have hrecall : light.scenes.recallScene k.1 k.2 = none := by
        cases h : light.scenes.recallScene k.1 k.2 with
        | none => rfl
        | some s => exact absurd ((hsnapshot s).mp h) (hnone s)
      rw [hrecall]
      rfl
  | stored g s status h => exact absurd (hcommand.symm.trans h) (by decide)
  | removed g s status h => exact absurd (hcommand.symm.trans h) (by decide)
  | removedAll g h => exact absurd (hcommand.symm.trans h) (by decide)
  | ignored h =>
    rw [h (Or.inr (Or.inl hcommand))] at hscene
    cases hscene

/-- A light stored while on at 100 is switched off and dimmed before the Recall. -/
theorem light_law_movie_scene :
    let cmd (clusterId : UInt16) (commandId : UInt8) (payload : List UInt8)
      (short : payload.length ≤ 125) : LightCommand := ⟨clusterId, commandId, payload, short⟩
    let commands := [cmd kClusterOnOff 0x01 [] (by decide),
      cmd kClusterLevelControl 0x00 [100] (by decide),
      cmd kClusterScenes 0x04 [0x01, 0x00, 0x07] (by decide),
      cmd kClusterOnOff 0x00 [] (by decide), cmd kClusterLevelControl 0x00 [3] (by decide)]
    (after commands).map (fun light => (light.on, light.level)) = some (false, 3) ∧
      ((after commands).bind fun light =>
        light.handleCommand kClusterScenes 0x05 [0x01, 0x00, 0x07]).map
          (fun r => (r.1.on, r.1.level)) = some (true, 100) := by
  intro cmd commands
  refine ⟨rfl, ?_⟩
  obtain ⟨light, hafter, -, hrecall⟩ := light_law commands
  obtain ⟨light', hhandle, hstored, -⟩ := hrecall
    (cmd kClusterScenes 0x05 [0x01, 0x00, 0x07] (by decide)) (0x0001, 0x07)
    ⟨rfl, rfl, by decide, rfl⟩
  have hscene : LightCommand.Stored (0x0001, 0x07) commands (true, 100) := by
    refine ⟨commands.take 2, _, commands.drop 3, rfl, ⟨_, rfl, ⟨rfl, rfl, by decide, rfl⟩,
      by decide, rfl⟩, ?_⟩
    intro mid c rest hsince
    have hcluster : c.clusterId ≠ kClusterScenes := by
      have hc : c ∈ commands.drop 3 := by
        rw [hsince]
        exact List.mem_append_right mid List.mem_cons_self
      rcases List.mem_pair.mp hc with rfl | rfl
      · decide
      · decide
    refine ⟨?_, ?_⟩
    · rintro (hremove | hremove)
      · exact hcluster hremove.1
      · exact hcluster hremove.1
    · rintro s ⟨light, -, hstore, -⟩
      exact hcluster hstore.1
  rw [hafter, Option.bind_some]
  refine (congrArg _ hhandle).trans ?_
  rw [Option.map_some, hstored _ hscene]

end ZigbeeLight

end NiusZigbee
