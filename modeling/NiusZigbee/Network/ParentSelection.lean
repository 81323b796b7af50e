import NiusZigbee.Library.Shortlist
import NiusZigbee.Network.Membership

/-!
# The parent a scan selects

Eight candidates compete by LQI alone, and whether one is usable is asked when the parent is
selected. A scan misses the best usable beacon just when a full table gives its last usable
candidate up, or turns a usable beacon away with none in it.
-/

namespace NiusZigbee

open ZigbeeMac ZigbeeNwk

namespace ZigbeeNetwork

/-- A beacon as it comes in during a scan. -/
structure Sighting where
  channel : UInt8
  beacon : MacBeaconFrame
  payload : NwkBeaconPayload
  rssi : Int8
  lqi : UInt8
  requiredExtendedPanId : UInt64
deriving DecidableEq, Repr

namespace Sighting

variable (b : Sighting)

def sender : UInt8 × UInt16 × UInt16 := (b.channel, b.beacon.srcPanId, b.beacon.srcShort)

/-- What decides whether the sender is usable. -/
def offer : Bool × UInt8 × Bool × Bool :=
  (b.beacon.associationPermit, b.payload.stackProfile, b.payload.routerCapacity,
    b.payload.endDeviceCapacity)

def candidate : ZigbeeParentCandidate := sighted b.channel b.beacon b.payload b.rssi b.lqi

/-- Valid, and of the network asked for, if one is. -/
def Passes : Prop :=
  b.beacon.valid = true ∧ b.payload.valid = true ∧
    (b.requiredExtendedPanId ≠ 0 → b.payload.extendedPanId = b.requiredExtendedPanId)

instance : Decidable b.Passes := inferInstanceAs (Decidable (_ ∧ _ ∧ _))

end Sighting

def note (net : ZigbeeNetwork) (b : Sighting) : ZigbeeNetwork :=
  (net.noteBeacon b.channel b.beacon b.payload b.rssi b.lqi b.requiredExtendedPanId).1

/-- The network, with the beacons noted in this scan. -/
structure Scan where
  net : ZigbeeNetwork
  noted : List Sighting

def hear (s : Scan) (b : Sighting) : Scan := ⟨s.net.note b, b :: s.noted⟩

/-- If any noted beacon was usable, a usable candidate is selected and no usable beacon had a
higher LQI. -/
def FindsBest (s : Scan) : Prop :=
  (∃ b ∈ s.noted, candidateUsableFor b.candidate s.net.scanDeviceType = true) →
    ∃ parent ∈ s.net.selectParent, candidateUsableFor parent s.net.scanDeviceType = true ∧
      ∀ b ∈ s.noted, candidateUsableFor b.candidate s.net.scanDeviceType = true →
        b.lqi ≤ parent.lqi

/-- What a full table gives up for the beacon of an unknown sender: the beacon, or the weakest
candidate if that is weaker. -/
def givenUp (net : ZigbeeNetwork) (b : Sighting) : Option ZigbeeParentCandidate :=
  if SlotTable.HasRoom candidateKey net.candidates b.sender then none
  else
    ((SlotTable.least candidateKey weaker net.candidates).bind (net.candidates[·]?)).map
      fun weakest => if weakest.lqi ≥ b.lqi then b.candidate else weakest

/-- What is given up is usable, and no usable candidate is left. -/
def LosesLast (net : ZigbeeNetwork) (b : Sighting) : Prop :=
  (∃ c ∈ net.givenUp b, candidateUsableFor c net.scanDeviceType = true) ∧
    ∀ c ∈ (net.note b).candidates, candidateUsableFor c net.scanDeviceType = false

instance (net : ZigbeeNetwork) (b : Sighting) : Decidable (net.LosesLast b) :=
  inferInstanceAs (Decidable ((∃ c ∈ net.givenUp b, _) ∧ ∀ c ∈ _, _))

/-- Every candidate is a beacon noted in this scan. -/
structure Tracked (beacons : List Sighting) (s : Scan) : Prop where
  nonempty : s.net.candidates ≠ []
  noted : ∀ b ∈ s.noted, b ∈ beacons
  sighted : ∀ c ∈ s.net.candidates, c.used = true → ∃ b ∈ s.noted, c = b.candidate

/-- Every usable beacon noted is matched by a usable candidate with no lower LQI. -/
def Covered (s : Scan) : Prop :=
  Shortlist.Covers (candidateUsableFor · s.net.scanDeviceType) (·.lqi.toNat) s.net.candidates
    (s.noted.map Sighting.candidate)

variable {net : ZigbeeNetwork} {s : Scan} {b : Sighting} {beacons : List Sighting}

/-! ## Selecting -/

theorem findsBest_iff (s : Scan) : FindsBest s ↔ Covered s := by
  have hbest : FindsBest s ↔ Shortlist.Best (candidateUsableFor · s.net.scanDeviceType)
      (·.lqi.toNat) (s.noted.map Sighting.candidate) s.net.selectParent := by
    simp only [FindsBest, Shortlist.Best, List.mem_map, exists_exists_and_eq_and,
      forall_exists_index, and_imp, forall_apply_eq_imp_iff₂, UInt8.le_iff_toNat_le]
    rfl
  rw [hbest]
  refine Shortlist.best_pick_iff (fun c best hwins => ?_) fun c best hloses => ?_
  · simp only [Bool.or_eq_true, Bool.and_eq_true, decide_eq_true_eq, beq_iff_eq,
      UInt8.lt_iff_toNat_lt, gt_iff_lt] at hwins
    rcases hwins with hless | ⟨hsame, _⟩
    · exact hless.le
    · rw [hsame]
  · simp only [Bool.or_eq_false_iff, decide_eq_false_iff_not, UInt8.lt_iff_toNat_lt, gt_iff_lt,
      not_lt] at hloses
    exact hloses.1

/-! ## One beacon -/

theorem candidateKey_eq_some {c : ZigbeeParentCandidate} {k : UInt8 × UInt16 × UInt16} :
    candidateKey c = some k ↔ c.used = true ∧ (c.channel, c.panId, c.shortAddress) = k := by
  unfold candidateKey
  split <;> simp_all

theorem used_of_usable {c : ZigbeeParentCandidate} {deviceType : UInt8}
    (h : candidateUsableFor c deviceType = true) : c.used = true := by
  by_contra hunused
  simp [candidateUsableFor, hunused] at h

theorem usable_eq {b b' : Sighting} (h : b.offer = b'.offer) (deviceType : UInt8) :
    candidateUsableFor b.candidate deviceType = candidateUsableFor b'.candidate deviceType := by
  simp only [Sighting.offer, Prod.mk.injEq] at h
  obtain ⟨hpermit, hprofile, hrouter, hend⟩ := h
  simp only [candidateUsableFor, Sighting.candidate, sighted, hpermit, hprofile, hrouter, hend]
  rfl

/-- A beacon that passes goes to the slot chosen for it, if there is one and its candidate is not
better. -/
theorem note_eq (hpass : b.Passes) :
    net.note b = (net.candidateSlot b.sender b.lqi).elim net fun slot =>
      if slot.2 then net
      else { net with candidates := net.candidates.set slot.1 b.candidate } := by
  obtain ⟨hbeacon, hpayload, hext⟩ := hpass
  have hgate : (!b.beacon.valid || !b.payload.valid) = false := by simp [hbeacon, hpayload]
  have hfilter : ¬ (b.requiredExtendedPanId ≠ 0 ∧
      b.payload.extendedPanId ≠ b.requiredExtendedPanId) := fun h => h.2 (hext h.1)
  rw [note, noteBeacon, hgate, if_neg Bool.false_ne_true, if_neg hfilter]
  rw [show (b.channel, b.beacon.srcPanId, b.beacon.srcShort) = b.sender from rfl]
  cases net.candidateSlot b.sender b.lqi with
  | none => rfl
  | some slot =>
    obtain ⟨i, better⟩ := slot
    cases better <;> rfl

theorem note_known (hpass : b.Passes) {i : Nat}
    (hfind : SlotTable.find candidateKey net.candidates b.sender = some i) :
    ∃ c, net.candidates[i]? = some c ∧ candidateKey c = some b.sender ∧ net.givenUp b = none ∧
      ((b.lqi < c.lqi ∧ net.note b = net) ∨
        (c.lqi ≤ b.lqi ∧
          net.note b = { net with candidates := net.candidates.set i b.candidate })) := by
  obtain ⟨hlt, hkey, _⟩ := SlotTable.find_eq_some hfind
  have hi : net.candidates[i]? = some net.candidates[i] := List.getElem?_eq_getElem hlt
  have hslot : net.candidateSlot b.sender b.lqi =
      some (i, decide (b.lqi < net.candidates[i].lqi)) := by
    simp only [candidateSlot, hfind, hi, Option.any_some]
  refine ⟨_, hi, hkey, if_pos (.inl (by rw [hfind]; rfl)), ?_⟩
  rw [note_eq hpass, hslot, Option.elim_some]
  by_cases hbetter : b.lqi < net.candidates[i].lqi
  · exact .inl ⟨hbetter, if_pos (decide_eq_true hbetter)⟩
  · exact .inr ⟨UInt8.not_lt.mp hbetter, if_neg (by simpa using hbetter)⟩

theorem note_free (hpass : b.Passes)
    (hfind : SlotTable.find candidateKey net.candidates b.sender = none) {i : Nat}
    (hfree : SlotTable.firstFree candidateKey net.candidates = some i) :
    ∃ c, net.candidates[i]? = some c ∧ c.used = false ∧ net.givenUp b = none ∧
      net.note b = { net with candidates := net.candidates.set i b.candidate } := by
  obtain ⟨hlt, hkey⟩ := SlotTable.firstFree_eq_some hfree
  have hunused : net.candidates[i].used = false := by
    by_contra hused
    simp [candidateKey, hused] at hkey
  have hslot : net.candidateSlot b.sender b.lqi = some (i, false) := by
    simp only [candidateSlot, hfind, hfree]
  refine ⟨_, List.getElem?_eq_getElem hlt, hunused, if_pos (.inr (by rw [hfree]; rfl)), ?_⟩
  rw [note_eq hpass, hslot]
  rfl

theorem note_full (hne : net.candidates ≠ []) (hpass : b.Passes)
    (hfind : SlotTable.find candidateKey net.candidates b.sender = none)
    (hfree : SlotTable.firstFree candidateKey net.candidates = none) :
    ∃ i weakest, net.candidates[i]? = some weakest ∧
      (∀ c ∈ net.candidates, weakest.lqi ≤ c.lqi) ∧
      ((b.lqi ≤ weakest.lqi ∧ net.givenUp b = some b.candidate ∧ net.note b = net) ∨
        (weakest.lqi < b.lqi ∧ net.givenUp b = some weakest ∧
          net.note b = { net with candidates := net.candidates.set i b.candidate })) := by
  have hfull := SlotTable.firstFree_eq_none hfree
  have hroom : ¬ SlotTable.HasRoom candidateKey net.candidates b.sender := by
    simp [SlotTable.HasRoom, hfind, hfree]
  obtain ⟨i, hleast⟩ : ∃ i, SlotTable.least candidateKey weaker net.candidates = some i :=
    SlotTable.least_isSome hne hfull
  obtain ⟨weakest, hi, _, hle⟩ := SlotTable.least_le (f := fun c => c.lqi.toNat)
    (fun a c => by simp [weaker, UInt8.lt_iff_toNat_lt]) hleast
  have hgives : net.givenUp b = some (if weakest.lqi ≥ b.lqi then b.candidate else weakest) := by
    rw [givenUp, if_neg hroom, hleast, Option.bind_some, hi, Option.map_some]
  have hslot : net.candidateSlot b.sender b.lqi =
      if weakest.lqi ≥ b.lqi then none else some (i, false) := by
    simp [candidateSlot, hfind, hfree, hleast, hi]
  refine ⟨i, weakest, hi, fun c hc => UInt8.le_iff_toNat_le.mpr (hle c hc (hfull c hc)), ?_⟩
  rw [note_eq hpass, hslot, hgives]
  by_cases hrefused : weakest.lqi ≥ b.lqi
  · rw [if_pos hrefused, if_pos hrefused]
    exact .inl ⟨hrefused, rfl, rfl⟩
  · rw [if_neg hrefused, if_neg hrefused]
    exact .inr ⟨UInt8.not_le.mp hrefused, rfl, rfl⟩

theorem note_writes (hne : net.candidates ≠ []) (hpass : b.Passes) :
    net.note b = net ∨
      ∃ i, net.note b = { net with candidates := net.candidates.set i b.candidate } := by
  cases hfind : SlotTable.find candidateKey net.candidates b.sender with
  | some i =>
    obtain ⟨_, _, _, _, hstay | hwrite⟩ := note_known hpass hfind
    · exact .inl hstay.2
    · exact .inr ⟨i, hwrite.2⟩
  | none =>
    cases hfree : SlotTable.firstFree candidateKey net.candidates with
    | some i =>
      obtain ⟨_, _, _, _, hwrite⟩ := note_free hpass hfind hfree
      exact .inr ⟨i, hwrite⟩
    | none =>
      obtain ⟨i, _, _, _, hstay | hwrite⟩ := note_full hne hpass hfind hfree
      · exact .inl hstay.2.2
      · exact .inr ⟨i, hwrite.2.2⟩

theorem hear_tracked (h : Tracked beacons s) (hb : b ∈ beacons) (hpass : b.Passes) :
    Tracked beacons (hear s b) := by
  have hnoted : ∀ b' ∈ (hear s b).noted, b' ∈ beacons := by
    intro b' hb'
    rcases List.mem_cons.mp hb' with rfl | hb'
    · exact hb
    · exact h.noted b' hb'
  have hkept : ∀ c ∈ s.net.candidates, c.used = true → ∃ b' ∈ b :: s.noted, c = b'.candidate := by
    intro c hc hused
    obtain ⟨b', hb', heq⟩ := h.sighted c hc hused
    exact ⟨b', List.mem_cons_of_mem b hb', heq⟩
  rcases note_writes h.nonempty hpass with hstay | ⟨i, hwrite⟩
  · refine ⟨?_, hnoted, ?_⟩
    · rw [hear, hstay]
      exact h.nonempty
    · rw [hear, hstay]
      exact hkept
  · refine ⟨?_, hnoted, ?_⟩
    · rw [hear, hwrite]
      simpa using h.nonempty
    · intro c hc hused
      rw [hear, hwrite] at hc
      rcases List.mem_or_eq_of_mem_set hc with hc | rfl
      · exact hkept c hc hused
      · exact ⟨b, List.mem_cons_self, rfl⟩

theorem note_scanDeviceType (hne : net.candidates ≠ []) (hpass : b.Passes) :
    (net.note b).scanDeviceType = net.scanDeviceType := by
  rcases note_writes hne hpass with hstay | ⟨i, hwrite⟩
  · rw [hstay]
  · rw [hwrite]

/-- A beacon leaves the candidates covering what was noted just when it does not cost the last
usable one. -/
theorem hear_covered_iff (h : Tracked beacons s) (hcovered : Covered s) (hpass : b.Passes)
    (hsame : ∀ b' ∈ s.noted, b'.sender = b.sender → b'.offer = b.offer) :
    Covered (hear s b) ↔ ¬ s.net.LosesLast b := by
  have hiff : Covered (hear s b) ↔ Shortlist.Covers (candidateUsableFor · s.net.scanDeviceType)
      (·.lqi.toNat) (s.net.note b).candidates
      (b.candidate :: s.noted.map Sighting.candidate) := by
    rw [Covered, hear, note_scanDeviceType h.nonempty hpass]
    rfl
  have hlast : ∀ c, s.net.givenUp b = some c → (s.net.LosesLast b ↔
      ¬ (candidateUsableFor c s.net.scanDeviceType = true →
        ∃ e ∈ (s.net.note b).candidates, candidateUsableFor e s.net.scanDeviceType = true)) := by
    intro c hc
    simp [LosesLast, hc]
  have hnever : s.net.givenUp b = none → ¬ s.net.LosesLast b := by
    rintro hnone ⟨⟨c, hc, _⟩, _⟩
    rw [hnone] at hc
    cases hc
  rw [hiff]
  cases hfind : SlotTable.find candidateKey s.net.candidates b.sender with
  | some i =>
    -- the sender's candidate is usable just when its beacon is
    obtain ⟨c, hi, hkey, hgives, hcase⟩ := note_known hpass hfind
    refine iff_of_true ?_ (hnever hgives)
    obtain ⟨hused, hc⟩ := candidateKey_eq_some.mp hkey
    obtain ⟨b', hb', rfl⟩ := h.sighted c (List.mem_of_getElem? hi) hused
    have husable := usable_eq (hsame b' hb' hc) s.net.scanDeviceType
    rcases hcase with ⟨hbetter, hstay⟩ | ⟨hbetter, hwrite⟩
    · rw [hstay]
      refine hcovered.cons fun hok => ⟨_, List.mem_of_getElem? hi, by rw [husable, hok], ?_⟩
      exact (UInt8.lt_iff_toNat_lt.mp hbetter).le
    · rw [hwrite]
      exact hcovered.set hi fun hok => ⟨by rw [← husable, hok], UInt8.le_iff_toNat_le.mp hbetter⟩
  | none =>
    cases hfree : SlotTable.firstFree candidateKey s.net.candidates with
    | some i =>
      obtain ⟨c, hi, hunused, hgives, hwrite⟩ := note_free hpass hfind hfree
      refine iff_of_true ?_ (hnever hgives)
      rw [hwrite]
      refine hcovered.set hi fun hok => ?_
      rw [used_of_usable hok] at hunused
      cases hunused
    | none =>
      obtain ⟨i, weakest, hi, hweakest, hcase⟩ := note_full h.nonempty hpass hfind hfree
      have hweak : ∀ c ∈ s.net.candidates, weakest.lqi.toNat ≤ c.lqi.toNat :=
        fun c hc => UInt8.le_iff_toNat_le.mp (hweakest c hc)
      rcases hcase with ⟨hlow, hgives, hstay⟩ | ⟨hhigh, hgives, hwrite⟩
      · rw [hlast _ hgives, hstay, not_not]
        exact hcovered.refuse_iff fun c hc => (UInt8.le_iff_toNat_le.mp hlow).trans (hweak c hc)
      · rw [hlast _ hgives, hwrite, not_not]
        refine hcovered.replace_iff hi hweak (UInt8.lt_iff_toNat_lt.mp hhigh).le fun hok => ?_
        obtain ⟨b', hb', rfl⟩ := h.sighted weakest (List.mem_of_getElem? hi) (used_of_usable hok)
        exact ⟨_, List.mem_map_of_mem hb', hok⟩

/-! ## Scans -/

theorem beginScan_tracked (net : ZigbeeNetwork) (deviceType : UInt8) (beacons : List Sighting) :
    Tracked beacons ⟨net.beginScan deviceType, []⟩ where
  nonempty := by simp [beginScan, kMaxParentCandidates]
  noted := by simp
  sighted := by
    intro c hc hused
    rw [List.eq_of_mem_replicate hc] at hused
    cases hused

theorem scan_tracked (net : ZigbeeNetwork) (deviceType : UInt8) {beacons : List Sighting}
    (hpass : ∀ b ∈ beacons, b.Passes) (n : Nat) :
    Tracked beacons ((beacons.take n).foldl hear ⟨net.beginScan deviceType, []⟩) := by
  have hrun : Runs.Along hear (fun _ b => b ∈ beacons ∧ b.Passes)
      ⟨net.beginScan deviceType, []⟩ (beacons.take n) := by
    refine Runs.along_of_forall (fun b hb _ => ?_) _
    have hmem := List.mem_of_mem_take hb
    exact ⟨hmem, hpass b hmem⟩
  exact hrun.invariant (I := Tracked beacons) (fun _ _ h hb => hear_tracked h hb.1 hb.2)
    (beginScan_tracked net deviceType beacons)

/-- After every part of a scan in which no sender changes its offer, the parent selected is the best
one heard, just when no beacon of the scan costs a full table the last usable candidate. -/
theorem selectParent_best_iff (net : ZigbeeNetwork) (deviceType : UInt8) (beacons : List Sighting)
    (hpass : ∀ b ∈ beacons, b.Passes)
    (hsame : ∀ b ∈ beacons, ∀ b' ∈ beacons, b.sender = b'.sender → b.offer = b'.offer) :
    (∀ n, FindsBest ((beacons.take n).foldl hear ⟨net.beginScan deviceType, []⟩)) ↔
      Runs.Along hear (fun s b => ¬ s.net.LosesLast b) ⟨net.beginScan deviceType, []⟩ beacons := by
  have hinit : Covered ⟨net.beginScan deviceType, []⟩ := by
    intro c hc
    cases hc
  have hstep : ∀ s, ∀ b ∈ beacons, Tracked beacons s ∧ Covered s →
      (Tracked beacons (hear s b) ∧ Covered (hear s b) ↔ ¬ s.net.LosesLast b) := by
    intro s b hb h
    have hnext := hear_tracked h.1 hb (hpass b hb)
    rw [← hear_covered_iff h.1 h.2 (hpass b hb) fun b' hb' => hsame b' (h.1.noted b' hb') b hb]
    exact ⟨fun hboth => hboth.2, fun hcovered => ⟨hnext, hcovered⟩⟩
  rw [Runs.along_iff_of (I := fun s => Tracked beacons s ∧ Covered s) hstep
    ⟨beginScan_tracked net deviceType beacons, hinit⟩]
  refine forall_congr' fun n => ?_
  rw [findsBest_iff]
  exact ⟨fun hcovered => ⟨scan_tracked net deviceType hpass n, hcovered⟩, fun hboth => hboth.2⟩

private def heard (shortAddress : UInt16) (permit : Bool) (lqi : UInt8) : Sighting where
  channel := 11
  beacon := { valid := true, srcPanId := 0x1234, srcShort := shortAddress
              associationPermit := permit }
  payload := { valid := true, stackProfile := kStackProfilePro, routerCapacity := true }
  rssi := 0
  lqi := lqi
  requiredExtendedPanId := 0

private def closedNetworks : List Sighting :=
  [heard 1 false 201, heard 2 false 202, heard 3 false 203, heard 4 false 204, heard 5 false 205,
    heard 6 false 206, heard 7 false 207]

/-- Beside seven stronger networks that take nobody, two that do stay in the table. -/
theorem selectParent_best_open :
    let beacons := closedNetworks ++ [heard 8 true 100, heard 9 true 150]
    ∀ n, FindsBest ((beacons.take n).foldl hear
      ⟨(init []).beginScan zbDeviceRouter, []⟩) := by
  intro beacons
  exact (selectParent_best_iff (init []) zbDeviceRouter beacons (by decide) (by decide)).mpr
    (by decide)

/-- Beside eight of them the only one that does is turned away. -/
theorem selectParent_missed :
    let beacons := closedNetworks ++ [heard 8 false 208, heard 9 true 150]
    let s := beacons.foldl hear ⟨(init []).beginScan zbDeviceRouter, []⟩
    (∀ b ∈ beacons, b.Passes) ∧
      (∀ b ∈ beacons, ∀ b' ∈ beacons, b.sender = b'.sender → b.offer = b'.offer) ∧
      (∃ b ∈ s.noted, candidateUsableFor b.candidate zbDeviceRouter = true) ∧
      s.net.selectParent = none ∧ ¬ FindsBest s := by
  intro beacons s
  have hnone : s.net.selectParent = none := by decide
  have husable : ∃ b ∈ s.noted, candidateUsableFor b.candidate zbDeviceRouter = true := by decide
  refine ⟨by decide, by decide, husable, hnone, fun hbest => ?_⟩
  obtain ⟨parent, hparent, _⟩ := hbest husable
  rw [hnone] at hparent
  cases hparent

end ZigbeeNetwork

end NiusZigbee
