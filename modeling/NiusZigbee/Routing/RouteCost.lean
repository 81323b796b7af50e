import NiusZigbee.Routing.Discovery

/-!
# The cost of a route

The cost of a request is kept in a byte. Up to 255 the byte is the cost; beyond, it starts again
from 0 and looks like the best route there is.
-/

namespace NiusZigbee

open ZigbeeNwk

namespace ZigbeeRouting

variable (node : ZigbeeRouting) (selfShort : UInt16) (isRouter : Bool)
  (previousHop originator : UInt16) (rreq : NwkRouteRequestCommand) (linkCost : UInt8)
  (nowMs : UInt32)

/-- Costs in integers: a discovery gives way to a cheaper request only, a request is not passed on
cheaper than it came, and a duplicate changes nothing. -/
structure SoundCosts : Prop where
  replaces : ∀ old ∈ node.findDiscovery rreq.routeRequestId originator,
    (node.handleRouteRequest selfShort isRouter previousHop originator rreq linkCost
      nowMs).1.findDiscovery rreq.routeRequestId originator ≠ some old →
    rreq.pathCost.toNat + linkCost.toNat < old.forwardCost.toNat
  rebroadcast : (node.handleRouteRequest selfShort isRouter previousHop originator rreq linkCost
      nowMs).2.rebroadcast = true →
    rreq.pathCost ≤ (node.handleRouteRequest selfShort isRouter previousHop originator rreq
      linkCost nowMs).2.pathCost
  duplicate : (node.handleRouteRequest selfShort isRouter previousHop originator rreq linkCost
      nowMs).2.duplicate = true →
    (node.handleRouteRequest selfShort isRouter previousHop originator rreq linkCost
      nowMs).1 = node

/-- The cost fits its byte, or the request is none the node takes, or it takes it as the first of
its discovery and passes nothing on. -/
def CostFits : Prop :=
  rreq.valid = false ∨ originator = selfShort ∨
    rreq.pathCost.toNat + linkCost.toNat < 256 ∨
    match node.findDiscovery rreq.routeRequestId originator with
    | some old => old.forwardCost.toNat + 256 ≤ rreq.pathCost.toNat + linkCost.toNat
    | none => isRouter = false ∨ rreq.destination = selfShort

variable {node selfShort isRouter previousHop originator rreq linkCost nowMs}

private theorem cost_toNat : (rreq.pathCost + linkCost).toNat =
    (rreq.pathCost.toNat + linkCost.toNat) % 256 := UInt8.toNat_add _ _

theorem soundCosts_of_dropped (hdropped : ¬ node.Takes selfShort originator rreq linkCost) :
    node.SoundCosts selfShort isRouter previousHop originator rreq linkCost nowMs := by
  have hdrop := @handleRouteRequest_dropped node selfShort originator previousHop isRouter rreq
    linkCost nowMs hdropped
  constructor
  · intro old hold hchanged
    rw [hdrop] at hchanged
    exact absurd hold hchanged
  · intro hsent
    rw [hdrop] at hsent
    cases hsent
  · intro _
    rw [hdrop]

theorem costFits_of_dropped (hhigh : linkCost ≤ 7)
    (hdropped : ¬ node.Takes selfShort originator rreq linkCost) :
    node.CostFits selfShort isRouter originator rreq linkCost := by
  have hpath := rreq.pathCost.toNat_lt
  have hhigh' : linkCost.toNat ≤ 7 := UInt8.le_iff_toNat_le.mp hhigh
  have hsum := @cost_toNat rreq linkCost
  by_contra hfits
  simp only [CostFits, not_or, Bool.not_eq_false, Nat.not_lt] at hfits
  obtain ⟨hvalid, hself, hwide, hstored⟩ := hfits
  refine hdropped ⟨hvalid, hself, fun old hold => ?_⟩
  rw [Option.mem_def.mp hold] at hstored
  rw [UInt8.lt_iff_toNat_lt]
  simp only at hstored
  omega

/-- A sum taken for its wrapped byte replaces a cheaper discovery or is passed on too cheap. -/
theorem costFits_of_sound (hne : node.discoveries ≠ []) (hhigh : linkCost ≤ 7)
    (htakes : node.Takes selfShort originator rreq linkCost)
    (hsound : node.SoundCosts selfShort isRouter previousHop originator rreq linkCost nowMs) :
    node.CostFits selfShort isRouter originator rreq linkCost := by
  have hpath := rreq.pathCost.toNat_lt
  have hhigh' : linkCost.toNat ≤ 7 := UInt8.le_iff_toNat_le.mp hhigh
  have hsum := @cost_toNat rreq linkCost
  obtain ⟨_, _, hbetter⟩ := id htakes
  obtain ⟨discoveries, hrecord⟩ :=
    record_isSome hne (requestEntry previousHop originator rreq linkCost nowMs)
  have hlookup := lookup_record rfl hrecord
  have htaken := @handleRouteRequest_taken node selfShort originator previousHop isRouter rreq
    linkCost nowMs htakes discoveries hrecord
  by_contra hfits
  simp only [CostFits, not_or, Bool.not_eq_false, Nat.not_lt] at hfits
  obtain ⟨_, _, hwide, hstored⟩ := hfits
  cases hfind : node.findDiscovery rreq.routeRequestId originator with
  | some old =>
    have hlt := UInt8.lt_iff_toNat_lt.mp (hbetter old hfind)
    have hcheaper := hsound.replaces old hfind (by
      rw [htaken]
      intro hsame
      have hentry := Option.some.inj (hlookup.symm.trans hsame)
      rw [← hentry] at hlt
      exact lt_irrefl _ hlt)
    have hold := old.forwardCost.toNat_lt
    omega
  | none =>
    rw [hfind] at hstored
    simp only [not_or, Bool.not_eq_false] at hstored
    have hsent := hsound.rebroadcast
    rw [htaken] at hsent
    simp only [if_neg hstored.2, hstored.1, if_true, UInt8.le_iff_toNat_le] at hsent
    have hless := hsent trivial
    omega

theorem soundCosts_of_fits (hne : node.discoveries ≠ []) (hlow : 1 ≤ linkCost)
    (hhigh : linkCost ≤ 7) (htakes : node.Takes selfShort originator rreq linkCost)
    (hfits : node.CostFits selfShort isRouter originator rreq linkCost) :
    node.SoundCosts selfShort isRouter previousHop originator rreq linkCost nowMs := by
  have hpath := rreq.pathCost.toNat_lt
  have hlow' : 1 ≤ linkCost.toNat := UInt8.le_iff_toNat_le.mp hlow
  have hhigh' : linkCost.toNat ≤ 7 := UInt8.le_iff_toNat_le.mp hhigh
  have hsum := @cost_toNat rreq linkCost
  obtain ⟨hvalid, hself, hbetter⟩ := id htakes
  obtain ⟨discoveries, hrecord⟩ :=
    record_isSome hne (requestEntry previousHop originator rreq linkCost nowMs)
  have htaken := @handleRouteRequest_taken node selfShort originator previousHop isRouter rreq
    linkCost nowMs htakes discoveries hrecord
  constructor
  · intro old hold _
    have hlt := UInt8.lt_iff_toNat_lt.mp (hbetter old hold)
    rcases hfits with hinvalid | hown | hnarrow | hstored
    · simp [hvalid] at hinvalid
    · exact absurd hown hself
    · omega
    · rw [Option.mem_def.mp hold] at hstored
      simp only at hstored
      omega
  · intro hsent
    rw [htaken] at hsent ⊢
    by_cases hdest : rreq.destination = selfShort
    · simp [hdest] at hsent
    cases isRouter with
    | false => simp [hdest] at hsent
    | true =>
      simp only [if_neg hdest, if_true, UInt8.le_iff_toNat_le]
      rcases hfits with hinvalid | hown | hnarrow | hstored
      · simp [hvalid] at hinvalid
      · exact absurd hown hself
      · omega
      · cases hfind : node.findDiscovery rreq.routeRequestId originator with
        | some old =>
          have hlt := UInt8.lt_iff_toNat_lt.mp (hbetter old hfind)
          rw [hfind] at hstored
          simp only at hstored
          omega
        | none =>
          rw [hfind] at hstored
          simp [hdest] at hstored
  · intro hduplicate
    rw [htaken] at hduplicate
    dsimp only at hduplicate
    split at hduplicate
    · cases hduplicate
    · split at hduplicate <;> cases hduplicate

/-- Costs are sound exactly where the byte of the sum does not pass for a better cost. -/
theorem soundCosts_iff (hne : node.discoveries ≠ []) (hlow : 1 ≤ linkCost) (hhigh : linkCost ≤ 7) :
    node.SoundCosts selfShort isRouter previousHop originator rreq linkCost nowMs ↔
      node.CostFits selfShort isRouter originator rreq linkCost := by
  by_cases htakes : node.Takes selfShort originator rreq linkCost
  · exact ⟨costFits_of_sound hne hhigh htakes, soundCosts_of_fits hne hlow hhigh htakes⟩
  · exact iff_of_true (soundCosts_of_dropped htakes) (costFits_of_dropped hhigh htakes)

private def costing (pathCost : UInt8) : NwkRouteRequestCommand :=
  { valid := true, routeRequestId := 9, destination := 0x0003, pathCost := pathCost }

/-- A router that has recorded a discovery at cost 5. -/
private def costed : ZigbeeRouting :=
  ((init (List.replicate 4 {})).handleRouteRequest 0x0002 true 0x0004 0x0001 (costing 3) 2 0).1

/-- A request at cost 257 takes the place of one at cost 5 and goes on at cost 1. -/
theorem cost_wraps :
    ((costed.findDiscovery 9 0x0001).map (·.forwardCost) = some 5 ∧
      ((costed.handleRouteRequest 0x0002 true 0x0005 0x0001 (costing 250) 7 1).1.findDiscovery 9
        0x0001).map (·.previousHop) = some 0x0005 ∧
      (costed.handleRouteRequest 0x0002 true 0x0005 0x0001 (costing 250) 7 1).2.pathCost = 1) ∧
    ¬ costed.SoundCosts 0x0002 true 0x0005 0x0001 (costing 250) 7 1 := by
  refine ⟨by decide, fun h => ?_⟩
  exact absurd (h.rebroadcast (by decide)) (by decide)

/-- The dearest cost that fits. -/
theorem soundCosts_dearest :
    (init (List.replicate 4 {})).SoundCosts 0x0002 true 0x0005 0x0001 (costing 248) 7 0 :=
  (soundCosts_iff (by decide) (by decide) (by decide)).mpr (.inr (.inr (.inl (by decide))))

end ZigbeeRouting

end NiusZigbee
