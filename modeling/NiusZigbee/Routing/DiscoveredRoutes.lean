import NiusZigbee.Routing.ReturnPath
import NiusZigbee.Routing.ReversePath

/-!
# Data over discovered routes

Only the originator and routers send a request on, so the reverse routes a discovery leaves behind
lead over nodes that pass data on as well. Whoever heard the request can talk to its originator.
-/

namespace NiusZigbee

open ZigbeeNwk ZigbeeRouting

namespace Query

variable {q : Query} {isRouter : UInt16 → Bool} {net : Network} {w : World}

theorem handleRouteRequest_router {node : ZigbeeRouting} {selfShort previousHop originator : UInt16}
    {isRouter : Bool} {rreq : NwkRouteRequestCommand} {linkCost : UInt8} {nowMs : UInt32}
    (h : (node.handleRouteRequest selfShort isRouter previousHop originator rreq linkCost
      nowMs).2.rebroadcast = true) : isRouter = true := by
  simp only [handleRouteRequest] at h
  split at h
  · cases h
  split at h
  · cases h
  split at h
  · cases h
  · split at h
    · cases h
    · split at h
      · next hrouter => exact hrouter
      · cases h

/-- A request is sent on by the originator or a router. -/
structure RouterInv (q : Query) (isRouter : UInt16 → Bool) (w : World) : Prop where
  sent : ∀ m ∈ w.requests, m.sender = q.originator ∨ isRouter m.sender = true
  hops : ∀ v entry, q.entry w v = some entry →
    entry.previousHop = q.originator ∨ isRouter entry.previousHop = true

theorem Initial.routerInv (h : q.Initial w) : q.RouterInv isRouter w where
  sent := by
    intro m hm
    rw [h.requests, List.mem_singleton] at hm
    exact Or.inl (by rw [hm])
  hops := by
    intro v entry hentry
    rw [h.entry] at hentry
    cases hentry

theorem step_routerInv (d : Delivery) (hinv : q.RouterInv isRouter w) (h : q.Enabled net w d) :
    q.RouterInv isRouter (q.step isRouter w d) := by
  cases d with
  | request msg receiver linkCost nowMs =>
    obtain ⟨hmem, -⟩ := id h
    have hsent : ∀ m ∈ (q.step isRouter w (.request msg receiver linkCost nowMs)).requests,
        m.sender = q.originator ∨ isRouter m.sender = true := by
      intro m hm
      simp only [step] at hm
      split at hm
      · next hset =>
        rcases List.mem_cons.mp hm with rfl | hm
        · exact Or.inr (handleRouteRequest_router hset)
        · exact hinv.sent m hm
      · exact hinv.sent m hm
    refine ⟨hsent, fun v e he => ?_⟩
    rcases step_request h with heq | ⟨entry, htakes⟩
    · rw [heq] at he
      exact hinv.hops v e he
    · by_cases hv : v = receiver
      · subst hv
        obtain rfl : entry = e := Option.some.inj (htakes.entry_self.symm.trans he)
        rw [htakes.previousHop]
        exact hinv.sent msg hmem
      · rw [htakes.entry_other hv] at he
        exact hinv.hops v e he
  | reply msg linkCost nowMs =>
    rcases step_reply h with heq | hpasses
    · rw [heq]
      exact hinv
    · refine ⟨?_, fun v e he => ?_⟩
      · rw [hpasses.requests]
        exact hinv.sent
      · rw [hpasses.entry_eq] at he
        exact hinv.hops v e he

theorem run_routerInv (hinit : q.Initial w) {deliveries : List Delivery}
    (hrun : Runs.Along (q.step isRouter) (q.Enabled net) w deliveries) :
    q.RouterInv isRouter (deliveries.foldl (q.step isRouter) w) :=
  hrun.invariant (fun _ d hinv h => step_routerInv d hinv h) hinit.routerInv

/-- A walk along previous hops visits nodes that heard the request until it ends, and passes only
routers in between. -/
theorem PreviousHop.visited (h : q.RouterInv isRouter w) {path : List UInt16}
    (hpath : path.IsChain (q.PreviousHop w)) :
    (∀ v ∈ path.dropLast, (q.entry w v).isSome) ∧
      ∀ v ∈ path.tail, v = q.originator ∨ isRouter v = true := by
  induction path with
  | nil => exact ⟨nofun, nofun⟩
  | cons v path ih =>
    cases path with
    | nil => exact ⟨nofun, nofun⟩
    | cons u path =>
      obtain ⟨⟨entry, hentry, hprev⟩, hrest⟩ := List.isChain_cons_cons.mp hpath
      obtain ⟨hheard, hrouters⟩ := ih hrest
      constructor
      · intro x hx
        rw [List.dropLast_cons_of_ne_nil (List.cons_ne_nil u path)] at hx
        rcases List.mem_cons.mp hx with rfl | hmem
        · rw [hentry]
          rfl
        · exact hheard x hmem
      · intro x hx
        rcases List.mem_cons.mp hx with rfl | hmem
        · exact hprev ▸ h.hops v entry hentry
        · exact hrouters x hmem

end Query

namespace DataPlane

variable {q : Query} {isRouter : UInt16 → Bool} {net : Network} {start : NiusZigbee.World}

/-- The nodes of the discovery as nodes that pass on data: node `v` has address `v`. -/
structure Carries (q : Query) (isRouter : UInt16 → Bool) (reached : NiusZigbee.World)
    (w : World UInt16) : Prop where
  address : ∀ v, w.address v = v
  routing : ∀ v, (w.node v).routing = reached.nodes v
  joined : ∀ v, q.Reached reached v → (w.node v).joined = true ∧ v < 0xFFF8
  role : ∀ v, isRouter v = true → (w.node v).role ≠ .endDevice

theorem walk_reached {reached : NiusZigbee.World} (hrouter : q.RouterInv isRouter reached)
    {v : UInt16} {relays : List UInt16}
    (hwalk : Descent.Walk (q.PreviousHop reached) (q.forwardCost reached) q.originator v
      (v :: (relays ++ [q.originator]))) :
    ∀ u ∈ v :: (relays ++ [q.originator]), q.Reached reached u := by
  have hheard := (Query.PreviousHop.visited hrouter hwalk.follows).1
  rw [← List.cons_append, List.dropLast_concat] at hheard
  intro u hu
  rw [← List.cons_append] at hu
  rcases List.mem_append.mp hu with hmem | hmem
  · exact Or.inr (hheard u hmem)
  · exact Or.inl (List.mem_singleton.mp hmem)

/-- The way back to the originator is ready for data. -/
theorem Carries.ready {reached : NiusZigbee.World} {w : World UInt16}
    (hw : Carries q isRouter reached w) (hinv : q.ReverseInv reached)
    (hrouter : q.RouterInv isRouter reached) {v : UInt16} {relays : List UInt16}
    (hwalk : Descent.Walk (q.PreviousHop reached) (q.forwardCost reached) q.originator v
      (v :: (relays ++ [q.originator])))
    (hcost : q.forwardCost reached v ≤ 30)
    (hroom : ∀ u, q.Reached reached u → ZigbeeRouteTable.HasRoom (w.node u).routing.routes v) :
    Ready w v q.originator relays := by
  obtain ⟨-, hrouters⟩ := Query.PreviousHop.visited hrouter hwalk.follows
  have hreached := walk_reached hrouter hwalk
  have hnext (x y : UInt16) (hxy : q.PreviousHop reached x y) :
      w.nextHop (w.address q.originator) x = w.address y := by
    obtain ⟨entry, hentry, rfl⟩ := hxy
    obtain ⟨route, hfind, hactive, hhop⟩ := hinv.routes x entry hentry
    rw [World.nextHop, hw.address, hw.address, hw.routing, nextHopFor, hfind]
    simp only [hactive, ne_eq, not_true_eq_false, if_false, hhop]
  refine ⟨⟨fun u hu => (hw.joined u (hreached u hu)).1, fun u hu => ?_, ?_, fun u hu => ?_⟩, ?_,
    fun u hu => ?_, ?_⟩
  · rw [hw.address]
    exact (hw.joined u (hreached u hu)).2
  · simp only [hw.address]
    exact hwalk.nodup
  · have hmem : u ∈ relays := by simpa using hu
    have hne : u ≠ q.originator := by
      have hnodup := (List.nodup_cons.mp hwalk.nodup).2
      rintro rfl
      exact (List.nodup_append.mp hnodup).2.2 _ hmem _ (List.mem_singleton_self _) rfl
    exact hw.role u ((hrouters u (List.mem_append_left _ hmem)).resolve_left hne)
  · exact hwalk.follows.imp fun x y => hnext x y
  · rw [hw.address]
    exact hroom u (hreached u (List.mem_cons_of_mem v hu))
  · have hlen := hwalk.length_le
    simp only [List.length_cons, List.length_append, List.length_nil] at hlen
    omega

/-- Whoever heard a request, at a cost of at most 30, can talk to its originator over the way the
request came: from every state a discovery can reach, whatever the two say arrives. -/
theorem talks_to_originator (hinit : q.Initial start) (deliveries : List Delivery)
    (hrun : Runs.Along (q.step isRouter) (q.Enabled net) start deliveries) {w : World UInt16}
    (hw : Carries q isRouter (deliveries.foldl (q.step isRouter) start) w) {v : UInt16}
    (hv : (q.entry (deliveries.foldl (q.step isRouter) start) v).isSome)
    (hcost : q.forwardCost (deliveries.foldl (q.step isRouter) start) v ≤ 30)
    (hroom : ∀ u, q.Reached (deliveries.foldl (q.step isRouter) start) u →
      ZigbeeRouteTable.HasRoom (w.node u).routing.routes v)
    {said : List (Said UInt16)} (hfirst : ∀ s ∈ said.head?, s.answer = false)
    (htakes : ∀ s ∈ said, ∀ u, q.Reached (deliveries.foldl (q.step isRouter) start) u →
      kBaseHeaderLen + s.payload.length ≤ (w.node u).maxNpdu) :
    ∃ relays, Descent.Walk (q.PreviousHop (deliveries.foldl (q.step isRouter) start))
        (q.forwardCost (deliveries.foldl (q.step isRouter) start)) q.originator v
        (v :: (relays ++ [q.originator])) ∧
      ∀ s ∈ said, s.arrival w v q.originator ∈
        (said.foldl (say v q.originator relays) w).arrived := by
  obtain ⟨hpaths, -⟩ := Query.reverse_paths_descend hinit deliveries hrun
  have hinv := Query.run_reverseInv hinit hrun
  obtain ⟨path, hwalk⟩ := hpaths v hv
  obtain ⟨rest, rfl⟩ : ∃ rest, path = v :: rest := by
    cases path with
    | nil => cases hwalk.start
    | cons x rest => exact ⟨rest, by rw [Option.some.inj hwalk.start]⟩
  have hne : v ≠ q.originator := by
    rintro rfl
    rw [hinv.origin] at hv
    cases hv
  obtain ⟨relays, rfl⟩ : ∃ relays, rest = relays ++ [q.originator] := by
    rcases List.eq_nil_or_concat rest with rfl | ⟨relays, last, rfl⟩
    · exact absurd (Option.some.inj hwalk.finish) hne
    · refine ⟨relays, ?_⟩
      have hfinish := hwalk.finish
      rw [List.concat_eq_append, ← List.cons_append, List.getLast?_concat] at hfinish
      rw [List.concat_eq_append, Option.some.inj hfinish]
  have hrouter := Query.run_routerInv hinit hrun
  have hready := hw.ready hinv hrouter hwalk hcost hroom
  have htaken : ∀ s ∈ said, s.Taken w v q.originator relays := fun s hs u hu =>
    htakes s hs u (walk_reached hrouter hwalk u hu)
  exact ⟨relays, hwalk, conversation_arrives hready hfirst htaken⟩

section Witness

/-- Node 0 looks for node 2, and node 1 is between them. -/
private def soughtStart : Query × NiusZigbee.World :=
  Query.originate (fun _ => .init (List.replicate 4 {})) 0 2 0

private def soughtHeard : List Delivery := [.request ⟨0, 0⟩ 1 1 10, .request ⟨1, 1⟩ 2 1 20]

private abbrev soughtNet : Network := Network.ofLinks [(0, 1, 1), (1, 2, 1)] (by simp)

private def sought : NiusZigbee.World :=
  soughtHeard.foldl (soughtStart.1.step fun v => v == 1) soughtStart.2

private theorem sought_other {v : UInt16} (h0 : v ≠ 0) (h1 : v ≠ 1) (h2 : v ≠ 2) :
    sought.nodes v = .init (List.replicate 4 {}) := by
  simp only [sought, soughtHeard, soughtStart, Query.originate, List.foldl_cons, List.foldl_nil,
    Query.step, Function.update_of_ne h0, Function.update_of_ne h1, Function.update_of_ne h2]

private theorem sought_cases {P : UInt16 → Prop} (h0 : P 0) (h1 : P 1) (h2 : P 2)
    (hother : ∀ v, sought.nodes v = .init (List.replicate 4 {}) → P v) (v : UInt16) : P v := by
  by_cases hv0 : v = 0
  · exact hv0 ▸ h0
  by_cases hv1 : v = 1
  · exact hv1 ▸ h1
  by_cases hv2 : v = 2
  · exact hv2 ▸ h2
  · exact hother v (sought_other hv0 hv1 hv2)

private def soughtNode (v : UInt16) : Node where
  role := if v = 1 then .router else .endDevice
  sourceRouting := false
  joined := true
  shortAddress := v
  parentAddress := 0
  routing := sought.nodes v

theorem talks_to_originator_sought :
    ∃ relays, Descent.Walk (soughtStart.1.PreviousHop sought) (soughtStart.1.forwardCost sought) 0 2
        (2 :: (relays ++ [0])) ∧
      ∀ s ∈ [(⟨false, [0x41], fun _ => 30⟩ : Said UInt16), ⟨true, [0x42], fun _ => 40⟩],
        s.arrival { node := soughtNode } 2 0 ∈
          ([⟨false, [0x41], fun _ => 30⟩, ⟨true, [0x42], fun _ => 40⟩].foldl (say 2 0 relays)
            { node := soughtNode }).arrived := by
  have hcarries : Carries soughtStart.1 (fun v => v == 1) sought { node := soughtNode } :=
    { address := fun _ => rfl
      routing := fun _ => rfl
      joined := by
        refine sought_cases (fun _ => ⟨rfl, by decide⟩) (fun _ => ⟨rfl, by decide⟩)
          (fun _ => ⟨rfl, by decide⟩) fun v hv hreached => ?_
        rcases hreached with rfl | hsome
        · exact ⟨rfl, by decide⟩
        · have hnone : soughtStart.1.entry sought v = none := by
            rw [Query.entry, hv]
            decide
          rw [hnone] at hsome
          cases hsome
      role := by
        intro v hv
        obtain rfl : v = 1 := by simpa using hv
        decide }
  exact talks_to_originator (q := soughtStart.1) (Query.originate_initial (fun _ => rfl) 2 0)
    soughtHeard (by decide : Runs.Along _ (soughtStart.1.Enabled soughtNet) soughtStart.2 _)
    hcarries (by decide) (by decide)
    (sought_cases (fun _ => by decide) (fun _ => by decide) (fun _ => by decide)
      fun v hv _ => by
        change ZigbeeRouteTable.HasRoom (sought.nodes v).routes 2
        rw [hv]
        decide)
    (by simp) (fun s hs u _ => by
      have hlen : s.payload.length = 1 := by
        have hall : ∀ t ∈ [(⟨false, [0x41], fun _ => 30⟩ : Said UInt16),
            ⟨true, [0x42], fun _ => 40⟩], t.payload.length = 1 := by simp
        exact hall s hs
      rw [hlen]
      exact (by decide : kBaseHeaderLen + 1 ≤ CC2530Radio.maxNpdu false))

end Witness

end DataPlane

end NiusZigbee
