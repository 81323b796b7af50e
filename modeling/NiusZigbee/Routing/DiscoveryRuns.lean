import NiusZigbee.Library.Runs
import NiusZigbee.Routing.Discovery

/-!
# Runs of one node's discoveries

The calls of a node in any order. The status of a route and the discoveries on record are kept in
two tables; what a node has asked for itself is in neither, and is kept beside them as history.
-/

namespace NiusZigbee

open ZigbeeNwk ZigbeeRouteTable

namespace ZigbeeRouting

/-- A call on the routing object. -/
inductive Call where
  | originateDiscovery (destination : UInt16) (nowMs : UInt32)
  | handleRouteRequest (selfShort : UInt16) (isRouter : Bool) (previousHop originator : UInt16)
      (rreq : NwkRouteRequestCommand) (linkCost : UInt8) (nowMs : UInt32)
  | handleRouteReply (selfShort previousHop : UInt16) (rrep : NwkRouteReplyCommand)
      (linkCost : UInt8) (nowMs : UInt32)
  | expire (nowMs : UInt32)

def next (node : ZigbeeRouting) : Call → ZigbeeRouting
  | .originateDiscovery destination nowMs => (node.originateDiscovery destination nowMs).1
  | .handleRouteRequest selfShort isRouter previousHop originator rreq linkCost nowMs =>
    (node.handleRouteRequest selfShort isRouter previousHop originator rreq linkCost nowMs).1
  | .handleRouteReply selfShort previousHop rrep linkCost nowMs =>
    (node.handleRouteReply selfShort previousHop rrep linkCost nowMs).1
  | .expire nowMs => node.expire nowMs

/-- The route a call upserts, if any, and the status it gets. -/
def upserts (node : ZigbeeRouting) : Call → Option (UInt16 × ZigbeeRouteStatus)
  | .originateDiscovery destination _ => some (destination, .discoveryUnderway)
  | .handleRouteRequest selfShort _ _ originator rreq linkCost _ =>
    if node.Takes selfShort originator rreq linkCost then some (originator, .active) else none
  | .handleRouteReply selfShort _ rrep _ _ =>
    if rrep.valid = true ∧ node.Involved selfShort rrep.routeRequestId rrep.originator then
      some (rrep.responder, .active)
    else none
  | .expire _ => none

theorem next_cases {node : ZigbeeRouting} (hne : node.discoveries ≠ []) (call : Call) :
    (node.next call).discoveries ≠ [] ∧
      ((node.upserts call = none ∧ (node.next call).routes = node.routes) ∨
        ∃ dstAddress status nextHop nowMs, node.upserts call = some (dstAddress, status) ∧
          (node.next call).routes =
            upsert node.routes dstAddress nextHop status false false nowMs) := by
  cases call with
  | originateDiscovery destination nowMs => exact ⟨hne, .inr ⟨_, _, _, _, rfl, rfl⟩⟩
  | handleRouteRequest selfShort isRouter previousHop originator rreq linkCost nowMs =>
    by_cases htakes : node.Takes selfShort originator rreq linkCost
    · obtain ⟨discoveries, hrecord⟩ :=
        record_isSome hne (requestEntry previousHop originator rreq linkCost nowMs)
      have hdiscoveries : discoveries ≠ [] := by
        obtain ⟨i, _, rfl⟩ := Option.map_eq_some_iff.mp hrecord
        simpa using hne
      simp only [next, upserts, if_pos htakes, handleRouteRequest_taken htakes hrecord]
      exact ⟨hdiscoveries, .inr ⟨_, _, _, _, rfl, rfl⟩⟩
    · simp only [next, upserts, if_neg htakes, handleRouteRequest_dropped htakes]
      exact ⟨hne, .inl ⟨trivial, trivial⟩⟩
  | handleRouteReply selfShort previousHop rrep linkCost nowMs =>
    simp only [next, upserts, (handleRouteReply_next node selfShort previousHop rrep linkCost
      nowMs).1]
    split
    · exact ⟨hne, .inr ⟨_, _, _, _, rfl, rfl⟩⟩
    · exact ⟨hne, .inl ⟨rfl, rfl⟩⟩
  | expire nowMs => exact ⟨by simpa [next, expire] using hne, .inl ⟨rfl, rfl⟩⟩

/-- What every run keeps: slots for discoveries, and one route for each destination. -/
structure Sound (node : ZigbeeRouting) : Prop where
  discoveries : node.discoveries ≠ []
  routes : SlotTable.Distinct destination node.routes

theorem init_sound (capacity : UInt8) : (init (List.replicate capacity.toNat {})).Sound where
  discoveries := List.cons_ne_nil _ _
  routes := SlotTable.distinct_of_unused fun e he => by rw [List.eq_of_mem_replicate he]; rfl

theorem Sound.next {node : ZigbeeRouting} (h : node.Sound) (call : Call) :
    (node.next call).Sound := by
  obtain ⟨hne, hroutes⟩ := next_cases h.discoveries call
  refine ⟨hne, ?_⟩
  rcases hroutes with ⟨_, hsame⟩ | ⟨_, _, _, _, _, hupsert⟩
  · rw [hsame]
    exact h.routes
  · rw [hupsert]
    exact upsert_distinct h.routes

theorem run_sound {node : ZigbeeRouting} (h : node.Sound) (calls : List Call) :
    (calls.foldl next node).Sound :=
  Runs.invariant (fun _ call h => h.next call) h calls

/-! ## Replies nobody asked for -/

/-- The node with the discoveries it started itself, the latest first. -/
structure Asking where
  node : ZigbeeRouting
  asked : List (UInt16 × UInt8)

def ask (s : Asking) (call : Call) : Asking where
  node := s.node.next call
  asked :=
    match call with
    | .originateDiscovery destination nowMs =>
      (destination, (s.node.originateDiscovery destination nowMs).2) :: s.asked
    | _ => s.asked

/-- The node's latest discovery of the destination has this id, and its route is still under
discovery. -/
def Asking.Outstanding (s : Asking) (requestId : UInt8) (destination : UInt16) : Prop :=
  s.asked.lookup destination = some requestId ∧
    (find s.node.routes destination).any (·.status = .discoveryUnderway) = true

/-- The reply answers a discovery the node started and still has outstanding, or one it relayed. -/
def Asking.Solicited (s : Asking) (selfShort : UInt16) (rrep : NwkRouteReplyCommand) : Prop :=
  (rrep.originator = selfShort ∧ s.Outstanding rrep.routeRequestId rrep.responder) ∨
    (s.node.findDiscovery rrep.routeRequestId rrep.originator).isSome = true

instance (s : Asking) (selfShort : UInt16) (rrep : NwkRouteReplyCommand) :
    Decidable (s.Solicited selfShort rrep) :=
  inferInstanceAs (Decidable ((_ ∧ _ ∧ _) ∨ _))

/-- After any run a reply has an effect only where it was asked for, unless it names the node as
the originator of a discovery that is not outstanding. -/
theorem reply_solicited_iff (capacity : UInt8) (calls : List Call)
    (selfShort previousHop : UInt16) (rrep : NwkRouteReplyCommand) (linkCost : UInt8)
    (nowMs : UInt32) :
    let s := calls.foldl ask ⟨init (List.replicate capacity.toNat {}), []⟩
    let r := s.node.handleRouteReply selfShort previousHop rrep linkCost nowMs
    (r.1.routes ≠ s.node.routes ∨ r.2.routeInstalled = true → s.Solicited selfShort rrep) ↔
      (rrep.valid = true → rrep.originator = selfShort → s.Solicited selfShort rrep) := by
  intro s r
  obtain ⟨hnext, hinstalled⟩ :=
    handleRouteReply_next s.node selfShort previousHop rrep linkCost nowMs
  constructor
  · intro h hvalid hself
    exact h (.inr (hinstalled.mpr ⟨hvalid, hself⟩))
  · intro h heffect
    have htakes : rrep.valid = true ∧
        s.node.Involved selfShort rrep.routeRequestId rrep.originator := by
      by_contra hout
      rcases heffect with hchanged | hsome
      · refine hchanged ?_
        change (s.node.handleRouteReply selfShort previousHop rrep linkCost nowMs).1.routes = _
        rw [hnext, if_neg hout]
      · obtain ⟨hvalid, hself⟩ := hinstalled.mp hsome
        exact hout ⟨hvalid, .inl hself⟩
    rcases htakes.2 with hself | hrelayed
    · exact h htakes.1 hself
    · exact .inr hrelayed

/-- A reply out of the blue routes all traffic for its responder to its sender. -/
theorem unsolicited_reply_installs :
    let rrep : NwkRouteReplyCommand :=
      { valid := true, routeRequestId := 7, originator := 0x0001, responder := 0x0000 }
    let s := [].foldl ask ⟨init (List.replicate (1 : UInt8).toNat {}), []⟩
    let r := s.node.handleRouteReply 0x0001 0x0666 rrep 1 0
    (r.1.nextHopFor 0x0000 = 0x0666 ∧ r.1.routes ≠ s.node.routes ∧ r.2.routeInstalled = true) ∧
      ¬ s.Solicited 0x0001 rrep := by
  decide

/-! ## Discoveries that fail -/

/-- The call neither starts a discovery of the destination nor handles a reply for it. -/
def Call.Waits (destination : UInt16) : Call → Prop
  | .originateDiscovery other _ => other ≠ destination
  | .handleRouteReply _ _ rrep _ _ => rrep.responder ≠ destination
  | _ => True

/-- The call takes the route to the destination out of its table or replaces it. -/
def Disturbs (destination : UInt16) (node : ZigbeeRouting) (call : Call) : Prop :=
  ∃ route ∈ node.upserts call,
    route.1 = destination ∨ Evicts node.routes route.1 destination

/-- The route to the destination is under discovery. -/
def Pending (destination : UInt16) (node : ZigbeeRouting) : Prop :=
  ∃ route ∈ find node.routes destination, route.status = .discoveryUnderway

section Pending

variable {node : ZigbeeRouting} {destination : UInt16} {call : Call}

theorem Call.Waits.active (hwaits : call.Waits destination) {status : ZigbeeRouteStatus}
    (h : node.upserts call = some (destination, status)) : status = .active := by
  cases call with
  | originateDiscovery other nowMs =>
    simp only [upserts, Option.some.injEq, Prod.mk.injEq] at h
    exact absurd h.1 hwaits
  | handleRouteRequest =>
    simp only [upserts, Option.ite_none_right_eq_some, Option.some.injEq, Prod.mk.injEq] at h
    exact h.2.2.symm
  | handleRouteReply =>
    simp only [upserts, Option.ite_none_right_eq_some, Option.some.injEq, Prod.mk.injEq] at h
    exact h.2.2.symm
  | expire => cases h

theorem find_next_kept (h : node.Sound) (hkept : ¬ Disturbs destination node call) :
    find (node.next call).routes destination = find node.routes destination := by
  rcases (next_cases h.discoveries call).2 with ⟨_, hsame⟩ | ⟨other, _, _, _, hroute, hupsert⟩
  · rw [hsame]
  · rw [hupsert]
    apply find_upsert_kept
    · exact fun hevicts => hkept ⟨_, hroute, .inr hevicts⟩
    · exact fun heq => hkept ⟨_, hroute, .inl heq.symm⟩

theorem not_pending_of_disturbs (h : node.Sound) (hwaits : call.Waits destination)
    (hdisturbs : Disturbs destination node call) : ¬ Pending destination (node.next call) := by
  obtain ⟨route, hroute, hcase⟩ := hdisturbs
  rcases (next_cases h.discoveries call).2 with
    ⟨hnone, _⟩ | ⟨other, status, _, _, hsome, hupsert⟩
  · rw [Option.mem_def, hnone] at hroute
    cases hroute
  obtain rfl : route = (other, status) := Option.some.inj (hroute.symm.trans hsome)
  rintro ⟨pending, hfind, hunderway⟩
  rw [hupsert, Option.mem_def] at hfind
  by_cases hself : other = destination
  · subst hself
    by_cases hempty : node.routes = []
    · rw [hempty, upsert_nil] at hfind
      cases hfind
    · rw [find_upsert hempty] at hfind
      obtain rfl := Option.some.inj hfind
      rw [hwaits.active hsome] at hunderway
      cases hunderway
  · rw [find_upsert_evicted h.routes (hcase.resolve_left hself) (Ne.symm hself)] at hfind
    cases hfind

/-- A route is under discovery at the end of a run just when it was at its start and no call has
disturbed it. -/
theorem pending_run_iff (h : node.Sound) {calls : List Call}
    (hwaits : ∀ call ∈ calls, call.Waits destination) :
    Pending destination (calls.foldl next node) ↔
      Pending destination node ∧
        Runs.Along next (fun node call => ¬ Disturbs destination node call) node calls := by
  induction calls generalizing node with
  | nil => simp [Runs.Along]
  | cons call calls ih =>
    have hcall := hwaits call List.mem_cons_self
    rw [List.foldl_cons, ih (h.next call) fun c hc => hwaits c (List.mem_cons_of_mem call hc)]
    by_cases hdisturbs : Disturbs destination node call
    · have hgone := not_pending_of_disturbs h hcall hdisturbs
      simp [Runs.Along, hdisturbs, hgone]
    · have hsame : Pending destination (node.next call) ↔ Pending destination node := by
        rw [Pending, Pending, find_next_kept h hdisturbs]
      simp [Runs.Along, hdisturbs, hsame]

theorem next_routes_length (h : node.Sound) (call : Call) :
    (node.next call).routes.length = node.routes.length := by
  rcases (next_cases h.discoveries call).2 with ⟨_, hsame⟩ | ⟨_, _, _, _, _, hupsert⟩
  · rw [hsame]
  · rw [hupsert, upsert_length]

theorem run_routes_length (h : node.Sound) (calls : List Call) :
    (calls.foldl next node).routes.length = node.routes.length := by
  induction calls generalizing node with
  | nil => rfl
  | cons call calls ih => rw [List.foldl_cons, ih (h.next call), next_routes_length h]

end Pending

/-- However long after a discovery that got no reply, `expire` leaves its route under discovery,
unless the table has no slot or a request from the destination or another route has taken its
place. -/
theorem failed_discovery_iff (capacity : UInt8) (before calls : List Call) (destination : UInt16)
    (nowMs laterMs : UInt32) (hwaits : ∀ call ∈ calls, call.Waits destination) :
    let started := ((before.foldl next
      (init (List.replicate capacity.toNat {}))).originateDiscovery destination nowMs).1
    let node := calls.foldl next started
    ((∀ route ∈ find (node.expire laterMs).routes destination,
        route.status ≠ .discoveryUnderway) ∧
      ∀ other, other ≠ destination →
        find (node.expire laterMs).routes other = find node.routes other) ↔
    (capacity = 0 ∨
      ¬ Runs.Along next (fun node call => ¬ Disturbs destination node call) started calls) := by
  intro started node
  have hbefore := run_sound (init_sound capacity) before
  have hlength := run_routes_length (init_sound capacity) before
  have hstarted : started.Sound := hbefore.next (.originateDiscovery destination nowMs)
  have hpending : Pending destination started ↔ capacity ≠ 0 := by
    by_cases hempty : capacity = 0
    · subst hempty
      have hnil : (before.foldl next (init (List.replicate (0 : UInt8).toNat {}))).routes = [] :=
        List.eq_nil_of_length_eq_zero hlength
      simp only [started, Pending, originateDiscovery, hnil, upsert_nil]
      simp [find, SlotTable.lookup]
    · have hne : (before.foldl next (init (List.replicate capacity.toNat {}))).routes ≠ [] := by
        intro hnil
        rw [hnil] at hlength
        simp only [init, List.length_nil, List.length_replicate] at hlength
        exact hempty (UInt8.toNat_inj.mp hlength.symm)
      refine ⟨fun _ => hempty, fun _ => ?_⟩
      exact ⟨_, find_upsert hne, rfl⟩
  have hrun : Pending destination node ↔ _ := pending_run_iff hstarted hwaits
  have hleft : (∀ route ∈ find (node.expire laterMs).routes destination,
      route.status ≠ .discoveryUnderway) ↔ ¬ Pending destination node := by
    simp [Pending, expire]
  have hothers : ∀ other, other ≠ destination →
      find (node.expire laterMs).routes other = find node.routes other := fun _ _ => rfl
  rw [and_iff_left hothers, hleft, hrun, hpending, not_and_or, not_not]

/-- A discovery that nobody answers is under way for ever. -/
theorem failed_discovery_pending :
    let started := ((init (List.replicate (1 : UInt8).toNat {})).originateDiscovery 0x0000 0).1
    (find (started.expire 20000).routes 0x0000).map (·.status) = some .discoveryUnderway := by
  decide

/-- A request from the destination itself, while its discovery is under way. -/
theorem failed_discovery_reversed :
    let started := ((init (List.replicate (1 : UInt8).toNat {})).originateDiscovery 0x0000 0).1
    let request : Call := .handleRouteRequest 0x0001 true 0x0002 0x0000
      { valid := true, routeRequestId := 3, destination := 0x0004 } 1 500
    ∀ route ∈ find ((started.next request).expire 20000).routes 0x0000,
      route.status ≠ .discoveryUnderway := by
  intro started request
  have hwaits : ∀ call ∈ [request], call.Waits 0x0000 := by
    intro call hcall
    obtain rfl := List.mem_singleton.mp hcall
    trivial
  refine ((failed_discovery_iff 1 [] [request] 0x0000 0 20000 hwaits).mpr (.inr fun h => ?_)).1
  exact h.1 ⟨(0x0000, .active), by decide, .inl rfl⟩

end ZigbeeRouting

end NiusZigbee
