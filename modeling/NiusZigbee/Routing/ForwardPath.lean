import NiusZigbee.Routing.ReversePath

/-!
# Forward paths and the cost of replies

A Route Reply is installed whatever it costs, unlike a Route Request. Where no node replaces its
next hop by a reply that costs more than the best it has taken, the best costs descend along the
next hops and there is no loop; two replies that cross can otherwise point two nodes at each other.
-/

namespace NiusZigbee

open ZigbeeNwk ZigbeeRouting

namespace Query

variable (q : Query) (isRouter : UInt16 → Bool)

/-- The active next hop towards the destination. -/
def NextHop (w : World) (v u : UInt16) : Prop :=
  (w.nodes v).routeIsActive q.request.destination = true ∧
    (w.nodes v).nextHopFor q.request.destination = u

instance (w : World) (v u : UInt16) : Decidable (q.NextHop w v u) :=
  inferInstanceAs (Decidable (_ ∧ _))

/-- The destination, or a node that has taken a reply. -/
def Answered (w : World) (v : UInt16) : Prop :=
  v = q.request.destination ∨ (w.best v).isSome

/-- The cost of the best reply taken; 0 at the destination. -/
def replyCost (w : World) (v : UInt16) : Nat :=
  if v = q.request.destination then 0 else (w.best v).getD 0

/-- A reply replaces the receiver's next hop only if it costs no more than the best one taken. -/
def KeepsBest (w : World) : Delivery → Prop
  | .request _ _ _ _ => True
  | .reply msg linkCost _ => ∀ best, w.best msg.receiver = some best →
      msg.pathCost.toNat + linkCost.toNat ≤ best ∨
        (w.nodes msg.receiver).nextHopFor q.request.destination = msg.sender

instance (w : World) : ∀ d, Decidable (q.KeepsBest w d)
  | .request _ _ _ _ => isTrue trivial
  | .reply msg linkCost _ =>
    inferInstanceAs (Decidable (∀ best ∈ w.best msg.receiver,
      msg.pathCost.toNat + linkCost.toNat ≤ best ∨
        (w.nodes msg.receiver).nextHopFor q.request.destination = msg.sender))

structure ForwardInv (w : World) : Prop where
  sent : ∀ m ∈ w.requests, m.sender ≠ q.request.destination
  previous : ∀ v entry, q.entry w v = some entry → entry.previousHop ≠ q.request.destination
  replies : ∀ m ∈ w.replies, m.receiver ≠ q.request.destination ∧ q.Answered w m.sender ∧
    q.replyCost w m.sender ≤ m.pathCost.toNat
  hops : ∀ v u, q.NextHop w v u → q.Answered w u ∧ q.replyCost w u < q.replyCost w v

variable {q isRouter} {net : Network} {w w' : World}

theorem nextHop_congr {v : UInt16}
    (h : ZigbeeRouteTable.find (w'.nodes v).routes q.request.destination =
      ZigbeeRouteTable.find (w.nodes v).routes q.request.destination) (u : UInt16) :
    q.NextHop w' v u ↔ q.NextHop w v u := by
  rw [NextHop, NextHop, routeIsActive, routeIsActive, nextHopFor_congr h]

theorem Initial.forwardInv (h : q.Initial w) (hne : q.request.destination ≠ q.originator)
    (hnone : ∀ v, (w.nodes v).routeIsActive q.request.destination = false) : q.ForwardInv w where
  sent := by
    intro m hm
    rw [h.requests, List.mem_singleton] at hm
    subst hm
    exact hne.symm
  previous := by
    intro v entry hentry
    simp [h.entry] at hentry
  replies := by
    intro m hm
    simp [h.replies] at hm
  hops := by
    intro v u hu
    simp [NextHop, hnone] at hu

/-! ## A node takes a request -/

theorem Takes.forwardInv {msg : RequestMsg} {receiver : UInt16} {linkCost : UInt8}
    {entry : ZigbeeRouteDiscoveryEntry} (hne : q.request.destination ≠ q.originator)
    (hinv : q.ForwardInv w) (hmem : msg ∈ w.requests)
    (h : Takes q w w' msg receiver linkCost entry) : q.ForwardInv w' := by
  have hsender := hinv.sent msg hmem
  have hcost (v : UInt16) : q.replyCost w' v = q.replyCost w v := by
    rw [replyCost, replyCost, h.best]
  have hanswered (v : UInt16) : q.Answered w' v ↔ q.Answered w v := by
    rw [Answered, Answered, h.best]
  have hroute (v : UInt16) : ZigbeeRouteTable.find (w'.nodes v).routes q.request.destination =
      ZigbeeRouteTable.find (w.nodes v).routes q.request.destination := by
    by_cases hv : v = receiver
    · subst hv
      exact h.recorded.others _ hne
    · rw [h.others v hv]
  refine ⟨?_, ?_, ?_, ?_⟩
  · intro m hm
    rcases h.requests m hm with hold | ⟨rfl, hdest⟩
    · exact hinv.sent m hold
    · exact hdest
  · intro v e he
    by_cases hv : v = receiver
    · subst hv
      obtain rfl : entry = e := Option.some.inj (h.entry_self.symm.trans he)
      rw [h.previousHop]
      exact hsender
    · rw [h.entry_other hv] at he
      exact hinv.previous v e he
  · intro m hm
    rw [hanswered, hcost]
    rcases h.replies m hm with hold | ⟨rfl, hdest⟩
    · exact hinv.replies m hold
    · exact ⟨hsender, Or.inl hdest, by simp [replyCost, hdest]⟩
  · intro v u hu
    rw [hanswered, hcost, hcost]
    exact hinv.hops v u ((nextHop_congr (hroute v) u).mp hu)

/-! ## A node takes a reply -/

section Passes

variable {msg : ReplyMsg} {linkCost : UInt8}

theorem Passes.best_self (h : Passes q w w' msg linkCost)
    (hdest : msg.receiver ≠ q.request.destination) :
    (w'.best msg.receiver).isSome ∧ q.replyCost w' msg.receiver =
      (w.best msg.receiver).elim (msg.pathCost.toNat + linkCost.toNat)
        (min (msg.pathCost.toNat + linkCost.toNat)) := by
  simp only [replyCost, if_neg hdest, h.best, Function.update_self, Option.isSome_some,
    Option.getD_some, and_self]

theorem Passes.replyCost_other (h : Passes q w w' msg linkCost) {v : UInt16}
    (hv : v ≠ msg.receiver) : (q.Answered w' v ↔ q.Answered w v) ∧
      q.replyCost w' v = q.replyCost w v := by
  simp only [Answered, replyCost, h.best, Function.update_of_ne hv, and_self]

theorem Passes.replyCost_le (h : Passes q w w' msg linkCost)
    (hdest : msg.receiver ≠ q.request.destination) {v : UInt16} (hv : q.Answered w v) :
    q.Answered w' v ∧ q.replyCost w' v ≤ q.replyCost w v := by
  by_cases hself : v = msg.receiver
  · subst hself
    obtain ⟨hsome, hcost⟩ := h.best_self hdest
    obtain ⟨best, hbest⟩ := Option.isSome_iff_exists.mp (hv.resolve_left hdest)
    refine ⟨Or.inr hsome, ?_⟩
    rw [hcost, replyCost, if_neg hdest, hbest]
    exact Nat.min_le_right _ _
  · obtain ⟨ha, hc⟩ := h.replyCost_other hself
    exact ⟨ha.mpr hv, Nat.le_of_eq hc⟩

/-- The receiver's new best cost is still above the sender's. -/
theorem Passes.sender_below (hinv : q.ForwardInv w) (hmem : msg ∈ w.replies)
    (hlink : 1 ≤ linkCost.toNat) (hkeep : q.KeepsBest w (.reply msg linkCost 0))
    (hactive : (w'.nodes msg.receiver).routeIsActive q.request.destination = true)
    (h : Passes q w w' msg linkCost) :
    q.replyCost w' msg.sender < q.replyCost w' msg.receiver := by
  obtain ⟨hdest, hanswered, hpath⟩ := hinv.replies msg hmem
  have hle := (h.replyCost_le hdest hanswered).2
  rw [(h.best_self hdest).2]
  cases hbest : w.best msg.receiver with
  | none =>
    simp only [Option.elim_none]
    omega
  | some best =>
    simp only [Option.elim_some]
    rcases hkeep best hbest with hcost | hsame
    · omega
    · -- the next hop stays, so it was active and its cost below the old best
      obtain ⟨route, hfind, -, hnext⟩ := h.installed.route
      obtain ⟨route', hfind', hstatus', hnext'⟩ := nextHopFor_active hactive
      obtain rfl : route = route' := Option.some.inj (hfind.symm.trans hfind')
      have hold : q.NextHop w msg.receiver msg.sender := by
        refine ⟨?_, hsame⟩
        rw [routeIsActive, hsame, ← hnext, ← hnext']
        exact hactive
      have hbelow := (hinv.hops _ _ hold).2
      have hself : q.replyCost w msg.receiver = best := by
        rw [replyCost, if_neg hdest, hbest, Option.getD_some]
      omega

theorem Passes.forwardInv (hinv : q.ForwardInv w) (hmem : msg ∈ w.replies)
    (hlink : 1 ≤ linkCost.toNat) (hkeep : q.KeepsBest w (.reply msg linkCost 0))
    (h : Passes q w w' msg linkCost) : q.ForwardInv w' := by
  obtain ⟨hdest, hanswered, hpath⟩ := hinv.replies msg hmem
  refine ⟨?_, ?_, ?_, ?_⟩
  · rw [h.requests]
    exact hinv.sent
  · intro v e he
    rw [h.entry_eq] at he
    exact hinv.previous v e he
  · intro m hm
    rcases h.replies m hm with hold | ⟨hsender, hcost, entry, hentry, hto⟩
    · obtain ⟨hm1, hm2, hm3⟩ := hinv.replies m hold
      obtain ⟨hm2', hm3'⟩ := h.replyCost_le hdest hm2
      exact ⟨hm1, hm2', by omega⟩
    · obtain ⟨hsome, hself⟩ := h.best_self hdest
      refine ⟨hto ▸ hinv.previous _ _ hentry, Or.inr (hsender ▸ hsome), ?_⟩
      rw [hsender, hself, hcost]
      cases w.best msg.receiver with
      | none => exact Nat.le_refl _
      | some best => exact Nat.min_le_left _ _
  · intro v u hu
    by_cases hv : v = msg.receiver
    · subst hv
      obtain ⟨route, hfind, -, hnext⟩ := h.installed.route
      obtain ⟨route', hfind', -, hnext'⟩ := nextHopFor_active hu.1
      obtain rfl : route = route' := Option.some.inj (hfind.symm.trans hfind')
      obtain rfl : msg.sender = u := by rw [← hu.2, hnext', hnext]
      exact ⟨(h.replyCost_le hdest hanswered).1,
        h.sender_below hinv hmem hlink hkeep hu.1⟩
    · have hroute : ZigbeeRouteTable.find (w'.nodes v).routes q.request.destination =
          ZigbeeRouteTable.find (w.nodes v).routes q.request.destination := by rw [h.others v hv]
      obtain ⟨ha, hless⟩ := hinv.hops v u ((nextHop_congr hroute u).mp hu)
      obtain ⟨ha', hle⟩ := h.replyCost_le hdest ha
      exact ⟨ha', by rw [(h.replyCost_other hv).2]; omega⟩

end Passes

/-! ## Runs -/

theorem step_forwardInv (hne : q.request.destination ≠ q.originator) (d : Delivery)
    (hinv : q.ForwardInv w) (h : q.Enabled net w d) (hkeep : q.KeepsBest w d) :
    q.ForwardInv (q.step isRouter w d) := by
  cases d with
  | request msg receiver linkCost nowMs =>
    obtain ⟨hmem, -⟩ := id h
    rcases step_request h with heq | ⟨entry, htakes⟩
    · rw [heq]
      exact hinv
    · exact htakes.forwardInv hne hinv hmem
  | reply msg linkCost nowMs =>
    obtain ⟨hmem, hlink, -⟩ := id h
    rcases step_reply h with heq | hpasses
    · rw [heq]
      exact hinv
    · exact hpasses.forwardInv hinv hmem (net.cost_range _ _ _ hlink).1 hkeep

theorem run_forwardInv (hinit : q.Initial w) (hne : q.request.destination ≠ q.originator)
    (hnone : ∀ v, (w.nodes v).routeIsActive q.request.destination = false)
    {deliveries : List Delivery}
    (hrun : Runs.Along (q.step isRouter) (fun w d => q.Enabled net w d ∧ q.KeepsBest w d) w
      deliveries) : q.ForwardInv (deliveries.foldl (q.step isRouter) w) :=
  hrun.invariant (fun _ d hinv h => step_forwardInv hne d hinv h.1 h.2)
    (hinit.forwardInv hne hnone)

/-- Who looks for itself is never answered, and is reached only over reverse routes. -/
def OnlyReverse (q : Query) (w : World) : Prop :=
  ∀ v, (w.nodes v).routeIsActive q.originator = true → (q.entry w v).isSome

theorem step_onlyReverse (heq : q.request.destination = q.originator) (d : Delivery)
    (hinv : q.ReverseInv w ∧ q.OnlyReverse w) (h : q.Enabled net w d) :
    q.ReverseInv (q.step isRouter w d) ∧ q.OnlyReverse (q.step isRouter w d) := by
  refine ⟨step_reverseInv d hinv.1 h, ?_⟩
  cases d with
  | request msg receiver linkCost nowMs =>
    rcases step_request h with hsame | ⟨entry, htakes⟩
    · rw [hsame]
      exact hinv.2
    · intro v hv
      by_cases hself : v = receiver
      · subst hself
        rw [htakes.entry_self]
        rfl
      · rw [htakes.entry_other hself]
        rw [htakes.others v hself] at hv
        exact hinv.2 v hv
  | reply msg linkCost nowMs =>
    exact absurd heq (hinv.1.replies (List.ne_nil_of_mem h.1))

theorem reverse_acyclic (hinv : q.ReverseInv w) (honly : q.OnlyReverse w)
    (heq : q.request.destination = q.originator) (v : UInt16) :
    ¬ Relation.TransGen (q.NextHop w) v v := by
  refine Descent.acyclic_of_rank _ (q.forwardCost w) ?_ v
  rintro v u ⟨hactive, hu⟩
  rw [heq] at hactive hu
  obtain ⟨entry, hentry⟩ := Option.isSome_iff_exists.mp (honly v hactive)
  obtain ⟨route, hfind, -, hnext⟩ := hinv.routes v entry hentry
  obtain ⟨route', hfind', -, hnext'⟩ := nextHopFor_active hactive
  obtain rfl : route = route' := Option.some.inj (hfind.symm.trans hfind')
  obtain rfl : entry.previousHop = u := by rw [← hnext, ← hnext', hu]
  have hless := (hinv.hops v entry hentry).2
  rw [forwardCost, forwardCost, hentry]
  exact hless

/-- Where no reply replaces a next hop at a greater cost than the best one taken, following the
next hops towards the destination never comes back to a node. -/
theorem forward_paths_acyclic (hinit : q.Initial w)
    (hnone : ∀ v, (w.nodes v).routeIsActive q.request.destination = false)
    (deliveries : List Delivery)
    (hrun : Runs.Along (q.step isRouter) (fun w d => q.Enabled net w d ∧ q.KeepsBest w d) w
      deliveries) (v : UInt16) :
    ¬ Relation.TransGen (q.NextHop (deliveries.foldl (q.step isRouter) w)) v v := by
  by_cases heq : q.request.destination = q.originator
  · have hstart : q.OnlyReverse w := by
      intro u hu
      rw [← heq, hnone u] at hu
      exact absurd hu Bool.false_ne_true
    obtain ⟨hinv, honly⟩ := hrun.invariant (I := fun w => q.ReverseInv w ∧ q.OnlyReverse w)
      (fun _ d hinv h => step_onlyReverse heq d hinv h.1) ⟨hinit.reverseInv, hstart⟩
    exact reverse_acyclic hinv honly heq v
  · have hinv := run_forwardInv hinit heq hnone hrun
    refine Descent.acyclic_of_rank _ (q.replyCost (deliveries.foldl (q.step isRouter) w)) ?_ v
    intro a b hab
    exact (hinv.hops a b hab).2

/-! ## Replies that cross -/

/-- Node 1 looks for node 4; nodes 2 and 3 hear node 1, node 4 and each other. -/
abbrev crossingNet : Network :=
  Network.ofLinks [(1, 2, 1), (1, 3, 3), (2, 3, 1), (2, 4, 1), (3, 4, 1)] (by simp)

def crossingStart : Query × World := originate (fun _ => init (List.replicate 4 {})) 1 4 0

/-- The request reaches node 4 through 3 and 2, and its reply is held back between 2 and 3. -/
def crossingSlow : List Delivery :=
  [.request ⟨1, 0⟩ 3 3 10, .request ⟨3, 3⟩ 2 1 11, .request ⟨2, 4⟩ 4 1 12, .reply ⟨4, 2, 0⟩ 1 13]

/-- Meanwhile the request reaches node 4 through 2 and 3, and its reply gets to node 2. -/
def crossingFast : List Delivery :=
  [.request ⟨1, 0⟩ 2 1 20, .request ⟨2, 1⟩ 3 1 21, .request ⟨3, 2⟩ 4 1 22, .reply ⟨4, 3, 0⟩ 1 23,
    .reply ⟨3, 2, 1⟩ 1 24]

private theorem crossing_initial : crossingStart.1.Initial crossingStart.2 :=
  originate_initial (fun _ => rfl) 4 0

private theorem crossing_noRoute (v : UInt16) :
    (crossingStart.2.nodes v).routeIsActive crossingStart.1.request.destination = false := by
  by_cases hv : v = 1
  · subst hv
    decide
  · simp [crossingStart, originate, Function.update_of_ne hv, routeIsActive, nextHopFor, init,
      ZigbeeRouteTable.find, SlotTable.lookup, ZigbeeRouteTable.destination]

/-- Without the second round the reply just arrives: every step keeps the best. -/
theorem forward_paths_acyclic_slow :
    let deliveries := crossingSlow ++ [.reply ⟨2, 3, 1⟩ 1 30]
    let reached := deliveries.foldl (crossingStart.1.step fun _ => true) crossingStart.2
    crossingStart.1.NextHop reached 3 2 ∧
      ¬ Relation.TransGen (crossingStart.1.NextHop reached) 3 3 :=
  ⟨by decide, forward_paths_acyclic crossing_initial crossing_noRoute _
    (by decide : Runs.Along (crossingStart.1.step fun _ => true)
      (fun w d => crossingStart.1.Enabled crossingNet w d ∧ crossingStart.1.KeepsBest w d)
      crossingStart.2 _) 3⟩

/-- The reply held back arrives last: nodes 2 and 3 now route to node 4 through each other. -/
theorem crossing_replies_loop :
    let deliveries := crossingSlow ++ crossingFast ++ [.reply ⟨2, 3, 1⟩ 1 30]
    let reached := deliveries.foldl (crossingStart.1.step fun _ => true) crossingStart.2
    crossingStart.1.Initial crossingStart.2 ∧
    (∀ v, (crossingStart.2.nodes v).routeIsActive crossingStart.1.request.destination = false) ∧
    Runs.Along (crossingStart.1.step fun _ => true) (crossingStart.1.Enabled crossingNet)
      crossingStart.2 deliveries ∧
    Relation.TransGen (crossingStart.1.NextHop reached) 2 2 := by
  refine ⟨crossing_initial, crossing_noRoute, by decide, ?_⟩
  exact .tail (b := 3) (.single (by decide)) (by decide)

end Query

end NiusZigbee
