import NiusZigbee.Library.Descent
import NiusZigbee.Routing.Network

/-!
# Reverse paths descend to the originator

The cost a node has recorded only goes down, and every request in flight costs at least what its
sender has recorded. So a recorded previous hop always has a smaller cost than the node itself.
-/

namespace NiusZigbee

open ZigbeeNwk ZigbeeRouting

namespace Query

variable (q : Query) (isRouter : UInt16 → Bool)

/-- The originator, or a node that has recorded the discovery. -/
def Reached (w : World) (v : UInt16) : Prop := v = q.originator ∨ (q.entry w v).isSome

/-- The recorded cost from the originator; 0 at the originator, which records nothing. -/
def forwardCost (w : World) (v : UInt16) : Nat := (q.entry w v).elim 0 (·.forwardCost.toNat)

def PreviousHop (w : World) (v u : UInt16) : Prop :=
  ∃ entry, q.entry w v = some entry ∧ entry.previousHop = u

structure ReverseInv (w : World) : Prop where
  origin : q.entry w q.originator = none
  sent : ∀ m ∈ w.requests, q.Reached w m.sender ∧ q.forwardCost w m.sender ≤ m.pathCost.toNat
  hops : ∀ v entry, q.entry w v = some entry → q.Reached w entry.previousHop ∧
    q.forwardCost w entry.previousHop < entry.forwardCost.toNat
  routes : ∀ v entry, q.entry w v = some entry →
    ∃ route, ZigbeeRouteTable.find (w.nodes v).routes q.originator = some route ∧
      route.status = .active ∧ route.nextHop = entry.previousHop
  replies : w.replies ≠ [] → q.request.destination ≠ q.originator

variable {q isRouter} {net : Network} {w w' : World}

theorem Initial.reverseInv (h : q.Initial w) : q.ReverseInv w where
  origin := h.entry q.originator
  sent := by
    intro m hm
    rw [h.requests, List.mem_singleton] at hm
    subst hm
    exact ⟨Or.inl rfl, by simp [forwardCost, h.entry]⟩
  hops := by
    intro v entry hentry
    simp [h.entry] at hentry
  routes := by
    intro v entry hentry
    simp [h.entry] at hentry
  replies := by
    intro hne
    exact absurd h.replies hne

/-! ## A node takes a request -/

section Takes

variable {msg : RequestMsg} {receiver : UInt16} {linkCost : UInt8}
  {entry : ZigbeeRouteDiscoveryEntry}

theorem Takes.entry_self (h : Takes q w w' msg receiver linkCost entry) :
    q.entry w' receiver = some entry := h.recorded.discovery

theorem Takes.entry_other (h : Takes q w w' msg receiver linkCost entry) {v : UInt16}
    (hv : v ≠ receiver) : q.entry w' v = q.entry w v := by
  rw [Query.entry, Query.entry, h.others v hv]

/-- A node that was reached stays reached, at no greater cost. -/
theorem Takes.cost_le (h : Takes q w w' msg receiver linkCost entry) {v : UInt16}
    (hv : q.Reached w v) : q.Reached w' v ∧ q.forwardCost w' v ≤ q.forwardCost w v := by
  by_cases hself : v = receiver
  · subst hself
    have hsome := hv.resolve_left h.foreign
    obtain ⟨old, hold⟩ := Option.isSome_iff_exists.mp hsome
    have hless := UInt8.lt_iff_toNat_lt.mp (h.recorded.improves old hold)
    refine ⟨Or.inr (by rw [h.entry_self]; rfl), ?_⟩
    simp only [Query.forwardCost, h.entry_self, hold, Option.elim_some]
    exact Nat.le_of_lt hless
  · simp only [Reached, Query.forwardCost, h.entry_other hself]
    exact ⟨hv, Nat.le_refl _⟩

theorem Takes.reverseInv (hinv : q.ReverseInv w) (hmem : msg ∈ w.requests)
    (hlink : 1 ≤ linkCost.toNat) (h : Takes q w w' msg receiver linkCost entry) :
    q.ReverseInv w' := by
  obtain ⟨hsender, hcost⟩ := hinv.sent msg hmem
  have hsent := h.cost_le hsender
  refine ⟨?_, ?_, ?_, ?_, ?_⟩
  · rw [h.entry_other h.foreign.symm]
    exact hinv.origin
  · intro m hm
    rcases h.requests m hm with hold | ⟨rfl, -⟩
    · obtain ⟨hr, hc⟩ := hinv.sent m hold
      obtain ⟨hr', hc'⟩ := h.cost_le hr
      exact ⟨hr', by omega⟩
    · exact ⟨Or.inr (by rw [h.entry_self]; rfl), by simp [Query.forwardCost, h.entry_self]⟩
  · intro v e he
    by_cases hv : v = receiver
    · subst hv
      obtain rfl : entry = e := Option.some.inj (h.entry_self.symm.trans he)
      rw [h.previousHop, h.forwardCost]
      exact ⟨hsent.1, by omega⟩
    · rw [h.entry_other hv] at he
      obtain ⟨hr, hc⟩ := hinv.hops v e he
      obtain ⟨hr', hc'⟩ := h.cost_le hr
      exact ⟨hr', by omega⟩
  · intro v e he
    by_cases hv : v = receiver
    · subst hv
      obtain rfl : entry = e := Option.some.inj (h.entry_self.symm.trans he)
      exact h.recorded.route
    · rw [h.entry_other hv] at he
      rw [h.others v hv]
      exact hinv.routes v e he
  · intro hne
    obtain ⟨m, hm⟩ := List.exists_mem_of_ne_nil _ hne
    rcases h.replies m hm with hold | ⟨-, hdest⟩
    · exact hinv.replies (List.ne_nil_of_mem hold)
    · exact hdest ▸ h.foreign

end Takes

/-! ## A node takes a reply -/

section Passes

variable {msg : ReplyMsg} {linkCost : UInt8}

theorem Passes.entry_eq (h : Passes q w w' msg linkCost) (v : UInt16) :
    q.entry w' v = q.entry w v := by
  by_cases hv : v = msg.receiver
  · subst hv
    simp only [Query.entry, findDiscovery, h.installed.discoveries]
  · rw [Query.entry, Query.entry, h.others v hv]

theorem Passes.reverseInv (hinv : q.ReverseInv w) (hmem : msg ∈ w.replies)
    (h : Passes q w w' msg linkCost) : q.ReverseInv w' := by
  have hdest := hinv.replies (List.ne_nil_of_mem hmem)
  refine ⟨?_, ?_, ?_, ?_, fun _ => hdest⟩
  · rw [h.entry_eq]
    exact hinv.origin
  · intro m hm
    rw [h.requests] at hm
    simp only [Reached, forwardCost, h.entry_eq]
    exact hinv.sent m hm
  · intro v e he
    rw [h.entry_eq] at he
    simp only [Reached, forwardCost, h.entry_eq]
    exact hinv.hops v e he
  · intro v e he
    rw [h.entry_eq] at he
    by_cases hv : v = msg.receiver
    · subst hv
      rw [h.installed.others _ hdest.symm]
      exact hinv.routes _ e he
    · rw [h.others v hv]
      exact hinv.routes v e he

end Passes

theorem step_reverseInv (d : Delivery) (hinv : q.ReverseInv w) (h : q.Enabled net w d) :
    q.ReverseInv (q.step isRouter w d) := by
  cases d with
  | request msg receiver linkCost nowMs =>
    obtain ⟨hmem, hlink, -⟩ := id h
    rcases step_request h with heq | ⟨entry, htakes⟩
    · rw [heq]
      exact hinv
    · exact htakes.reverseInv hinv hmem (net.cost_range _ _ _ hlink).1
  | reply msg linkCost nowMs =>
    obtain ⟨hmem, -⟩ := id h
    rcases step_reply h with heq | hpasses
    · rw [heq]
      exact hinv
    · exact hpasses.reverseInv hinv hmem

theorem run_reverseInv (hinit : q.Initial w) {deliveries : List Delivery}
    (hrun : Runs.Along (q.step isRouter) (q.Enabled net) w deliveries) :
    q.ReverseInv (deliveries.foldl (q.step isRouter) w) :=
  hrun.invariant (fun _ d hinv h => step_reverseInv d hinv h) hinit.reverseInv

/-- In every state a run reaches, the recorded previous hops lead from every node with an entry to
the originator, at a cost that goes down with every hop, and its active route to the originator
takes the same hop. -/
theorem reverse_paths_descend (hinit : q.Initial w) (deliveries : List Delivery)
    (hrun : Runs.Along (q.step isRouter) (q.Enabled net) w deliveries) :
    let reached := deliveries.foldl (q.step isRouter) w
    (∀ v, (q.entry reached v).isSome → ∃ path,
      Descent.Walk (q.PreviousHop reached) (q.forwardCost reached) q.originator v path) ∧
    ∀ v entry, q.entry reached v = some entry →
      ∃ route, ZigbeeRouteTable.find (reached.nodes v).routes q.originator = some route ∧
        route.status = .active ∧ route.nextHop = entry.previousHop := by
  have hinv := run_reverseInv hinit hrun
  refine ⟨?_, hinv.routes⟩
  intro v hv
  obtain ⟨entry, hentry⟩ := Option.isSome_iff_exists.mp hv
  apply Descent.exists_walk _ _ v (Or.inr ⟨_, entry, hentry, rfl⟩)
  rintro u - ⟨-, e, he, -⟩
  obtain ⟨hreached, hless⟩ := hinv.hops u e he
  refine ⟨e.previousHop, ⟨e, he, rfl⟩, ?_, ?_⟩
  · rw [forwardCost, forwardCost, he]
    exact hless
  · refine hreached.imp_right ?_
    intro hsome
    obtain ⟨e', he'⟩ := Option.isSome_iff_exists.mp hsome
    exact ⟨_, e', he', rfl⟩

abbrev shortcutNet : Network := Network.ofLinks [(1, 2, 1), (2, 3, 7), (1, 3, 5)] (by simp)

/-- Node 1 looks for node 4; node 3 hears of it through node 2, then from node 1 itself. -/
theorem reverse_paths_descend_shortcut :
    let start := originate (fun _ => init (List.replicate 4 {})) 1 4 0
    let deliveries : List Delivery :=
      [.request ⟨1, 0⟩ 2 1 10, .request ⟨2, 1⟩ 3 7 20, .request ⟨1, 0⟩ 3 5 30]
    let reached := deliveries.foldl (start.1.step fun _ => true) start.2
    Runs.Along (start.1.step fun _ => true) (start.1.Enabled shortcutNet) start.2 deliveries ∧
      ∃ path,
        Descent.Walk (start.1.PreviousHop reached) (start.1.forwardCost reached) 1 3 path := by
  have hrun : Runs.Along
      ((originate (fun _ => init (List.replicate 4 {})) 1 4 0).1.step fun _ => true)
      ((originate (fun _ => init (List.replicate 4 {})) 1 4 0).1.Enabled shortcutNet)
      (originate (fun _ => init (List.replicate 4 {})) 1 4 0).2
      [.request ⟨1, 0⟩ 2 1 10, .request ⟨2, 1⟩ 3 7 20, .request ⟨1, 0⟩ 3 5 30] := by
    decide
  exact ⟨hrun, (reverse_paths_descend (originate_initial (fun _ => rfl) 4 0) _ hrun).1 3
    (by decide)⟩

end Query

end NiusZigbee
