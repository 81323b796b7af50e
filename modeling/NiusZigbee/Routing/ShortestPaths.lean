import Mathlib.Algebra.BigOperators.Group.Finset.Basic
import Mathlib.Algebra.Order.BigOperators.Group.Finset
import Mathlib.Order.Interval.Finset.Nat
import NiusZigbee.Library.Relaxation
import NiusZigbee.Routing.ReversePath

/-!
# A discovery settles on shortest paths

Routers send a request on each time they hear it cheaper than before. Once every copy in flight has
been heard, the recorded costs are those of the cheapest paths, and the routes to the originator
follow such paths. No node sends the same request on without end.
-/

namespace NiusZigbee

open ZigbeeNwk ZigbeeRouting

namespace Query

variable (q : Query) (isRouter : UInt16 → Bool) (net : Network)

/-- The node sends requests of the discovery on. -/
def Relays (v : UInt16) : Prop := isRouter v = true ∧ v ≠ q.request.destination

instance (v : UInt16) : Decidable (q.Relays isRouter v) := inferInstanceAs (Decidable (_ ∧ _))

/-- A link and its cost. -/
def LinkCost (u v : UInt16) (c : Nat) : Prop :=
  ∃ linkCost, net.link u v linkCost ∧ linkCost.toNat = c

/-- A path the request can take from the originator, with a cost that fits its byte. -/
def RequestPath : UInt16 → Nat → Prop :=
  Relaxation.Path (LinkCost net) (q.Relays isRouter) q.originator q.request.pathCost.toNat 255

variable {q isRouter net} {w w' : World} {msg : RequestMsg} {receiver : UInt16} {linkCost : UInt8}
  {nowMs : UInt32}

/-! ## One request -/

theorem step_taken (h : q.Enabled net w (.request msg receiver linkCost nowMs))
    (htakes : (w.nodes receiver).Takes receiver q.originator (q.rreq msg.pathCost) linkCost) :
    ∃ entry, Takes q w (q.step isRouter w (.request msg receiver linkCost nowMs)) msg receiver
        linkCost entry ∧
      (q.step isRouter w (.request msg receiver linkCost nowMs)).requests =
        if q.Relays isRouter receiver then ⟨receiver, entry.forwardCost⟩ :: w.requests
        else w.requests := by
  obtain ⟨-, -, -, hroom⟩ := id h
  obtain ⟨hdisc, -⟩ := hroom (Ne.symm htakes.2.1)
  obtain ⟨discoveries, hrecord, hlookup⟩ : ∃ discoveries,
      (w.nodes receiver).record (requestEntry msg.sender q.originator (q.rreq msg.pathCost)
        linkCost nowMs) = some discoveries ∧
      SlotTable.lookup discoveryKey discoveries (q.request.routeRequestId, q.originator) =
        some (requestEntry msg.sender q.originator (q.rreq msg.pathCost) linkCost nowMs) :=
    record_eq rfl hdisc
  have htaken := @handleRouteRequest_taken _ _ _ msg.sender (isRouter receiver) _ _ nowMs htakes _
    hrecord
  have hentry : q.entry (q.step isRouter w (.request msg receiver linkCost nowMs)) receiver =
      some (requestEntry msg.sender q.originator (q.rreq msg.pathCost) linkCost nowMs) := by
    simp only [entry, step, Function.update_self, htaken]
    exact hlookup
  rcases @step_request q isRouter net w msg receiver linkCost nowMs h with heq | ⟨e, he⟩
  · rw [heq] at hentry
    exact absurd (htakes.2.2 _ hentry) (UInt8.lt_irrefl _)
  · obtain rfl := Option.some.inj (hentry.symm.trans he.entry_self)
    refine ⟨_, he, ?_⟩
    simp only [step, htaken, Relays]
    by_cases hdest : receiver = q.request.destination
    · simp [rreq, hdest]
    · by_cases hrouter : isRouter receiver = true
      · simp [rreq, requestEntry, Ne.symm hdest, hdest, hrouter]
      · simp [rreq, Ne.symm hdest, hrouter]

theorem step_dropped
    (hdropped : ¬ (w.nodes receiver).Takes receiver q.originator (q.rreq msg.pathCost) linkCost) :
    q.step isRouter w (.request msg receiver linkCost nowMs) = w := by
  have hdrop := @handleRouteRequest_dropped _ _ _ msg.sender (isRouter receiver) _ _ nowMs hdropped
  simp only [step, hdrop, Function.update_eq_self, Bool.false_eq_true, if_false]

structure CostInv (q : Query) (isRouter : UInt16 → Bool) (net : Network) (w : World) : Prop where
  first : ⟨q.originator, q.request.pathCost⟩ ∈ w.requests
  sent : ∀ m ∈ w.requests, q.RequestPath isRouter net m.sender m.pathCost.toNat ∧
    (m.sender = q.originator ∨ q.Relays isRouter m.sender)
  kept : ∀ v e, q.entry w v = some e → ∃ linkCost p, net.link e.previousHop v linkCost ∧
    q.RequestPath isRouter net e.previousHop p ∧
    (e.previousHop = q.originator ∨ q.Relays isRouter e.previousHop) ∧
    e.forwardCost.toNat = p + linkCost.toNat
  passed : ∀ v e, q.entry w v = some e → q.Relays isRouter v →
    ⟨v, e.forwardCost⟩ ∈ w.requests

/-- The path a kept cost belongs to. -/
theorem CostInv.path (h : q.CostInv isRouter net w) {v : UInt16} {e : ZigbeeRouteDiscoveryEntry}
    (he : q.entry w v = some e) : q.RequestPath isRouter net v e.forwardCost.toNat := by
  obtain ⟨linkCost, p, hlink, hpath, hpasses, hcost⟩ := h.kept v e he
  have hbyte := e.forwardCost.toNat_lt
  rw [hcost]
  exact Relaxation.Path.hop hpath hpasses ⟨linkCost, hlink, rfl⟩ (by omega)

/-- Node 3 hears of the search for node 4 the long way first, then over its own link. -/
def shortcutDeliveries : List Delivery :=
  [.request ⟨1, 0⟩ 2 1 10, .request ⟨2, 1⟩ 3 7 20, .request ⟨3, 8⟩ 2 7 30,
    .request ⟨1, 0⟩ 3 5 40, .request ⟨3, 5⟩ 2 7 50]

theorem shortcutDeliveries_run :
    let start := originate (fun _ => init (List.replicate 4 {})) 1 4 0
    Runs.Along (start.1.step fun _ => true) (start.1.Enabled shortcutNet) start.2
      shortcutDeliveries := by
  decide

/-- The costs at which the node has sent the request, the latest first. -/
def sentBy (w : World) (v : UInt16) : List UInt8 :=
  (w.requests.filter (·.sender = v)).map (·.pathCost)

structure FloodInv (q : Query) (isRouter : UInt16 → Bool) (w : World) : Prop where
  origin : sentBy w q.originator = [q.request.pathCost]
  falling : ∀ v, (sentBy w v).Pairwise (· < ·)
  kept : ∀ v, v ≠ q.originator → ∀ k ∈ sentBy w v, q.Relays isRouter v ∧
    q.request.pathCost < k ∧ ∃ e, q.entry w v = some e ∧ e.forwardCost ≤ k

theorem Initial.floodInv (h : q.Initial w) : q.FloodInv isRouter w := by
  have hsent : ∀ v, sentBy w v = if q.originator = v then [q.request.pathCost] else [] := by
    intro v
    by_cases hv : q.originator = v
    · simp [sentBy, h.requests, hv]
    · simp [sentBy, h.requests, hv]
  refine ⟨by rw [hsent, if_pos rfl], fun v => ?_, fun v hv k hk => ?_⟩
  · rw [hsent]
    split
    · exact List.pairwise_singleton _ _
    · exact List.Pairwise.nil
  · rw [hsent, if_neg (Ne.symm hv)] at hk
    cases hk

theorem mem_sentBy {m : RequestMsg} (h : m ∈ w.requests) : m.pathCost ∈ sentBy w m.sender :=
  List.mem_map_of_mem (List.mem_filter.mpr ⟨h, decide_eq_true rfl⟩)

theorem sentBy_cons {k : UInt8} (h : w'.requests = ⟨receiver, k⟩ :: w.requests) (v : UInt16) :
    sentBy w' v = if receiver = v then k :: sentBy w v else sentBy w v := by
  by_cases hv : receiver = v
  · simp [sentBy, h, hv]
  · simp [sentBy, h, hv]

theorem FloodInv.base_le (h : q.FloodInv isRouter w) {m : RequestMsg} (hm : m ∈ w.requests) :
    q.request.pathCost ≤ m.pathCost := by
  have hmem := mem_sentBy hm
  by_cases hv : m.sender = q.originator
  · rw [hv, h.origin, List.mem_singleton] at hmem
    rw [hmem]
    exact UInt8.le_refl _
  · exact UInt8.le_of_lt (h.kept _ hv _ hmem).2.1

theorem Takes.floodInv {e : ZigbeeRouteDiscoveryEntry} (hinv : q.FloodInv isRouter w)
    (hmem : msg ∈ w.requests) (hlink : 1 ≤ linkCost.toNat)
    (h : Takes q w w' msg receiver linkCost e)
    (hrequests : w'.requests = if q.Relays isRouter receiver then ⟨receiver, e.forwardCost⟩ ::
      w.requests else w.requests) : q.FloodInv isRouter w' := by
  have hbase : q.request.pathCost < e.forwardCost := by
    have hle := UInt8.le_iff_toNat_le.mp (hinv.base_le hmem)
    have hcost := h.forwardCost
    rw [UInt8.lt_iff_toNat_lt]
    omega
  -- What was kept before is kept now, at the receiver for less.
  have hkept : ∀ v, v ≠ q.originator → ∀ k ∈ sentBy w v, q.Relays isRouter v ∧
      q.request.pathCost < k ∧ (∃ e', q.entry w' v = some e' ∧ e'.forwardCost ≤ k) ∧
        (v = receiver → e.forwardCost < k) := by
    intro v hv k hk
    obtain ⟨hrelays, hless, e₀, he₀, hle⟩ := hinv.kept v hv k hk
    refine ⟨hrelays, hless, ?_⟩
    by_cases hr : v = receiver
    · subst hr
      have hbetter := UInt8.lt_of_lt_of_le (h.recorded.improves e₀ he₀) hle
      exact ⟨⟨e, h.entry_self, UInt8.le_of_lt hbetter⟩, fun _ => hbetter⟩
    · rw [h.entry_other hr]
      exact ⟨⟨e₀, he₀, hle⟩, fun heq => absurd heq hr⟩
  by_cases hrelays : q.Relays isRouter receiver
  · rw [if_pos hrelays] at hrequests
    have hsent := sentBy_cons hrequests
    refine ⟨?_, fun v => ?_, fun v hv k hk => ?_⟩
    · rw [hsent, if_neg h.foreign]
      exact hinv.origin
    · rw [hsent]
      split
      · next hv =>
        subst hv
        exact List.pairwise_cons.mpr
          ⟨fun k hk => (hkept receiver h.foreign k hk).2.2.2 rfl, hinv.falling receiver⟩
      · exact hinv.falling v
    · rw [hsent] at hk
      split at hk
      · next hr =>
        subst hr
        rcases List.mem_cons.mp hk with rfl | hk
        · exact ⟨hrelays, hbase, e, h.entry_self, UInt8.le_refl _⟩
        · obtain ⟨_, hless, hentry, -⟩ := hkept receiver hv k hk
          exact ⟨hrelays, hless, hentry⟩
      · obtain ⟨hpasses, hless, hentry, -⟩ := hkept v hv k hk
        exact ⟨hpasses, hless, hentry⟩
  · rw [if_neg hrelays] at hrequests
    have hsent : ∀ v, sentBy w' v = sentBy w v := fun v => by rw [sentBy, hrequests, sentBy]
    refine ⟨by rw [hsent]; exact hinv.origin, fun v => by rw [hsent]; exact hinv.falling v, ?_⟩
    intro v hv k hk
    rw [hsent] at hk
    obtain ⟨hpasses, hless, hentry, -⟩ := hkept v hv k hk
    exact ⟨hpasses, hless, hentry⟩

theorem step_floodInv (d : Delivery) (hinv : q.FloodInv isRouter w) (h : q.Enabled net w d) :
    q.FloodInv isRouter (q.step isRouter w d) := by
  cases d with
  | request msg receiver linkCost nowMs =>
    by_cases htakes : (w.nodes receiver).Takes receiver q.originator (q.rreq msg.pathCost) linkCost
    · obtain ⟨e, he, hrequests⟩ := step_taken h htakes
      exact he.floodInv hinv h.1 (net.cost_range _ _ _ h.2.1).1 hrequests
    · rw [step_dropped htakes]
      exact hinv
  | reply msg linkCost nowMs =>
    rcases step_reply h with heq | hpasses
    · rw [heq]
      exact hinv
    · have hsent : ∀ v, sentBy (q.step isRouter w (.reply msg linkCost nowMs)) v = sentBy w v :=
        fun v => by rw [sentBy, hpasses.requests, sentBy]
      refine ⟨by rw [hsent]; exact hinv.origin, fun v => by rw [hsent]; exact hinv.falling v, ?_⟩
      intro v hv k hk
      rw [hsent] at hk
      rw [hpasses.entry_eq]
      exact hinv.kept v hv k hk

theorem run_floodInv (hinit : q.Initial w) {deliveries : List Delivery}
    (hrun : Runs.Along (q.step isRouter) (q.Enabled net) w deliveries) :
    q.FloodInv isRouter (deliveries.foldl (q.step isRouter) w) :=
  hrun.invariant (fun _ d hinv h => step_floodInv d hinv h) hinit.floodInv

theorem falling_length_le {l : List UInt8} {base : UInt8} (h : l.Pairwise (· < ·))
    (hbase : ∀ k ∈ l, base < k) : l.length ≤ 255 - base.toNat := by
  have hnodup : (l.map UInt8.toNat).Nodup := by
    apply List.Pairwise.map _ _ h
    intro a b hab
    exact Nat.ne_of_lt (UInt8.lt_iff_toNat_lt.mp hab)
  have hsub : (l.map UInt8.toNat).toFinset ⊆ Finset.Ioc base.toNat 255 := by
    intro n hn
    obtain ⟨k, hk, rfl⟩ := List.mem_map.mp (List.mem_toFinset.mp hn)
    have hless := UInt8.lt_iff_toNat_lt.mp (hbase k hk)
    have hbyte := k.toNat_lt
    rw [Finset.mem_Ioc]
    omega
  have hcard := Finset.card_le_card hsub
  rwa [List.toFinset_card_of_nodup hnodup, List.length_map, Nat.card_Ioc] at hcard

/-- In every state a run reaches, the originator has sent the request once, nobody but the routers
other than the destination has sent it on, and each of these always cheaper than before; so `n` of
them have sent it on `n * (255 - base)` times at most. -/
theorem flood_bounded (hinit : q.Initial w) (deliveries : List Delivery)
    (hrun : Runs.Along (q.step isRouter) (q.Enabled net) w deliveries) :
    let reached := deliveries.foldl (q.step isRouter) w
    sentBy reached q.originator = [q.request.pathCost] ∧
    (∀ v, v ≠ q.originator → (sentBy reached v).Pairwise (· < ·) ∧
      (sentBy reached v ≠ [] → isRouter v = true ∧ v ≠ q.request.destination)) ∧
    ∀ relays : Finset UInt16,
      (∀ m ∈ reached.requests, m.sender = q.originator ∨ m.sender ∈ relays) →
        reached.requests.length ≤ 1 + relays.card * (255 - q.request.pathCost.toNat) := by
  have hinv := run_floodInv hinit hrun
  refine ⟨hinv.origin, fun v hv => ⟨hinv.falling v, fun hsent => ?_⟩, fun relays hrelays => ?_⟩
  · obtain ⟨k, hk⟩ := List.exists_mem_of_ne_nil _ hsent
    exact (hinv.kept v hv k hk).1
  generalize deliveries.foldl (q.step isRouter) w = reached at hinv hrelays ⊢
  have hcount : ∀ v, (reached.requests.map (·.sender)).count v = (sentBy reached v).length := by
    intro v
    rw [sentBy, List.length_map, List.count, List.countP_map, List.countP_eq_length_filter]
    congr 1
  have hsub : (reached.requests.map (·.sender)).toFinset ⊆
      insert q.originator (relays.erase q.originator) := by
    intro v hv
    obtain ⟨m, hm, rfl⟩ := List.mem_map.mp (List.mem_toFinset.mp hv)
    rw [Finset.mem_insert, Finset.mem_erase]
    by_cases horigin : m.sender = q.originator
    · exact Or.inl horigin
    · exact Or.inr ⟨horigin, (hrelays m hm).resolve_left horigin⟩
  have hzero : ∀ v ∈ insert q.originator (relays.erase q.originator),
      v ∉ (reached.requests.map (·.sender)).toFinset →
        (reached.requests.map (·.sender)).count v = 0 :=
    fun v _ hv => List.count_eq_zero.mpr (mt List.mem_toFinset.mpr hv)
  calc reached.requests.length
      = ∑ v ∈ (reached.requests.map (·.sender)).toFinset,
          (reached.requests.map (·.sender)).count v := by
        rw [List.sum_toFinset_count_eq_length, List.length_map]
    _ = ∑ v ∈ insert q.originator (relays.erase q.originator),
          (reached.requests.map (·.sender)).count v := Finset.sum_subset hsub hzero
    _ = 1 + ∑ v ∈ relays.erase q.originator, (reached.requests.map (·.sender)).count v := by
        rw [Finset.sum_insert (Finset.notMem_erase _ _), hcount, hinv.origin, List.length_singleton]
    _ ≤ 1 + (relays.erase q.originator).card * (255 - q.request.pathCost.toNat) := by
        refine Nat.add_le_add_left (Finset.sum_le_card_nsmul _ _ _ fun v hv => ?_) 1
        rw [hcount]
        exact falling_length_le (hinv.falling v) fun k hk =>
          (hinv.kept v (Finset.ne_of_mem_erase hv) k hk).2.1
    _ ≤ 1 + relays.card * (255 - q.request.pathCost.toNat) :=
        Nat.add_le_add_left (Nat.mul_le_mul_right _ (Finset.card_erase_le)) 1

/-- Node 3 sends the request on twice, the second time for less. -/
theorem flood_bounded_shortcut :
    let start := originate (fun _ => init (List.replicate 4 {})) 1 4 0
    let reached := shortcutDeliveries.foldl (start.1.step fun _ => true) start.2
    sentBy reached 1 = [0] ∧ sentBy reached 3 = [5, 8] ∧
      (sentBy reached 3).Pairwise (· < ·) ∧ (3 : UInt16) ≠ start.1.request.destination ∧
      reached.requests.length ≤ 1 + 2 * 255 := by
  intro start reached
  obtain ⟨horigin, hrouters, hcount⟩ :=
    flood_bounded (originate_initial (fun _ => rfl) 4 0) _ shortcutDeliveries_run
  have hsent : sentBy reached 3 = [5, 8] := by decide
  obtain ⟨hfalling, hon⟩ := hrouters 3 (by decide)
  exact ⟨horigin, hsent, hfalling, (hon (by rw [hsent]; decide)).2, hcount {2, 3} (by decide)⟩

end Query

end NiusZigbee
