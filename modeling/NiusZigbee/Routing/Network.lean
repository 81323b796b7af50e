import Mathlib.Logic.Function.Basic
import NiusZigbee.Library.Runs
import NiusZigbee.Routing.Discovery

/-!
# One discovery on a network

Every node runs `ZigbeeRouting`. Requests are broadcasts, replies unicasts; both stay in flight
once sent, so they may be delivered in any order, several times, or never. The network keeps, as
history only, the cost of the best reply each node of the discovery has got.
-/

namespace NiusZigbee

open ZigbeeNwk ZigbeeRouting

/-- Who hears whom, and at which link costs. -/
structure Network where
  link : UInt16 → UInt16 → UInt8 → Prop
  cost_range : ∀ u v c, link u v c → 1 ≤ c.toNat ∧ c.toNat ≤ 7

/-- Undirected links with their costs. -/
def Network.ofLinks (links : List (UInt16 × UInt16 × UInt8))
    (h : ∀ l ∈ links, 1 ≤ l.2.2.toNat ∧ l.2.2.toNat ≤ 7) : Network where
  link u v c := (u, v, c) ∈ links ∨ (v, u, c) ∈ links
  cost_range := by
    rintro u v c (hl | hl)
    · exact h _ hl
    · exact h _ hl

instance (links : List (UInt16 × UInt16 × UInt8)) (h : ∀ l ∈ links, _) (u v : UInt16) (c : UInt8) :
    Decidable ((Network.ofLinks links h).link u v c) := inferInstanceAs (Decidable (_ ∨ _))

/-- The discovery under way: who started it, and the request as it was first sent. -/
structure Query where
  originator : UInt16
  request : NwkRouteRequestCommand

structure RequestMsg where
  sender : UInt16
  pathCost : UInt8
deriving DecidableEq, Repr

structure ReplyMsg where
  sender : UInt16
  receiver : UInt16
  pathCost : UInt8
deriving DecidableEq, Repr

structure World where
  nodes : UInt16 → ZigbeeRouting
  requests : List RequestMsg
  replies : List ReplyMsg
  best : UInt16 → Option Nat

/-- The delivery of one copy of a message in flight. -/
inductive Delivery where
  | request (msg : RequestMsg) (receiver : UInt16) (linkCost : UInt8) (nowMs : UInt32)
  | reply (msg : ReplyMsg) (linkCost : UInt8) (nowMs : UInt32)

namespace Query

variable (q : Query) (isRouter : UInt16 → Bool)

def rreq (pathCost : UInt8) : NwkRouteRequestCommand := { q.request with pathCost := pathCost }

def rrep (pathCost : UInt8) : NwkRouteReplyCommand where
  valid := true
  routeRequestId := q.request.routeRequestId
  originator := q.originator
  responder := q.request.destination
  pathCost := pathCost

/-- A node's entry for the discovery. -/
def entry (w : World) (v : UInt16) : Option ZigbeeRouteDiscoveryEntry :=
  (w.nodes v).findDiscovery q.request.routeRequestId q.originator

/-- A node handles what it receives and sends what its decision says. -/
def step (w : World) : Delivery → World
  | .request msg receiver linkCost nowMs =>
    let r := (w.nodes receiver).handleRouteRequest receiver (isRouter receiver) msg.sender
      q.originator (q.rreq msg.pathCost) linkCost nowMs
    { nodes := Function.update w.nodes receiver r.1
      requests := if r.2.rebroadcast then ⟨receiver, r.2.pathCost⟩ :: w.requests else w.requests
      replies := if r.2.replyAsDestination then ⟨receiver, r.2.replyTo, r.2.pathCost⟩ :: w.replies
        else w.replies
      best := w.best }
  | .reply msg linkCost nowMs =>
    let r := (w.nodes msg.receiver).handleRouteReply msg.receiver msg.sender
      (q.rrep msg.pathCost) linkCost nowMs
    let cost := msg.pathCost.toNat + linkCost.toNat
    { nodes := Function.update w.nodes msg.receiver r.1
      requests := w.requests
      replies := if r.2.forward then ⟨msg.receiver, r.2.forwardTo, r.2.pathCost⟩ :: w.replies
        else w.replies
      best := if (w.nodes msg.receiver).Involved msg.receiver q.request.routeRequestId
            q.originator then
          Function.update w.best msg.receiver
            (some ((w.best msg.receiver).elim cost (min cost)))
        else w.best }

/-- The message is in flight, the receiver hears its sender, the cost fits its byte, and what the
receiver has to note down recycles nothing. -/
def Enabled (net : Network) (w : World) : Delivery → Prop
  | .request msg receiver linkCost _ =>
    msg ∈ w.requests ∧ net.link msg.sender receiver linkCost ∧
      msg.pathCost.toNat + linkCost.toNat ≤ 255 ∧
      (receiver ≠ q.originator →
        (w.nodes receiver).HasRoom q.request.routeRequestId q.originator ∧
          ZigbeeRouteTable.HasRoom (w.nodes receiver).routes q.originator)
  | .reply msg linkCost _ =>
    msg ∈ w.replies ∧ net.link msg.sender msg.receiver linkCost ∧
      msg.pathCost.toNat + linkCost.toNat ≤ 255 ∧
      ((w.nodes msg.receiver).Involved msg.receiver q.request.routeRequestId q.originator →
        ZigbeeRouteTable.HasRoom (w.nodes msg.receiver).routes q.request.destination)

instance (net : Network) [∀ u v c, Decidable (net.link u v c)] (w : World) :
    ∀ d, Decidable (q.Enabled net w d)
  | .request _ _ _ _ => inferInstanceAs (Decidable (_ ∧ _ ∧ _ ∧ (_ → _)))
  | .reply _ _ _ => inferInstanceAs (Decidable (_ ∧ _ ∧ _ ∧ (_ → _)))

/-- The originator has sent its request and nobody has heard it yet. -/
structure Initial (w : World) : Prop where
  requests : w.requests = [⟨q.originator, q.request.pathCost⟩]
  replies : w.replies = []
  entry : ∀ v, q.entry w v = none
  best : ∀ v, w.best v = none

/-! ## What a delivery changes -/

/-- The originator starts a discovery of `destination` and broadcasts the request. -/
def originate (nodes : UInt16 → ZigbeeRouting) (originator destination : UInt16)
    (nowMs : UInt32) : Query × World :=
  let r := (nodes originator).originateDiscovery destination nowMs
  (⟨originator, { valid := true, routeRequestId := r.2, destination := destination }⟩,
    { nodes := Function.update nodes originator r.1
      requests := [⟨originator, 0⟩]
      replies := []
      best := fun _ => none })

theorem originate_initial {nodes : UInt16 → ZigbeeRouting} {originator : UInt16}
    (h : ∀ v, (nodes v).findDiscovery ((nodes originator).requestId + 1) originator = none)
    (destination : UInt16) (nowMs : UInt32) :
    let start := originate nodes originator destination nowMs
    start.1.Initial start.2 := by
  refine ⟨rfl, rfl, ?_, fun _ => rfl⟩
  intro v
  by_cases hv : v = originator
  · subst hv
    simpa [originate, entry, originateDiscovery, findDiscovery] using h v
  · simpa [originate, entry, originateDiscovery, Function.update_of_ne hv] using h v

variable {q isRouter} {net : Network} {w : World}

/-- The receiver recorded the request and answers or rebroadcasts it. -/
structure Takes (q : Query) (w w' : World) (msg : RequestMsg) (receiver : UInt16)
    (linkCost : UInt8) (entry : ZigbeeRouteDiscoveryEntry) : Prop where
  foreign : receiver ≠ q.originator
  previousHop : entry.previousHop = msg.sender
  forwardCost : entry.forwardCost.toNat = msg.pathCost.toNat + linkCost.toNat
  recorded : Recorded (w.nodes receiver) (w'.nodes receiver) q.request.routeRequestId q.originator
    entry
  others : ∀ v, v ≠ receiver → w'.nodes v = w.nodes v
  best : w'.best = w.best
  requests : ∀ m ∈ w'.requests, m ∈ w.requests ∨
    m = ⟨receiver, entry.forwardCost⟩ ∧ receiver ≠ q.request.destination
  replies : ∀ m ∈ w'.replies, m ∈ w.replies ∨
    m = ⟨receiver, msg.sender, 0⟩ ∧ receiver = q.request.destination

/-- The receiver installed the reply's route and may pass it on. -/
structure Passes (q : Query) (w w' : World) (msg : ReplyMsg) (linkCost : UInt8) : Prop where
  installed : Installed (w.nodes msg.receiver) (w'.nodes msg.receiver) q.request.destination
    msg.sender
  others : ∀ v, v ≠ msg.receiver → w'.nodes v = w.nodes v
  requests : w'.requests = w.requests
  best : w'.best = Function.update w.best msg.receiver
    (some ((w.best msg.receiver).elim (msg.pathCost.toNat + linkCost.toNat)
      (min (msg.pathCost.toNat + linkCost.toNat))))
  replies : ∀ m ∈ w'.replies, m ∈ w.replies ∨
    m.sender = msg.receiver ∧ m.pathCost.toNat = msg.pathCost.toNat + linkCost.toNat ∧
      ∃ entry, q.entry w msg.receiver = some entry ∧ m.receiver = entry.previousHop

private theorem toNat_add_of_fits {a b : UInt8} (h : a.toNat + b.toNat ≤ 255) :
    (a + b).toNat = a.toNat + b.toNat := by
  rw [UInt8.toNat_add]
  omega

theorem step_request {msg : RequestMsg} {receiver : UInt16} {linkCost : UInt8} {nowMs : UInt32}
    (h : q.Enabled net w (.request msg receiver linkCost nowMs)) :
    q.step isRouter w (.request msg receiver linkCost nowMs) = w ∨
    ∃ entry, Takes q w (q.step isRouter w (.request msg receiver linkCost nowMs)) msg receiver
      linkCost entry := by
  obtain ⟨-, -, hfits, hroom⟩ := h
  have hcases := handleRouteRequest_cases (isRouter receiver) msg.sender (q.rreq msg.pathCost)
    linkCost nowMs hroom
  rcases hcases with hdrop | ⟨hforeign, entry, hprev, hcost, hrec, hto, hans, hreb⟩
  · left
    simp only [step, hdrop, Function.update_eq_self, Bool.false_eq_true, if_false]
  · right
    refine ⟨entry, hforeign, hprev, ?_, ?_, ?_, rfl, ?_, ?_⟩
    · rw [hcost]
      exact toNat_add_of_fits hfits
    · simp only [step, Function.update_self]
      exact hrec
    · intro v hv
      simp only [step, Function.update_of_ne hv]
    · intro m hm
      simp only [step] at hm
      split at hm
      · next hset =>
        obtain ⟨hdest, hpath⟩ := hreb hset
        rcases List.mem_cons.mp hm with rfl | hm
        · exact Or.inr ⟨by rw [hpath, hcost], hdest.symm⟩
        · exact Or.inl hm
      · exact Or.inl hm
    · intro m hm
      simp only [step] at hm
      split at hm
      · next hset =>
        obtain ⟨hdest, hpath, -⟩ := hans hset
        rcases List.mem_cons.mp hm with rfl | hm
        · exact Or.inr ⟨by rw [hpath, hto], hdest.symm⟩
        · exact Or.inl hm
      · exact Or.inl hm

theorem step_reply {msg : ReplyMsg} {linkCost : UInt8} {nowMs : UInt32}
    (h : q.Enabled net w (.reply msg linkCost nowMs)) :
    q.step isRouter w (.reply msg linkCost nowMs) = w ∨
    Passes q w (q.step isRouter w (.reply msg linkCost nowMs)) msg linkCost := by
  obtain ⟨-, -, hfits, hroom⟩ := h
  have hcases := handleRouteReply_cases msg.sender (q.rrep msg.pathCost) linkCost nowMs hroom
  rcases hcases with ⟨hnot, hnode, hfwd⟩ | ⟨hinvolved, hinstalled, hfwd⟩
  · left
    have hnot := hnot rfl
    simp only [rrep] at hnot
    simp only [step, hnode, if_neg hnot, hfwd, Function.update_eq_self, Bool.false_eq_true,
      if_false]
  · right
    refine ⟨?_, ?_, rfl, ?_, ?_⟩
    · simp only [step, Function.update_self]
      exact hinstalled
    · intro v hv
      simp only [step, Function.update_of_ne hv]
    · simp only [rrep] at hinvolved
      simp only [step, if_pos hinvolved]
    · intro m hm
      simp only [step] at hm
      split at hm
      · next hset =>
        obtain ⟨hpath, entry, hentry, hto⟩ := hfwd hset
        rcases List.mem_cons.mp hm with rfl | hm
        · refine Or.inr ⟨rfl, ?_, entry, hentry, hto⟩
          rw [hpath]
          exact toNat_add_of_fits hfits
        · exact Or.inl hm
      · exact Or.inl hm

end Query

end NiusZigbee
