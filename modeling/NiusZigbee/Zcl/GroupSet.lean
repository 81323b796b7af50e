import NiusZigbee.Library.BoundedSet
import NiusZigbee.Library.Runs
import NiusZigbee.Zcl.Clusters

/-!
# The Groups server as a bounded set

Over any run of commands the table represents a set of at most `capacity` groups, and every answer
is the one that set gives. A membership answer lists sixteen groups at most.
-/

namespace NiusZigbee

open ByteCodec OutBuffer

variable {n : Nat}

/-- What a Groups command asks of a set of groups. -/
inductive GroupsRequest where
  | add (group : UInt16)
  | remove (group : UInt16)
  | removeAll
  /-- The members among these groups, or all of them. -/
  | membership (asked : Option (List UInt16))
  | ignored
deriving DecidableEq, Repr

namespace GroupsRequest

def result (s : BoundedSet UInt16 n) : GroupsRequest → BoundedSet UInt16 n
  | add g => s.insert g
  | remove g => s.erase g
  | removeAll => .empty
  | membership _ => s
  | ignored => s

end GroupsRequest

/-! ## The table -/

namespace ZigbeeGroupTable

/-- `begin` of the source, on storage for `capacity` groups. -/
def begin (capacity : UInt8) : ZigbeeGroupTable := { capacity := capacity.toNat }

/-- The table stores the groups of the set. -/
def Refines (table : ZigbeeGroupTable) (s : BoundedSet UInt16 n) : Prop :=
  table.capacity = n ∧ s.Represents table.groups

variable {table : ZigbeeGroupTable} {s : BoundedSet UInt16 n}

theorem begin_refines (capacity : UInt8) :
    (begin capacity).Refines (BoundedSet.empty : BoundedSet UInt16 capacity.toNat) :=
  ⟨rfl, BoundedSet.represents_empty⟩

theorem mem_of_isMember {g : UInt16} : table.isMember g = true ↔ g ∈ table.groups := by
  simp [isMember]

theorem isMember_iff (h : table.Refines s) {g : UInt16} :
    table.isMember g = true ↔ g ∈ s.members := mem_of_isMember.trans h.2.mem_iff

theorem add_member {g : UInt16} (h : table.isMember g = true) : table.add g = (table, true) :=
  if_pos h

theorem add_refines (h : table.Refines s) (g : UInt16) : (table.add g).1.Refines (s.insert g) := by
  rw [add]
  by_cases hmem : table.isMember g = true
  · rw [if_pos hmem]
    exact ⟨h.1, h.2.insert_member (mem_of_isMember.mp hmem)⟩
  rw [if_neg hmem]
  rw [mem_of_isMember] at hmem
  by_cases hfull : table.groups.length ≥ table.capacity
  · rw [if_pos hfull]
    exact ⟨h.1, h.2.insert_full (h.1 ▸ hfull)⟩
  · rw [if_neg hfull]
    exact ⟨h.1, h.2.insert_append hmem (h.1 ▸ Nat.not_le.mp hfull)⟩

theorem add_added (h : table.Refines s) {g : UInt16} (hmem : ¬ table.isMember g = true) :
    (table.add g).2 = true ↔ s.members.card < n := by
  rw [← h.2.length_eq, ← h.1, add, if_neg hmem]
  by_cases hfull : table.groups.length ≥ table.capacity
  · rw [if_pos hfull]
    exact iff_of_false Bool.false_ne_true (Nat.not_lt.mpr hfull)
  · rw [if_neg hfull]
    exact iff_of_true rfl (Nat.not_le.mp hfull)

theorem remove_refines (h : table.Refines s) (g : UInt16) :
    (table.remove g).1.Refines (s.erase g) ∧ ((table.remove g).2 = true ↔ g ∈ s.members) := by
  rw [← h.2.mem_iff, remove]
  split
  · next hnone =>
    have habsent : g ∉ table.groups := by
      simpa using List.findIdx?_eq_none_iff.mp hnone g
    exact ⟨⟨h.1, h.2.erase_absent habsent⟩, iff_of_false Bool.false_ne_true habsent⟩
  · next i hi =>
    obtain ⟨hlt, hg, -⟩ := List.findIdx?_eq_some_iff_getElem.mp hi
    have hg' : table.groups[i] = g := by simpa using hg
    exact ⟨⟨h.1, h.2.erase_swap hlt hg' 0⟩, iff_of_true rfl (hg' ▸ List.getElem_mem hlt)⟩

end ZigbeeGroupTable

/-! ## One command -/

namespace ZigbeeGroupsCluster

/-- The request that the bytes of a command make. -/
def requestOf (commandId : UInt8) (payload : List UInt8) : GroupsRequest :=
  if commandId = groupsCmdAdd ∨ commandId = groupsCmdAddIfIdentifying then
    (read16 payload 0).elim .ignored .add
  else if commandId = groupsCmdRemove then (read16 payload 0).elim .ignored .remove
  else if commandId = groupsCmdRemoveAll then .removeAll
  else if commandId = groupsCmdGetMembership then
    (read8 payload 0).elim .ignored fun count =>
      .membership
        (if count = 0 then none else some ((words (payload.drop 1)).take count.toNat))
  else .ignored

def addStatus (s : BoundedSet UInt16 n) (g : UInt16) : UInt8 :=
  if g ∈ s.members then groupsStatusDuplicateExists
  else if s.members.card < n then groupsStatusSuccess
  else groupsStatusInsufficientSpace

def removeStatus (s : BoundedSet UInt16 n) (g : UInt16) : UInt8 :=
  if g ∈ s.members then groupsStatusSuccess else groupsStatusNotFound

/-- What a membership answer lists: the asked groups that are members, in their order, or all the
members. The answer has room for sixteen groups. -/
def Lists (s : BoundedSet UInt16 n) : Option (List UInt16) → List UInt16 → Prop
  | some asked, groups => groups = (asked.filter (· ∈ s.members)).take 16
  | none, groups =>
    if s.members.card ≤ 16 then s.Represents groups
    else groups.Nodup ∧ groups.toFinset ⊆ s.members ∧ groups.length = 16

/-- The answer that a set gives: the response command and its payload. -/
def Answers (s : BoundedSet UInt16 n) (response : Option UInt8 × Built) : GroupsRequest → Prop
  | .add g => response = (some groupsCmdAdd, .exact (addStatus s g :: le16 g))
  | .remove g => response = (some groupsCmdRemove, .exact (removeStatus s g :: le16 g))
  | .removeAll => response = (none, .fail)
  | .membership asked =>
    ∃ groups, Lists s asked groups ∧
      response = (some groupsCmdGetMembership,
        .exact ((n - s.members.card).toUInt8 :: groups.length.toUInt8 :: groups.flatMap le16))
  | .ignored => response = (none, .fail)

theorem buildStatusResponse_exact {outMax : UInt8} (hmax : 3 ≤ outMax.toNat) (status : UInt8)
    (g : UInt16) : buildStatusResponse outMax status g = .exact (status :: le16 g) := by
  rw [buildStatusResponse, if_neg (Nat.not_lt.mpr hmax), emit_glue [status] _ (by rfl)]
  rfl

theorem buildMembershipResponse_exact {outMax : UInt8} (hmax : 34 ≤ outMax.toNat) (capacity : Nat)
    {groups : List UInt16} (hlen : groups.length ≤ 16) :
    buildMembershipResponse outMax capacity groups =
      .exact (capacity.toUInt8 :: groups.length.toUInt8 :: groups.flatMap le16) := by
  have hneed : (2 + groups.length * 2) % 256 = 2 + groups.length * 2 :=
    Nat.mod_eq_of_lt (by omega)
  have hfits : ¬ outMax.toNat < 2 + groups.length * 2 := by omega
  rw [buildMembershipResponse, hneed, if_neg hfits]
  have hrecords := emit_records le16 2 le16_length 2 0 groups
  rw [Nat.zero_mul, Nat.add_zero] at hrecords
  rw [hrecords, emit_glue [capacity.toUInt8] _ (by rfl), emit_glue _ _ (by rfl)]
  simp only [Built.exact, List.length_cons, length_words, List.cons_append, List.nil_append]
  rw [Nat.add_comm]

/-- The scan stops before its offsets wrap, and takes sixteen members at most. -/
theorem requestedGroups_eq (table : ZigbeeGroupTable) {payload : List UInt8}
    (hshort : payload.length ≤ 125) (count : Nat) {i : Nat} (hi : i ≤ 62) {mine : List UInt16}
    (hmine : mine.length ≤ 16) :
    requestedGroups table payload count i mine =
      some ((mine ++ ((words (payload.drop (1 + i * 2))).take count).filter table.isMember).take
        16) := by
  induction count generalizing i mine with
  | zero => rw [requestedGroups, List.take_zero, List.filter_nil, List.append_nil,
      List.take_of_length_le hmine]
  | succ count ih =>
    rw [requestedGroups]
    have hoff : (1 + i * 2) % 256 = 1 + i * 2 := Nat.mod_eq_of_lt (by omega)
    rw [hoff, Nat.mod_eq_of_lt (by omega : 1 + i * 2 + 2 < 256)]
    by_cases hend : 1 + i * 2 + 2 > payload.length
    · rw [if_pos hend, words_drop_end (by omega), List.take_nil, List.filter_nil, List.append_nil,
        List.take_of_length_le hmine]
    obtain ⟨g, hg⟩ := @read16_isSome payload (1 + i * 2) (by omega)
    rw [if_neg hend, words_drop hg, List.take_succ_cons]
    simp only [hg, Option.bind_eq_bind, Option.bind_some]
    have hnext : 1 + i * 2 + 2 = 1 + (i + 1) * 2 := by omega
    rw [hnext]
    by_cases hmem : table.isMember g = true
    · by_cases hroom : mine.length < 16
      · rw [if_pos (by simp [hmem, hroom]), List.filter_cons_of_pos hmem]
        have hlen : (mine ++ [g]).length ≤ 16 := by
          rw [List.length_append, List.length_singleton]
          omega
        rw [ih (by omega) hlen, List.append_assoc, List.singleton_append]
      · have hfull : mine.length = 16 := by omega
        rw [if_neg (by simp [hroom]), ih (by omega) hmine, List.take_left' hfull,
          List.take_left' hfull]
    · rw [if_neg (by simp [hmem]), ih (by omega) hmine, List.filter_cons_of_neg hmem]

section

variable {table : ZigbeeGroupTable} {s : BoundedSet UInt16 n}

theorem lists_asked (h : table.Refines s) (asked : List UInt16) :
    Lists s (some asked) ((asked.filter table.isMember).take 16) := by
  have hfilter : asked.filter table.isMember = asked.filter (· ∈ s.members) := by
    apply List.filter_congr
    intro g _
    rw [Bool.eq_iff_iff, decide_eq_true_eq]
    exact ZigbeeGroupTable.isMember_iff h
  rw [Lists, hfilter]

theorem lists_all (h : table.Refines s) : Lists s none (table.groups.take 16) := by
  rw [Lists]
  by_cases hfew : s.members.card ≤ 16
  · rw [if_pos hfew, List.take_of_length_le (h.2.length_eq ▸ hfew)]
    exact h.2
  · obtain ⟨hnodup, hsub, hlen⟩ := h.2.take 16
    rw [if_neg hfew]
    exact ⟨hnodup, hsub, by omega⟩

/-- A call leaves the table of the set that its request leaves, and answers for it. -/
def Serves (s : BoundedSet UInt16 n) (request : GroupsRequest) (respMax : UInt8)
    (called : Option (ZigbeeGroupTable × Option UInt8 × Built)) : Prop :=
  ∃ table' response, called = some (table', response) ∧ table'.Refines (request.result s) ∧
    (34 ≤ respMax.toNat → Answers s response request)

theorem serves_ignored (h : table.Refines s) (respMax : UInt8) :
    Serves s .ignored respMax (some (table, none, .fail)) := ⟨table, _, rfl, h, fun _ => rfl⟩

theorem handle_add (h : table.Refines s) {commandId : UInt8}
    (hadd : commandId = groupsCmdAdd ∨ commandId = groupsCmdAddIfIdentifying)
    (payload : List UInt8) (respMax : UInt8) :
    Serves s (requestOf commandId payload) respMax (handle table commandId payload respMax) := by
  rw [handle, requestOf, if_pos hadd, if_pos hadd]
  by_cases hlen : payload.length < 2
  · rw [if_pos hlen, read16_eq_none (by omega)]
    exact serves_ignored h respMax
  obtain ⟨g, hg⟩ := @read16_isSome payload 0 (by omega)
  simp only [if_neg hlen, hg, Option.bind_eq_bind, Option.bind_some, Option.elim_some]
  have hexact : ∀ status, 34 ≤ respMax.toNat →
      buildStatusResponse respMax status g = .exact (status :: le16 g) :=
    fun status hroom => buildStatusResponse_exact (by omega) status g
  by_cases hmem : table.isMember g = true
  · have hrefines := ZigbeeGroupTable.add_refines h g
    rw [ZigbeeGroupTable.add_member hmem] at hrefines
    rw [if_pos hmem]
    refine ⟨table, _, rfl, hrefines, fun hroom => ?_⟩
    rw [Answers, addStatus, if_pos ((ZigbeeGroupTable.isMember_iff h).mp hmem), hexact _ hroom]
  · rw [if_neg hmem]
    refine ⟨(table.add g).1, _, rfl, ZigbeeGroupTable.add_refines h g, fun hroom => ?_⟩
    have hadded := ZigbeeGroupTable.add_added h hmem
    rw [ZigbeeGroupTable.isMember_iff h] at hmem
    rw [Answers, addStatus, if_neg hmem, hexact _ hroom]
    simp only [hadded]

theorem handle_remove (h : table.Refines s) (payload : List UInt8) (respMax : UInt8) :
    Serves s (requestOf groupsCmdRemove payload) respMax
      (handle table groupsCmdRemove payload respMax) := by
  have hadd : ¬ (groupsCmdRemove = groupsCmdAdd ∨ groupsCmdRemove = groupsCmdAddIfIdentifying) := by
    decide
  rw [handle, requestOf, if_neg hadd, if_neg hadd, if_pos rfl, if_pos rfl]
  by_cases hlen : payload.length < 2
  · rw [if_pos hlen, read16_eq_none (by omega)]
    exact serves_ignored h respMax
  obtain ⟨g, hg⟩ := @read16_isSome payload 0 (by omega)
  simp only [if_neg hlen, hg, Option.bind_eq_bind, Option.bind_some, Option.elim_some]
  obtain ⟨hrefines, hremoved⟩ := ZigbeeGroupTable.remove_refines h g
  refine ⟨(table.remove g).1, _, rfl, hrefines, fun hroom => ?_⟩
  rw [Answers, removeStatus, buildStatusResponse_exact (by omega)]
  simp only [hremoved]

theorem handle_membership (h : table.Refines s) {payload : List UInt8}
    (hshort : payload.length ≤ 125) (respMax : UInt8) :
    Serves s (requestOf groupsCmdGetMembership payload) respMax
      (handle table groupsCmdGetMembership payload respMax) := by
  have hadd : ¬ (groupsCmdGetMembership = groupsCmdAdd ∨
      groupsCmdGetMembership = groupsCmdAddIfIdentifying) := by decide
  have hremove : ¬ groupsCmdGetMembership = groupsCmdRemove := by decide
  have hall : ¬ groupsCmdGetMembership = groupsCmdRemoveAll := by decide
  rw [handle, requestOf, if_neg hadd, if_neg hadd, if_neg hremove, if_neg hremove, if_neg hall,
    if_neg hall, if_pos rfl, if_pos rfl]
  by_cases hlen : payload.length < 1
  · have hnone : read8 payload 0 = none := List.getElem?_eq_none (by omega)
    rw [if_pos hlen, hnone]
    exact serves_ignored h respMax
  obtain ⟨count, hcount⟩ := @getElem?_isSome payload 0 (by omega)
  simp only [if_neg hlen, read8_eq, hcount, Option.bind_eq_bind, Option.bind_some,
    Option.elim_some]
  have hle := h.2.length_le
  have hcapacity : ((table.capacity + 256 - table.groups.length) % 256).toUInt8 =
      (n - s.members.card).toUInt8 := by
    rw [← h.2.length_eq, h.1, ← UInt8.toNat_inj]
    simp only [UInt8.toNat_ofNat', Nat.toUInt8_eq]
    omega
  have hanswer : ∀ asked groups, groups.length ≤ 16 → Lists s asked groups →
      Serves s (.membership asked) respMax (some (table, some groupsCmdGetMembership,
        buildMembershipResponse respMax
          ((table.capacity + 256 - table.groups.length) % 256) groups)) := by
    intro asked groups hgroups hlists
    refine ⟨table, _, rfl, h, fun hroom => ⟨groups, hlists, ?_⟩⟩
    rw [buildMembershipResponse_exact hroom _ hgroups, hcapacity]
  by_cases hzero : count = 0
  · rw [if_pos hzero, if_pos hzero]
    exact hanswer none _ (List.length_take_le 16 _) (lists_all h)
  · have hscan := @requestedGroups_eq table payload hshort count.toNat 0 (Nat.zero_le 62) []
      (Nat.zero_le 16)
    rw [if_neg hzero, if_neg hzero, hscan]
    exact hanswer (some _) _ (List.length_take_le 16 _) (lists_asked h _)

theorem handle_serves (h : table.Refines s) (commandId : UInt8) {payload : List UInt8}
    (hshort : payload.length ≤ 125) (respMax : UInt8) :
    Serves s (requestOf commandId payload) respMax (handle table commandId payload respMax) := by
  by_cases hadd : commandId = groupsCmdAdd ∨ commandId = groupsCmdAddIfIdentifying
  · exact handle_add h hadd payload respMax
  by_cases hremove : commandId = groupsCmdRemove
  · subst hremove
    exact handle_remove h payload respMax
  by_cases hall : commandId = groupsCmdRemoveAll
  · rw [handle, requestOf, if_neg hadd, if_neg hadd, if_neg hremove, if_neg hremove, if_pos hall,
      if_pos hall]
    exact ⟨table.clear, _, rfl, ⟨h.1, BoundedSet.represents_empty⟩, fun _ => rfl⟩
  by_cases hget : commandId = groupsCmdGetMembership
  · subst hget
    exact handle_membership h hshort respMax
  · rw [handle, requestOf, if_neg hadd, if_neg hadd, if_neg hremove, if_neg hremove, if_neg hall,
      if_neg hall, if_neg hget, if_neg hget]
    exact serves_ignored h respMax

end

end ZigbeeGroupsCluster

/-! ## Runs -/

/-- A call of the handler with a payload of at most 125 bytes and room for the longest answer. -/
structure GroupsCommand where
  commandId : UInt8
  payload : List UInt8
  respMax : UInt8
  short : payload.length ≤ 125
  room : 34 ≤ respMax.toNat

namespace GroupsCommand

open ZigbeeGroupsCluster

def request (c : GroupsCommand) : GroupsRequest := requestOf c.commandId c.payload

/-- The table, the response command and the response after the call. -/
def call (c : GroupsCommand) (table : ZigbeeGroupTable) :
    Option (ZigbeeGroupTable × Option UInt8 × Built) :=
  handle table c.commandId c.payload c.respMax

def step (table : ZigbeeGroupTable) (c : GroupsCommand) : Option ZigbeeGroupTable :=
  (c.call table).map Prod.fst

/-- The table after a run of commands from `begin`. -/
def after (capacity : UInt8) (commands : List GroupsCommand) : Option ZigbeeGroupTable :=
  commands.foldlM step (ZigbeeGroupTable.begin capacity)

/-- The set that the requests of the commands leave. -/
def groupsAfter (capacity : UInt8) (commands : List GroupsCommand) :
    BoundedSet UInt16 capacity.toNat :=
  commands.foldl (fun s c => c.request.result s) .empty

theorem call_serves {table : ZigbeeGroupTable} {s : BoundedSet UInt16 n} (h : table.Refines s)
    (c : GroupsCommand) :
    ∃ table' response, c.call table = some (table', response) ∧
      table'.Refines (c.request.result s) ∧ Answers s response c.request := by
  obtain ⟨table', response, hcall, hrefines, hanswer⟩ :=
    handle_serves h c.commandId c.short c.respMax
  exact ⟨table', response, hcall, hrefines, hanswer c.room⟩

theorem run_refines {table : ZigbeeGroupTable} {s : BoundedSet UInt16 n} (h : table.Refines s)
    (commands : List GroupsCommand) :
    ∃ table', commands.foldlM step table = some table' ∧
      table'.Refines (commands.foldl (fun s c => c.request.result s) s) := by
  refine Runs.refines ?_ h commands
  intro table s c hrefines
  obtain ⟨next, response, hcall, hnext, -⟩ := call_serves hrefines c
  exact ⟨next, by rw [step, hcall]; rfl, hnext⟩

/-- After any run the table stores the groups of the set, each once, and any further command does to
the table what it does to the set and is answered for that set. -/
theorem groups_bounded_set (capacity : UInt8) (past : List GroupsCommand) (c : GroupsCommand) :
    ∃ table table' response, after capacity past = some table ∧
      c.call table = some (table', response) ∧
      table.Refines (groupsAfter capacity past) ∧
      table'.Refines (groupsAfter capacity (past ++ [c])) ∧
      Answers (groupsAfter capacity past) response c.request := by
  obtain ⟨table, hrun, hrefines⟩ :=
    run_refines (ZigbeeGroupTable.begin_refines capacity) past
  obtain ⟨table', response, hcall, hnext, hanswer⟩ := call_serves hrefines c
  refine ⟨table, table', response, hrun, hcall, hrefines, ?_, hanswer⟩
  rw [groupsAfter, List.foldl_append]
  exact hnext

/-- The answer with all the members when all are asked for. -/
def AnswersAll (s : BoundedSet UInt16 n) (response : Option UInt8 × Built) : GroupsRequest → Prop
  | .membership none =>
    ∃ groups, s.Represents groups ∧
      response = (some groupsCmdGetMembership,
        .exact ((n - s.members.card).toUInt8 :: groups.length.toUInt8 :: groups.flatMap le16))
  | request => Answers s response request

/-- `mine` has sixteen places, so all the members are answered unless there are more. -/
theorem answersAll_iff {s : BoundedSet UInt16 n} {response : Option UInt8 × Built}
    {request : GroupsRequest} (h : Answers s response request) :
    AnswersAll s response request ↔ ¬ (request = .membership none ∧ 16 < s.members.card) := by
  cases request with
  | membership asked =>
    cases asked with
    | some asked => simpa [AnswersAll] using h
    | none =>
      obtain ⟨groups, hlists, hresponse⟩ := h
      simp only [ZigbeeGroupsCluster.Lists] at hlists
      by_cases hfew : s.members.card ≤ 16
      · rw [if_pos hfew] at hlists
        exact iff_of_true ⟨groups, hlists, hresponse⟩ fun hmany => by omega
      · rw [if_neg hfew] at hlists
        refine iff_of_false ?_ (not_not.mpr ⟨rfl, by omega⟩)
        rintro ⟨all, hall, hsame⟩
        have hlen := congrArg (fun r => r.2.len) (hresponse.symm.trans hsame)
        simp only [Built.exact_len, List.length_cons, length_words, hlists.2.2, hall.length_eq]
          at hlen
        omega
  | _ => simpa [AnswersAll] using h

/-- After any run, the table stores the groups of the set and the next command is answered for it,
with all the members unless more than sixteen are asked for at once. -/
theorem groups_answered_iff (capacity : UInt8) (past : List GroupsCommand) (c : GroupsCommand) :
    ∃ table table' response, after capacity past = some table ∧
      c.call table = some (table', response) ∧
      table.Refines (groupsAfter capacity past) ∧
      table'.Refines (groupsAfter capacity (past ++ [c])) ∧
      (AnswersAll (groupsAfter capacity past) response c.request ↔
        ¬ (c.request = .membership none ∧ 16 < (groupsAfter capacity past).members.card)) := by
  obtain ⟨table, table', response, hrun, hcall, hrefines, hnext, hanswer⟩ :=
    groups_bounded_set capacity past c
  exact ⟨table, table', response, hrun, hcall, hrefines, hnext, answersAll_iff hanswer⟩

/-- An Add Group command with an empty name. -/
def addGroup (g : UInt16) : GroupsCommand where
  commandId := groupsCmdAdd
  payload := le16 g ++ [0]
  respMax := 34
  short := by simp
  room := by decide

/-- A query for all the groups. -/
def allGroups : GroupsCommand where
  commandId := groupsCmdGetMembership
  payload := [0]
  respMax := 34
  short := by simp
  room := by decide

/-- Of seventeen groups the answer lists sixteen. -/
theorem membership_truncated :
    ¬ ∀ (capacity : UInt8) (past : List GroupsCommand) (c : GroupsCommand)
        (table table' : ZigbeeGroupTable) (response : Option UInt8 × Built),
      after capacity past = some table → c.call table = some (table', response) →
      c.request = .membership none →
      ∃ groups, (groupsAfter capacity past).Represents groups ∧
        response = (some groupsCmdGetMembership,
          .exact ((capacity.toNat - (groupsAfter capacity past).members.card).toUInt8 ::
            groups.length.toUInt8 :: groups.flatMap le16)) := by
  intro h
  let past := (List.range 17).map fun i => addGroup i.toUInt16
  let table : ZigbeeGroupTable :=
    { capacity := 17, groups := (List.range 17).map Nat.toUInt16 }
  let response := buildMembershipResponse 34 0 (table.groups.take 16)
  have hafter : after 17 past = some table := by decide
  obtain ⟨groups, hrepresents, hresponse⟩ :=
    h 17 past allGroups table table (some groupsCmdGetMembership, response) hafter (by decide) rfl
  obtain ⟨table₁, hrun, hrefines⟩ := run_refines (ZigbeeGroupTable.begin_refines 17) past
  obtain rfl := Option.some.inj (hafter.symm.trans hrun)
  have hsame : groups.length = 17 := hrepresents.length_eq.trans hrefines.2.length_eq.symm
  have hlen := congrArg (fun r => r.2.len) hresponse
  simp only [Built.exact_len, List.length_cons, length_words, hsame] at hlen
  exact absurd hlen (by decide)

end GroupsCommand

end NiusZigbee
