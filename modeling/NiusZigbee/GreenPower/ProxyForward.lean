import NiusZigbee.GreenPower.GpdfHeader
import NiusZigbee.GreenPower.Proxy

/-!
# What the proxy forwards

The proxy tells the sink what the header of a frame says. The body reaches the sink from levels 0
and 3; at the other two the proxy takes the frame for an unsecured one, whose command the parser
did not look for.
-/

namespace NiusZigbee.ZigbeeGpProxy

open ByteCodec OutBuffer ZigbeeGreenPower
open ZigbeeGreenPowerCluster (buildNotification notificationBytes onWire parseNotification)

/-- The check for duplicates, which frames without a counter pass. -/
def checked (entries : List GpProxyEntry) (gpdf : List UInt8) : List GpProxyEntry × Bool :=
  if Counted gpdf then isDuplicate entries (sourceOf gpdf) (counterOf gpdf) else (entries, false)

/-- The notification of an encrypted frame, which cuts its body in three. -/
def ciphered (gpdf : List UInt8) (gppShortAddr : UInt16) (gppLink : UInt8) : GpNotification :=
  { notice (frameOf gpdf) gppShortAddr gppLink with
    secured := true
    commandId := (body gpdf).getD 0 0
    payload := slice (body gpdf) 1 (gpdf.length - 15)
    mic := Mic.ofList ((body gpdf).drop (gpdf.length - 14)) }

/-- The notification of any other frame, with what the parser found of a command. -/
def inClear (gpdf : List UInt8) (gppShortAddr : UInt16) (gppLink : UInt8) : GpNotification :=
  { notice (frameOf gpdf) gppShortAddr gppLink with
    commandId := (frameOf gpdf).commandId, payload := (frameOf gpdf).payload }

/-- The notification made of a frame, if its length allows one. -/
def heard (gpdf : List UInt8) (gppShortAddr : UInt16) (gppLink : UInt8) : Option GpNotification :=
  if levelOf gpdf = gpSecEncFcMic then
    if 15 ≤ gpdf.length ∧ gpdf.length ≤ 62 then some (ciphered gpdf gppShortAddr gppLink) else none
  else some (inClear gpdf gppShortAddr gppLink)

variable {entries : List GpProxyEntry} {gpdf : List UInt8} {gppShortAddr : UInt16}
  {gppLink outMax : UInt8} {n : GpNotification}

theorem heard_eq_some :
    heard gpdf gppShortAddr gppLink = some n ↔
      levelOf gpdf = gpSecEncFcMic ∧ (15 ≤ gpdf.length ∧ gpdf.length ≤ 62) ∧
          n = ciphered gpdf gppShortAddr gppLink ∨
        levelOf gpdf ≠ gpSecEncFcMic ∧ n = inClear gpdf gppShortAddr gppLink := by
  unfold heard
  by_cases hencrypted : levelOf gpdf = gpSecEncFcMic
  · by_cases hlen : 15 ≤ gpdf.length ∧ gpdf.length ≤ 62
    · simp [hencrypted, hlen, eq_comm]
    · simp [hencrypted, hlen]
  · simp [hencrypted, eq_comm]

theorem ciphered_eq (h : levelOf gpdf = gpSecEncFcMic) (hlen : 15 ≤ gpdf.length) :
    ciphered gpdf gppShortAddr gppLink =
      { notice (frameOf gpdf) gppShortAddr gppLink with
        secured := true
        commandId := gpdf.getD 10 0
        payload := slice gpdf 11 (gpdf.length - 14 - 1)
        mic := Mic.ofList (gpdf.drop (gpdf.length - 4)) } := by
  have hcommand : (body gpdf).getD 0 0 = gpdf.getD 10 0 := by
    simp [body, headerEnd_encrypted h, List.getD_eq_getElem?_getD]
  have hpayload : slice (body gpdf) 1 (gpdf.length - 15) =
      slice gpdf 11 (gpdf.length - 14 - 1) := by
    rw [slice, slice, body, headerEnd_encrypted h, List.drop_drop]
    rfl
  have hmic : (body gpdf).drop (gpdf.length - 14) = gpdf.drop (gpdf.length - 4) := by
    rw [body, headerEnd_encrypted h, List.drop_drop]
    congr 1
    omega
  rw [ciphered, hcommand, hpayload, hmic]

theorem forward_unparsable (h : ¬ Parsable gpdf) :
    forward entries gpdf gppShortAddr gppLink outMax = { entries := entries } := by
  have hparse := (parse_parsable gpdf).2 h
  simp only [forward, hparse, Bool.not_false, if_true]

theorem forward_parsable (h : Parsable gpdf) (hlen : gpdf.length < 256) :
    (forward entries gpdf gppShortAddr gppLink outMax).entries = (checked entries gpdf).1 ∧
      (forward entries gpdf gppShortAddr gppLink outMax).out =
        if (checked entries gpdf).2 then .fail
        else ((heard gpdf gppShortAddr gppLink).map (buildNotification outMax)).getD .fail := by
  have hparse := (parse_parsable gpdf).1 h
  have hchecked : (if ¬ ((frameOf gpdf).securityLevel = gpSecNone ∧
        (frameOf gpdf).commandId = gpdCmdCommissioning) ∧
          (frameOf gpdf).securityLevel ≥ gpSecFcMic then
        isDuplicate entries (frameOf gpdf).srcId (frameOf gpdf).frameCounter
      else (entries, false)) = checked entries gpdf := by
    refine if_congr ?_ rfl rfl
    refine ⟨fun h => h.2, fun hcounted => ⟨fun hclear => ?_, hcounted⟩⟩
    have hnone : levelOf gpdf = gpSecNone := hclear.1
    rw [Counted, hnone] at hcounted
    exact absurd hcounted (by decide)
  have happ : (frameOf gpdf).applicationId = 0 := rfl
  obtain ⟨sent, hsent⟩ : ∃ sent, sent = forward entries gpdf gppShortAddr gppLink outMax :=
    ⟨_, rfl⟩
  rw [← hsent]
  simp only [forward, hparse, Bool.not_true, Bool.false_eq_true, if_false, happ, ne_eq,
    not_true_eq_false, hchecked] at hsent
  by_cases hduplicate : (checked entries gpdf).2 = true
  · rw [if_pos hduplicate] at hsent ⊢
    rw [hsent]
    exact ⟨rfl, rfl⟩
  rw [if_neg hduplicate] at hsent ⊢
  by_cases hcommissioning : (frameOf gpdf).securityLevel = gpSecNone ∧
    (frameOf gpdf).commandId = gpdCmdCommissioning
  · have hclear : levelOf gpdf ≠ gpSecEncFcMic := by
      have hnone : levelOf gpdf = gpSecNone := hcommissioning.1
      rw [hnone]
      decide
    rw [if_pos hcommissioning] at hsent
    rw [hsent, heard, if_neg hclear]
    exact ⟨rfl, rfl⟩
  rw [if_neg hcommissioning] at hsent
  by_cases hencrypted : levelOf gpdf = gpSecEncFcMic
  swap
  · have hlevel : ¬ (frameOf gpdf).securityLevel = gpSecEncFcMic := hencrypted
    rw [if_neg hlevel] at hsent
    rw [hsent, heard, if_neg hencrypted]
    exact ⟨rfl, rfl⟩
  have hlevel : (frameOf gpdf).securityLevel = gpSecEncFcMic := hencrypted
  rw [if_pos hlevel] at hsent
  rw [heard, if_pos hencrypted]
  by_cases hshort : gpdf.length < 10 + 1 + 4
  · rw [if_pos hshort] at hsent
    rw [hsent, if_neg (by omega)]
    exact ⟨rfl, rfl⟩
  rw [if_neg hshort] at hsent
  have henc : (gpdf.length - 10 - 4) % 256 = gpdf.length - 14 := by omega
  rw [henc] at hsent
  by_cases hlong : gpdf.length > 62
  · rw [if_pos (by omega)] at hsent
    rw [hsent, if_neg (by omega)]
    exact ⟨rfl, rfl⟩
  rw [if_neg (by omega)] at hsent
  rw [hsent, if_pos (by omega), ciphered_eq hencrypted (by omega)]
  exact ⟨rfl, rfl⟩

theorem heard_fits (h : Parsable gpdf) (hheard : heard gpdf gppShortAddr gppLink = some n) :
    n.payload.length ≤ ZigbeeGreenPowerCluster.kMaxPayload ∧ onWire n = n := by
  have hlevel : levelOf gpdf &&& 0x03 = levelOf gpdf := by
    rw [levelOf, UInt8.and_assoc]
    rfl
  rcases heard_eq_some.mp hheard with ⟨_, hlen, rfl⟩ | ⟨_, rfl⟩
  · refine ⟨?_, by simp [onWire, ciphered, notice, frameOf, hlevel]⟩
    simp only [ciphered, slice, List.length_take, ZigbeeGreenPowerCluster.kMaxPayload]
    omega
  · refine ⟨?_, by simp [onWire, inClear, notice, frameOf, hlevel]⟩
    by_cases hclear : levelOf gpdf = gpSecNone
    · have hbody := (h.2.2.2.2 hclear).2
      simp only [inClear, frameOf, if_pos hclear, List.length_drop]
      exact Nat.sub_le_of_le_add (Nat.add_comm _ _ ▸ hbody)
    · simp [inClear, frameOf, if_neg hclear]

theorem heard_header (hheard : heard gpdf gppShortAddr gppLink = some n) :
    n.srcId = sourceOf gpdf ∧ n.frameCounter = counterOf gpdf ∧
      n.securityLevel = levelOf gpdf ∧ n.rxAfterTx = rxAfterTxOf gpdf := by
  rcases heard_eq_some.mp hheard with ⟨_, _, rfl⟩ | ⟨_, rfl⟩
  · exact ⟨rfl, rfl, rfl, rfl⟩
  · exact ⟨rfl, rfl, rfl, rfl⟩

theorem forward_fresh (h : Parsable gpdf) (hlen : gpdf.length < 256)
    (hfresh : (checked entries gpdf).2 = false)
    (hheard : heard gpdf gppShortAddr gppLink = some n) :
    (forward entries gpdf gppShortAddr gppLink outMax).out =
      if (notificationBytes n).length ≤ outMax.toNat then .exact (notificationBytes n)
      else .fail := by
  rw [(forward_parsable h hlen).2, hfresh, hheard, if_neg Bool.false_ne_true, Option.map_some,
    Option.getD_some]
  exact ZigbeeGreenPowerCluster.buildNotification_eq (heard_fits h hheard).1

/-- A frame is sent on if it is no duplicate and there is a notification of it that fits. -/
theorem forward_sent (h : Parsable gpdf) (hlen : gpdf.length < 256) :
    (forward entries gpdf gppShortAddr gppLink outMax).out.len ≠ 0 ↔
      (checked entries gpdf).2 = false ∧ ∃ n, heard gpdf gppShortAddr gppLink = some n ∧
        (notificationBytes n).length ≤ outMax.toNat := by
  constructor
  · intro hsent
    cases hduplicate : (checked entries gpdf).2 with
    | true =>
      rw [(forward_parsable h hlen).2, hduplicate, if_pos rfl] at hsent
      exact absurd rfl hsent
    | false =>
      refine ⟨rfl, ?_⟩
      cases hheard : heard gpdf gppShortAddr gppLink with
      | none =>
        rw [(forward_parsable h hlen).2, hduplicate, hheard] at hsent
        exact absurd rfl hsent
      | some n =>
        refine ⟨n, rfl, ?_⟩
        rw [forward_fresh h hlen hduplicate hheard] at hsent
        by_contra hroom
        rw [if_neg hroom] at hsent
        exact hsent rfl
  · rintro ⟨hfresh, n, hheard, hroom⟩
    rw [forward_fresh h hlen hfresh hheard, if_pos hroom]
    show (notificationBytes n).length ≠ 0
    rw [ZigbeeGreenPowerCluster.notificationBytes_length]
    omega

/-- What a notification carries of the body of a frame. -/
def carried (n : GpNotification) : List UInt8 :=
  n.commandId :: n.payload ++ if n.secured then n.mic.toList else []

theorem carried_ciphered (h : levelOf gpdf = gpSecEncFcMic) (hlen : 15 ≤ gpdf.length) :
    carried (ciphered gpdf gppShortAddr gppLink) = body gpdf := by
  have hbody : (body gpdf).length = gpdf.length - 10 := by
    rw [body, headerEnd_encrypted h, List.length_drop]
  obtain ⟨command, rest, hrest⟩ := List.exists_cons_of_length_pos (l := body gpdf) (by omega)
  rw [hrest, List.length_cons] at hbody
  have hdrop : (command :: rest).drop (gpdf.length - 14) = rest.drop (gpdf.length - 15) := by
    rw [show gpdf.length - 14 = (gpdf.length - 15) + 1 by omega, List.drop_succ_cons]
  have hmic : (rest.drop (gpdf.length - 15)).length = 4 := by
    rw [List.length_drop]
    omega
  simp only [carried, ciphered, hrest, hdrop, if_true, Mic.toList_ofList hmic]
  show command :: rest.take (gpdf.length - 15) ++ rest.drop (gpdf.length - 15) = command :: rest
  rw [List.cons_append, List.take_append_drop]

/-- A body in clear comes through whole, and of any other body nothing: the parser left command and
payload empty. -/
theorem carried_inClear (h : Parsable gpdf) :
    carried (inClear gpdf gppShortAddr gppLink) =
      if levelOf gpdf = gpSecNone then body gpdf else [0] := by
  by_cases hclear : levelOf gpdf = gpSecNone
  · obtain ⟨command, rest, hrest⟩ :=
      List.exists_cons_of_length_pos (l := body gpdf) (h.2.2.2.2 hclear).1
    simp [carried, inClear, notice, frameOf, hclear, hrest]
  · simp [carried, inClear, notice, frameOf, hclear]

theorem carried_heard (h : Parsable gpdf) (hheard : heard gpdf gppShortAddr gppLink = some n) :
    carried n = body gpdf ↔
      levelOf gpdf = gpSecNone ∨ levelOf gpdf = gpSecEncFcMic ∨ body gpdf = [0] := by
  rcases heard_eq_some.mp hheard with ⟨hencrypted, hlen, rfl⟩ | ⟨hother, rfl⟩
  · exact iff_of_true (carried_ciphered hencrypted hlen.1) (Or.inr (Or.inl hencrypted))
  rw [carried_inClear h]
  by_cases hclear : levelOf gpdf = gpSecNone
  · rw [if_pos hclear]
    exact iff_of_true rfl (Or.inl hclear)
  rw [if_neg hclear]
  constructor
  · exact fun h => Or.inr (Or.inr h.symm)
  · rintro (h | h | h)
    · exact absurd h hclear
    · exact absurd h hother
    · exact h.symm

/-- Of a frame that is forwarded the sink learns what its header says; it gets the body just from
levels 0 and 3, or where the body is what the proxy makes up. -/
theorem forwards_as_heard_iff {entries : List GpProxyEntry} {gpdf : List UInt8}
    {gppShortAddr : UInt16} {gppLink outMax : UInt8} (hlen : gpdf.length < 256)
    (hsent : (forward entries gpdf gppShortAddr gppLink outMax).out.len ≠ 0) :
    (∃ n, parseNotification (forward entries gpdf gppShortAddr gppLink outMax).out.bytes = some n ∧
      (n.srcId = sourceOf gpdf ∧ n.frameCounter = counterOf gpdf ∧
        n.securityLevel = levelOf gpdf ∧ n.rxAfterTx = rxAfterTxOf gpdf) ∧
      carried n = body gpdf) ↔
    levelOf gpdf = gpSecNone ∨ levelOf gpdf = gpSecEncFcMic ∨ body gpdf = [0] := by
  have hparsable : Parsable gpdf := by
    by_contra h
    rw [forward_unparsable h] at hsent
    exact hsent rfl
  obtain ⟨hfresh, n, hheard, hroom⟩ := (forward_sent hparsable hlen).mp hsent
  obtain ⟨hfits, hwire⟩ := heard_fits hparsable hheard
  have hparsed : parseNotification
      (forward entries gpdf gppShortAddr gppLink outMax).out.bytes = some n := by
    rw [forward_fresh hparsable hlen hfresh hheard, if_pos hroom, Built.exact_bytes,
      ZigbeeGreenPowerCluster.parseNotification_bytes hfits, hwire]
  rw [← carried_heard hparsable hheard]
  constructor
  · rintro ⟨n', hparsed', _, hcarried⟩
    obtain rfl := Option.some.inj (hparsed.symm.trans hparsed')
    exact hcarried
  · exact fun hcarried => ⟨n, hparsed, heard_header hheard, hcarried⟩

/-- The device 0x01234567 sends counter 5, a command of two bytes and a MIC. -/
def commandFrame (extFc : UInt8) : List UInt8 :=
  [0x8C, extFc, 0x67, 0x45, 0x23, 0x01, 0x05, 0x00, 0x00, 0x00, 0x20, 0x01, 0xDE, 0xAD, 0xBE, 0xEF]

theorem forwards_as_heard_encrypted :
    let sent := forward (begin 4) (commandFrame 0x18) 0x1234 0xE0 64
    sent.out.len ≠ 0 ∧ ∃ n, parseNotification sent.out.bytes = some n ∧
      (n.srcId = 0x01234567 ∧ n.frameCounter = 5 ∧ n.securityLevel = 3 ∧ n.rxAfterTx = false) ∧
      carried n = [0x20, 0x01, 0xDE, 0xAD, 0xBE, 0xEF] := by
  have hsent : (forward (begin 4) (commandFrame 0x18) 0x1234 0xE0 64).out.len ≠ 0 := by
    decide
  exact ⟨hsent, (forwards_as_heard_iff (by decide) hsent).mpr (Or.inr (Or.inl (by decide)))⟩

/-- At level 2 the command 0x20, its payload and the MIC are lost on the way. -/
theorem forwards_without_body :
    let sent := forward (begin 4) (commandFrame 0x10) 0x1234 0xE0 64
    sent.out.len ≠ 0 ∧ body (commandFrame 0x10) = [0x20, 0x01, 0xDE, 0xAD, 0xBE, 0xEF] ∧
    (parseNotification sent.out.bytes).map (fun n => (n.srcId, n.commandId, n.payload, n.secured)) =
      some (0x01234567, 0, [], false) ∧
    ∀ n, parseNotification sent.out.bytes = some n → carried n ≠ body (commandFrame 0x10) := by
  refine ⟨by decide, by decide, by decide, ?_⟩
  intro n hparsed hcarried
  have hnone : (parseNotification
      (forward (begin 4) (commandFrame 0x10) 0x1234 0xE0 64).out.bytes).map carried = some [0] := by
    decide
  rw [hparsed, Option.map_some, hcarried] at hnone
  exact absurd hnone (by decide)

end NiusZigbee.ZigbeeGpProxy
