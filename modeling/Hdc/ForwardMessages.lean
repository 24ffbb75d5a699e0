import Hdc.Bytes
import Hdc.Config
import Hdc.Packet
import Hdc.RustStd

/- The control messages of port forwarding, as the two crates lay them out and
   read them (`hdc/src/server.rs`, `hdcd/src/forward.rs`): who puts which byte
   where, with no state of the forwards themselves.

   A message that names an endpoint is the id, eight zero bytes, the spec and a
   NUL, whoever sends it. The daemon's `handle_forward_task` reads it by
   `decodeForwardTask`; the host has two readers of its own. The two sides do
   not agree on the check result: the host writes and reads the flag in the
   fifth byte, the daemon writes it in the thirteenth. `forward_messages_iff`
   says what that leaves of the exchange. -/
namespace Hdc
open Rust Wire

/-! Writers. -/

/-- `vec![0u8; 4 + 8 + spec.len() + 1]` with the id copied to its front and the
spec to position 12. -/
def specPayload (id : UInt32) (spec : String) : List UInt8 :=
  be 4 id.toNat ++ List.replicate 8 0 ++ utf8 spec ++ [0]

def flagByte (ok : Bool) : UInt8 := if ok then 1 else 0

/-- The `check_msg` of `handle_server_forward`, also sent again as its follow-up
check. -/
def hostForwardCheck (channelId ctxId : UInt32) (remoteSpec : String) : TaskMessage :=
  ⟨channelId, .forwardCheck, specPayload ctxId remoteSpec⟩

/-- The `active_slave` of `run_forward_bridge`. -/
def hostActiveSlave (channelId forwardId : UInt32) (remoteSpec : String) : TaskMessage :=
  ⟨channelId, .forwardActiveSlave, specPayload forwardId remoteSpec⟩

/-- `send_forward_check_result`, and the `result_msg` of the two rport paths. -/
def hostCheckResult (channelId ctxId : UInt32) (ok : Bool) : TaskMessage :=
  ⟨channelId, .forwardCheckResult, be 4 ctxId.toNat ++ [flagByte ok]⟩

/-- The `check_msg` of `run_rport_listener`. -/
def daemonForwardCheck (channelId listenerId : UInt32) (localSpec : String) : TaskMessage :=
  ⟨channelId, .forwardCheck, specPayload listenerId localSpec⟩

/-- The `active_slave` of `run_rport_connection`. -/
def daemonActiveSlave (channelId connId : UInt32) (localSpec : String) : TaskMessage :=
  ⟨channelId, .forwardActiveSlave, specPayload connId localSpec⟩

/-- The `response` of `handle_forward_task` to a `ForwardCheck`:
`vec![0u8; 4 + 8 + 1]` with the flag in `payload[12]`. -/
def daemonCheckResult (channelId ctxId : UInt32) (ok : Bool) : TaskMessage :=
  ⟨channelId, .forwardCheckResult, be 4 ctxId.toNat ++ List.replicate 8 0 ++ [flagByte ok]⟩

/-- The `active_master` of `handle_forward_task`. -/
def daemonActiveMaster (channelId forwardId : UInt32) (remoteSpec : String) : TaskMessage :=
  ⟨channelId, .forwardActiveMaster, specPayload forwardId remoteSpec⟩

/-- The `ForwardData` of either side's copy loop. -/
def forwardData (channelId forwardId : UInt32) (data : List UInt8) : TaskMessage :=
  ⟨channelId, .forwardData, be 4 forwardId.toNat ++ data⟩

/-- The `ForwardFreeContext` of either side. -/
def forwardFreeContext (channelId forwardId : UInt32) : TaskMessage :=
  ⟨channelId, .forwardFreeContext, be 4 forwardId.toNat⟩

/-! Readers. -/

/-- `u32::from_be_bytes` of the first four bytes. -/
def readId (payload : List UInt8) : UInt32 := UInt32.ofNat (ofBe (payload.take 4))

def parseNullTerminated (data : List UInt8) : String := fromUtf8Lossy (data.takeWhile (· ≠ 0))

/-- `RportMsg`, as far as messages from the host produce it. -/
inductive RportMsg where
  | checkResult (ctxId : UInt32) (ok : Bool)
  | activeMaster (connId : UInt32)
  | data (connId : UInt32) (data : List UInt8)
  | freeContext (connId : UInt32)
  deriving DecidableEq, Repr

/-- What `handle_forward_task` does with a message, once it has read it. -/
inductive ForwardTask where
  | toListener (msg : RportMsg)
  | rportInit (payload : List UInt8)
  | check (ctxId : UInt32) (remoteSpec : String)
  | activeSlave (forwardId : UInt32) (remoteSpec : String)
  | data (forwardId : UInt32) (data : List UInt8)
  | freeContext (forwardId : UInt32)
  /-- Answer with an echo of this text. -/
  | echo (text : String) (success : Bool)
  | ignore
  deriving DecidableEq, Repr

/-- The messages routed to the rport listener of their channel, if it has one;
`none` is for the commands that go on to the match below. -/
def routeToListener (msg : TaskMessage) : Option ForwardTask :=
  let payload := msg.payload
  match msg.command with
  | .forwardCheckResult =>
    some (if 5 ≤ payload.length then
      .toListener (.checkResult (readId payload) (payload[4]?.getD 0 != 0)) else .ignore)
  | .forwardActiveMaster =>
    some (if 4 ≤ payload.length then .toListener (.activeMaster (readId payload)) else .ignore)
  | .forwardData =>
    some (if 4 ≤ payload.length then
      .toListener (.data (readId payload) (payload.drop 4)) else .ignore)
  | .forwardFreeContext =>
    some (if 4 ≤ payload.length then .toListener (.freeContext (readId payload)) else .ignore)
  | _ => none

/-- The match of `handle_forward_task`, up to its effects. -/
def matchForwardTask (msg : TaskMessage) : ForwardTask :=
  let payload := msg.payload
  match msg.command with
  | .forwardInit | .forwardRportInit => .rportInit payload
  | .forwardCheck =>
    if payload.length < 12 + 1 then .ignore
    else .check (readId payload) (parseNullTerminated (payload.drop 12))
  | .forwardActiveSlave =>
    if payload.length < 12 + 1 then .ignore
    else .activeSlave (readId payload) (parseNullTerminated (payload.drop 12))
  | .forwardData =>
    if payload.length < 4 then .ignore else .data (readId payload) (payload.drop 4)
  | .forwardFreeContext =>
    if payload.length < 4 then .ignore else .freeContext (readId payload)
  | .forwardList | .forwardRportList => .echo "" true
  | .forwardRemove | .forwardRportRemove => .echo "Forward removed" true
  | .forwardSuccess => .ignore
  | _ => .echo "Command not implemented" false

/-- `handle_forward_task` up to its effects; `hasListener` says whether the
message's channel has an rport listener. -/
def decodeForwardTask (hasListener : Bool) (msg : TaskMessage) : ForwardTask :=
  (if hasListener then routeToListener msg else none).getD (matchForwardTask msg)

/-- The `ForwardCheck` arm of the two `ForwardInit` flows of
`handle_server_forward`. -/
def hostReadForwardCheck (payload : List UInt8) : IoResult (UInt32 × String) :=
  if payload.length < 4 + 8 + 1 then invalidData "ForwardCheck payload too short"
  else .ok (readId payload, parseNullTerminated (payload.drop (4 + 8)))

/-- The `ForwardCheck` and `ForwardActiveSlave` arms of `handle_server_rport`. -/
def hostReadRportSpec (payload : List UInt8) : Option (UInt32 × String) :=
  if 4 + 8 + 1 ≤ payload.length then
    some (readId payload, trimEndMatches (Char.ofNat 0) (fromUtf8Lossy (payload.drop 12)))
  else none

/-- The `ForwardCheckResult` arm of `handle_server_forward`. -/
def hostReadCheckResult (payload : List UInt8) : Option (UInt32 × Bool) :=
  if 5 ≤ payload.length then some (readId payload, payload[4]?.getD 0 != 0) else none

/-- The loop that waits for the result of check `ctxId`, over the messages that
arrive before its timeout. -/
def waitCheckResult (ctxId : UInt32) : List TaskMessage → IoResult Bool
  | [] => .error ⟨.connectionAborted, "Response channel closed while waiting for ForwardCheckResult"⟩
  | task :: rest =>
    match task.command with
    | .forwardCheckResult =>
      match hostReadCheckResult task.payload with
      | some (respCtxId, ok) => if respCtxId = ctxId then .ok ok else waitCheckResult ctxId rest
      | none => waitCheckResult ctxId rest
    | .kernelChannelClose =>
      .error ⟨.connectionAborted, "Channel closed by daemon during forward setup"⟩
    | _ => waitCheckResult ctxId rest

/-! Ids, specs and flags are read back. -/

/-- A spec without NUL bytes. -/
def NulFree (spec : String) : Prop := 0 ∉ utf8 spec

instance (spec : String) : Decidable (NulFree spec) := inferInstanceAs (Decidable (¬ _))

theorem readId_be (id : UInt32) (rest : List UInt8) : readId (be 4 id.toNat ++ rest) = id := by
  have htake : (be 4 id.toNat ++ rest).take 4 = be 4 id.toNat :=
    List.take_left' (be_length 4 _)
  rw [readId, htake, ofBe_be (w := 4) id.toNat_lt, UInt32.ofNat_toNat]

theorem parseNullTerminated_utf8 {spec : String} (h : NulFree spec) :
    parseNullTerminated (utf8 spec ++ [0]) = spec := by
  have hall : ∀ b ∈ utf8 spec, decide (b ≠ 0) = true := by
    intro b hb
    simp only [decide_eq_true_eq]
    rintro rfl
    exact h hb
  rw [parseNullTerminated, List.takeWhile_append_of_pos hall]
  simp

theorem trimEnd_utf8 {spec : String} (h : NulFree spec) :
    trimEndMatches (Char.ofNat 0) (fromUtf8Lossy (utf8 spec ++ [0])) = spec := by
  have hnul : utf8 (String.singleton (Char.ofNat 0)) = [0] := by decide
  rw [← hnul, ← utf8_append, fromUtf8Lossy_utf8]
  apply trimEndMatches_append
  rintro t rfl
  apply h
  rw [utf8_append, hnul]
  simp

@[simp] theorem specPayload_length (id : UInt32) (spec : String) :
    (specPayload id spec).length = 12 + (utf8 spec).length + 1 := by
  simp [specPayload]
  omega

theorem readId_specPayload (id : UInt32) (spec : String) : readId (specPayload id spec) = id := by
  simp only [specPayload, List.append_assoc]
  exact readId_be id _

theorem specPayload_drop (id : UInt32) (spec : String) :
    (specPayload id spec).drop 12 = utf8 spec ++ [0] := by
  have hlen : (be 4 id.toNat ++ List.replicate 8 (0 : UInt8)).length = 12 := by simp
  rw [specPayload, List.append_assoc, ← hlen, List.drop_left]

theorem flagByte_ne_zero (ok : Bool) : (flagByte ok != 0) = ok := by
  cases ok <;> decide

/-! The exchange. -/

/-- Every control message of a forward, read by the side it is sent to, gives
back the id with the spec or the outcome it was written with. -/
structure ForwardMessagesRead (channelId id : UInt32) (spec : String) (ok hasListener : Bool) :
    Prop where
  hostCheck : decodeForwardTask hasListener (hostForwardCheck channelId id spec) = .check id spec
  hostSlave : decodeForwardTask hasListener (hostActiveSlave channelId id spec) =
    .activeSlave id spec
  daemonCheck : hostReadForwardCheck (daemonForwardCheck channelId id spec).payload = .ok (id, spec)
  daemonRportCheck : hostReadRportSpec (daemonForwardCheck channelId id spec).payload =
    some (id, spec)
  daemonSlave : hostReadRportSpec (daemonActiveSlave channelId id spec).payload = some (id, spec)
  hostResult : decodeForwardTask true (hostCheckResult channelId id ok) =
    .toListener (.checkResult id ok)
  daemonResult : hostReadCheckResult (daemonCheckResult channelId id ok).payload = some (id, ok)

theorem decodeForwardTask_of_not_routed (hasListener : Bool) {msg : TaskMessage}
    (h : routeToListener msg = none) : decodeForwardTask hasListener msg = matchForwardTask msg := by
  cases hasListener <;> simp [decodeForwardTask, h]

theorem decodeForwardTask_check (hasListener : Bool) (channelId id : UInt32) {spec : String}
    (h : NulFree spec) :
    decodeForwardTask hasListener (hostForwardCheck channelId id spec) = .check id spec := by
  rw [decodeForwardTask_of_not_routed hasListener rfl]
  show (if (specPayload id spec).length < 12 + 1 then ForwardTask.ignore
    else .check (readId (specPayload id spec))
      (parseNullTerminated ((specPayload id spec).drop 12))) = _
  rw [if_neg (by simp), readId_specPayload, specPayload_drop, parseNullTerminated_utf8 h]

theorem decodeForwardTask_activeSlave_lossy (hasListener : Bool) (channelId id : UInt32)
    (spec : String) :
    decodeForwardTask hasListener (hostActiveSlave channelId id spec) =
      .activeSlave id (parseNullTerminated (utf8 spec ++ [0])) := by
  rw [decodeForwardTask_of_not_routed hasListener rfl]
  show (if (specPayload id spec).length < 12 + 1 then ForwardTask.ignore
    else .activeSlave (readId (specPayload id spec))
      (parseNullTerminated ((specPayload id spec).drop 12))) = _
  rw [if_neg (by simp), readId_specPayload, specPayload_drop]

theorem decodeForwardTask_activeSlave (hasListener : Bool) (channelId id : UInt32) {spec : String}
    (h : NulFree spec) :
    decodeForwardTask hasListener (hostActiveSlave channelId id spec) = .activeSlave id spec := by
  rw [decodeForwardTask_activeSlave_lossy, parseNullTerminated_utf8 h]

theorem decodeForwardTask_data (channelId id : UInt32) (data : List UInt8) :
    decodeForwardTask false (forwardData channelId id data) = .data id data := by
  show (if (be 4 id.toNat ++ data).length < 4 then ForwardTask.ignore
    else .data (readId (be 4 id.toNat ++ data)) ((be 4 id.toNat ++ data).drop 4)) = _
  rw [if_neg (by simp), readId_be, List.drop_left' (be_length 4 _)]

theorem decodeForwardTask_freeContext (channelId id : UInt32) :
    decodeForwardTask false (forwardFreeContext channelId id) = .freeContext id := by
  show (if (be 4 id.toNat).length < 4 then ForwardTask.ignore
    else .freeContext (readId (be 4 id.toNat))) = _
  have hid := readId_be id []
  rw [List.append_nil] at hid
  rw [if_neg (by simp), hid]

theorem hostReadForwardCheck_specPayload (id : UInt32) {spec : String} (h : NulFree spec) :
    hostReadForwardCheck (specPayload id spec) = .ok (id, spec) := by
  rw [hostReadForwardCheck, if_neg (by simp), readId_specPayload, specPayload_drop,
    parseNullTerminated_utf8 h]

theorem hostReadRportSpec_specPayload (id : UInt32) {spec : String} (h : NulFree spec) :
    hostReadRportSpec (specPayload id spec) = some (id, spec) := by
  rw [hostReadRportSpec, if_pos (by simp), readId_specPayload, specPayload_drop, trimEnd_utf8 h]

theorem decodeForwardTask_checkResult (channelId id : UInt32) (ok : Bool) :
    decodeForwardTask true (hostCheckResult channelId id ok) = .toListener (.checkResult id ok) := by
  have hflag : (be 4 id.toNat ++ [flagByte ok])[4]? = some (flagByte ok) := by
    rw [List.getElem?_append_right (by simp)]
    simp
  simp only [decodeForwardTask, routeToListener, hostCheckResult, if_true, readId_be, hflag,
    Option.getD_some, flagByte_ne_zero]
  rw [if_pos (by simp)]

/-- The host reads the daemon's check result as a refusal, whatever it says. -/
theorem hostReadCheckResult_daemon (channelId id : UInt32) (ok : Bool) :
    hostReadCheckResult (daemonCheckResult channelId id ok).payload = some (id, false) := by
  have hflag : (be 4 id.toNat ++ (List.replicate 8 (0 : UInt8) ++ [flagByte ok]))[4]? = some 0 := by
    rw [List.getElem?_append_right (by simp)]
    simp
  simp only [hostReadCheckResult, daemonCheckResult, List.append_assoc, readId_be, hflag]
  rw [if_pos (by simp)]
  rfl

/-- So every check a daemon answers ends as rejected. -/
theorem waitCheckResult_daemon (channelId ctxId : UInt32) (ok : Bool) (rest : List TaskMessage) :
    waitCheckResult ctxId (daemonCheckResult channelId ctxId ok :: rest) = .ok false := by
  have hread := hostReadCheckResult_daemon channelId ctxId ok
  have hcommand : (daemonCheckResult channelId ctxId ok).command = .forwardCheckResult := rfl
  simp only [waitCheckResult, hcommand, hread, if_true]

/-- For every id and every spec without NUL, the control messages are read as
they were written exactly when the check they report on has failed. -/
theorem forward_messages_iff (channelId id : UInt32) (spec : String) (ok hasListener : Bool)
    (h : NulFree spec) :
    ForwardMessagesRead channelId id spec ok hasListener ↔ ok = false := by
  constructor
  · intro hread
    have hr := hread.daemonResult
    rw [hostReadCheckResult_daemon] at hr
    simpa using hr
  · rintro rfl
    exact {
      hostCheck := decodeForwardTask_check hasListener channelId id h
      hostSlave := decodeForwardTask_activeSlave hasListener channelId id h
      daemonCheck := hostReadForwardCheck_specPayload id h
      daemonRportCheck := hostReadRportSpec_specPayload id h
      daemonSlave := hostReadRportSpec_specPayload id h
      hostResult := decodeForwardTask_checkResult channelId id false
      daemonResult := hostReadCheckResult_daemon channelId id false }

theorem forward_messages_iff_tcp :
    NulFree "tcp:8080" ∧ (ForwardMessagesRead 1 0x01020304 "tcp:8080" false false ↔ false = false) :=
  ⟨by decide, forward_messages_iff 1 0x01020304 "tcp:8080" false false (by decide)⟩

/-- A successful check, as the daemon reports it and the host reads it. -/
theorem forward_messages_lost_success : ¬ ForwardMessagesRead 1 7 "tcp:8080" true false := by
  intro hread
  have hr := hread.daemonResult
  revert hr
  decide

end Hdc
