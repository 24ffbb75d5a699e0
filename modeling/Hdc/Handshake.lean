import Hdc.Config
import Hdc.Encrypt
import Hdc.Messages

/- The daemon's side of the session handshake (`hdcd/src/main.rs`): the TLV text
   in the host's handshake buffer, and the reply `handle_client` computes from the
   first message of a connection. RSA and base64 are parameters. -/
namespace Hdc
open Rust Wire

/-! The TLV text. -/

/-- The loop of `parse_tlv` over the bytes of `remaining`, the newest entry of the
map first. `none` is a panic: a slice that is not at a character boundary, or a
length so large that the end of the slice overflows. Each round takes at least 32
bytes, so the length of the text is fuel enough. -/
def parseTlvLoop : Nat → List UInt8 → List (String × String) → Option (List (String × String))
  | 0, _, map => some map
  | fuel+1, remaining, map =>
    if remaining.length < 32 then some map
    else do
      let tag ← fromUtf8 (remaining.take 16)
      let valLenStr ← fromUtf8 ((remaining.drop 16).take 16)
      match parseUsize (trimEnd valLenStr) with
      | none => some map
      | some valLen =>
        if 2^64 ≤ 32 + valLen then none
        else if remaining.length < 32 + valLen then some map
        else do
          let val ← fromUtf8 ((remaining.drop 32).take valLen)
          parseTlvLoop fuel (remaining.drop (32 + valLen)) ((trimEnd tag, val) :: map)

def parseTlv (tlv : String) : Option (List (String × String)) :=
  parseTlvLoop (utf8 tlv).length (utf8 tlv) []

def hostSupportsEncrypt (buf : String) : Option Bool := do
  let map ← parseTlv buf
  match map.lookup "supportfeatures" with
  | some v => return (split ',' v).any (· == featureEncryptTcp)
  | none => return false

def extractHostPubkey (buf : String) : Option (Option String) := do
  let map ← parseTlv buf
  return map.lookup "pubkey"

/-! The reply. -/

/-- What a daemon process finds in its environment: AES-GCM, whether
`OHOS_HDC_ENCRYPT_CHANNEL` is `1`, its host name, RSA-OAEP under the host's key
(which fails on a key that does not parse) and base64. -/
structure DaemonEnv where
  aes : Aes128Gcm
  encryptChannel : Bool
  hostname : String
  encryptPskWithPubkey : String → Psk → IoResult (List UInt8)
  base64 : List UInt8 → String

def buildDaemonAuthBuf (env : DaemonEnv) : String :=
  let features := featureHeartbeat ++ (if env.encryptChannel then "," ++ featureEncryptTcp else "")
  padRight 16 "devname" ++ padRight 16 (toString (utf8 env.hostname).length) ++ env.hostname ++
    (padRight 16 "supportfeatures" ++ padRight 16 (toString (utf8 features).length) ++ features)

/-- What `handle_client` settles before it answers the first message. -/
structure HandshakeReply where
  sessionId : UInt32
  response : TaskMessage
  psk : Option Psk
  encryptEnabled : Bool
  deriving DecidableEq

/-- `handle_client` from the first message to the response. `random` and `psk` are
what its random generators return; `none` is a panic. -/
def replyHandshake (env : DaemonEnv) (firstMsg : TaskMessage) (random : UInt32) (psk : Psk) :
    Option (IoResult HandshakeReply) :=
  let (sessionId, connectKey, hostHsBuf) :=
    match SessionHandShake.deserialize firstMsg.payload with
    | .ok hs => (hs.sessionId, hs.connectKey, hs.buf)
    | .error _ => (random, "", "")
  let plain : SessionHandShake := {
    banner := handshakeMessage
    authType := authTypeOk
    sessionId
    connectKey
    buf := buildDaemonAuthBuf env
    version := getVersion ++ "47d583e40754ffe6" }
  let respond (hs : SessionHandShake) : TaskMessage :=
    ⟨firstMsg.channelId, .kernelHandshake, hs.serialize⟩
  do
    -- the host's features are looked at only when the daemon has encryption switched on
    let encryptEnabled ← if env.encryptChannel then hostSupportsEncrypt hostHsBuf else some false
    if !encryptEnabled then return .ok ⟨sessionId, respond plain, none, false⟩
    else match ← extractHostPubkey hostHsBuf with
      | none => return .ok ⟨sessionId, respond plain, none, true⟩
      | some pubkeyInfo =>
        match env.encryptPskWithPubkey pubkeyInfo psk with
        | .error e => return .error e
        | .ok encryptedPsk =>
          return .ok ⟨sessionId, respond { plain with
            authType := authTypeSslTlsPsk
            buf := env.base64 encryptedPsk }, some psk, true⟩

end Hdc
