import Hdc.RustStd

/- The protocol's constants and its command enumeration
   (`hdc-protocol/src/config.rs`). The discriminants (`asU32`) and the table
   of `TryFrom<u32>` (`commandTable`) are two hand-written lists in the
   source, and are two here; `tryFrom_asU32` and `asU32_of_tryFrom` say they
   are inverse to each other. -/
namespace Hdc

/-- `PACKET_FLAG`, `b"HW"`. -/
def packetFlag : UInt8 × UInt8 := (72, 87)
/-- `VER_PROTOCOL`. -/
def verProtocol : UInt8 := 1
/-- `ENABLE_IO_CHECK`. -/
def enableIoCheck : Bool := false
/-- `PAYLOAD_VCODE`. -/
def payloadVcode : UInt8 := 0x09
/-- `HDC_BUF_MAX_SIZE`. -/
def hdcBufMaxSize : Nat := 0x7fffffff
/-- `HANDSHAKE_MESSAGE`. -/
def handshakeMessage : String := "OHOS HDC"
/-- `FEATURE_ENCRYPT_TCP`. -/
def featureEncryptTcp : String := "encrypt_tcp"
/-- `FEATURE_HEARTBEAT`. -/
def featureHeartbeat : String := "heartbeat"
/-- `AuthType::None`. -/
def authTypeNone : UInt8 := 0
/-- `AuthType::Token`. -/
def authTypeToken : UInt8 := 1
/-- `AuthType::Signature`. -/
def authTypeSignature : UInt8 := 2
/-- `AuthType::Publickey`. -/
def authTypePublickey : UInt8 := 3
/-- `AuthType::Ok`. -/
def authTypeOk : UInt8 := 4
/-- `AuthType::Fail`. -/
def authTypeFail : UInt8 := 5
/-- `AUTH_TYPE_SSL_TLS_PSK`. -/
def authTypeSslTlsPsk : UInt8 := 6
/-- `get_version()`, the digits of `HDC_VERSION_NUMBER`. -/
def getVersion : String := "Ver: 3.2.0f"
/-- `SERVER_DEFAULT_PORT`. -/
def serverDefaultPort : UInt16 := 8710
/-- `LOCAL_HOST`. -/
def localHost : String := "127.0.0.1"
/-- `MAX_SIZE_IOBUF`. -/
def maxSizeIobuf : Nat := 511 * 1024
/-- `INSTALL_TMP_DIR`. -/
def installTmpDir : String := "/data/local/tmp/"

inductive HdcCommand where
  | kernelHelp | kernelHandshake | kernelChannelClose | kernelTargetDiscover | kernelTargetList
  | kernelTargetAny | kernelTargetConnect | kernelTargetDisconnect | kernelEcho | kernelEchoRaw
  | kernelEnableKeepalive | kernelWakeupSlavetask | kernelCheckServer | kernelCheckDevice
  | kernelWaitFor | kernelServerKill | kernelServerStart | kernelTargetReconnect
  | clientVersion | sslHandshake | clientKeyGenerate | unityCommandHead | unityExecute
  | unityRemount | unityReboot | unityRunmode | unityHilog | unityTerminate | unityRootrun
  | jdwpList | jdwpTrack | unityCommandTail | unityBugreportInit | unityBugreportData
  | unityExecuteEx | shellInit | shellData | forwardInit | forwardCheck | forwardCheckResult
  | forwardActiveSlave | forwardActiveMaster | forwardData | forwardFreeContext | forwardList
  | forwardRemove | forwardSuccess | forwardRportInit | forwardRportList | forwardRportRemove
  | fileInit | fileCheck | fileBegin | fileData | fileFinish | appSideload | fileMode | dirMode
  | fileRecvInit | appInit | appCheck | appBegin | appData | appFinish | appUninstall
  | flashdUpdateInit | flashdFlashInit | flashdCheck | flashdBegin | flashdData | flashdFinish
  | flashdErase | flashdFormat | flashdProgress | heartbeatMsg | spawnSub
  deriving DecidableEq, Repr

namespace HdcCommand

/-- The discriminant of the command (`as_u32`). -/
def asU32 : HdcCommand → UInt32
  | .kernelHelp => 0
  | .kernelHandshake => 1
  | .kernelChannelClose => 2
  | .kernelTargetDiscover => 4
  | .kernelTargetList => 5
  | .kernelTargetAny => 6
  | .kernelTargetConnect => 7
  | .kernelTargetDisconnect => 8
  | .kernelEcho => 9
  | .kernelEchoRaw => 10
  | .kernelEnableKeepalive => 11
  | .kernelWakeupSlavetask => 12
  | .kernelCheckServer => 13
  | .kernelCheckDevice => 14
  | .kernelWaitFor => 15
  | .kernelServerKill => 16
  | .kernelServerStart => 17
  | .kernelTargetReconnect => 18
  | .clientVersion => 19
  | .sslHandshake => 20
  | .clientKeyGenerate => 21
  | .unityCommandHead => 1000
  | .unityExecute => 1001
  | .unityRemount => 1002
  | .unityReboot => 1003
  | .unityRunmode => 1004
  | .unityHilog => 1005
  | .unityTerminate => 1006
  | .unityRootrun => 1007
  | .jdwpList => 1008
  | .jdwpTrack => 1009
  | .unityCommandTail => 1010
  | .unityBugreportInit => 1011
  | .unityBugreportData => 1012
  | .unityExecuteEx => 1200
  | .shellInit => 2000
  | .shellData => 2001
  | .forwardInit => 2500
  | .forwardCheck => 2501
  | .forwardCheckResult => 2502
  | .forwardActiveSlave => 2503
  | .forwardActiveMaster => 2504
  | .forwardData => 2505
  | .forwardFreeContext => 2506
  | .forwardList => 2507
  | .forwardRemove => 2508
  | .forwardSuccess => 2509
  | .forwardRportInit => 2510
  | .forwardRportList => 2511
  | .forwardRportRemove => 2512
  | .fileInit => 3000
  | .fileCheck => 3001
  | .fileBegin => 3002
  | .fileData => 3003
  | .fileFinish => 3004
  | .appSideload => 3005
  | .fileMode => 3006
  | .dirMode => 3007
  | .fileRecvInit => 3008
  | .appInit => 3500
  | .appCheck => 3501
  | .appBegin => 3502
  | .appData => 3503
  | .appFinish => 3504
  | .appUninstall => 3505
  | .flashdUpdateInit => 4000
  | .flashdFlashInit => 4001
  | .flashdCheck => 4002
  | .flashdBegin => 4003
  | .flashdData => 4004
  | .flashdFinish => 4005
  | .flashdErase => 4006
  | .flashdFormat => 4007
  | .flashdProgress => 4008
  | .heartbeatMsg => 5000
  | .spawnSub => 6000

/-- The arms of `TryFrom<u32> for HdcCommand`, in the source's order. -/
def commandTable : List (UInt32 × HdcCommand) :=
  [(0, .kernelHelp), (1, .kernelHandshake), (2, .kernelChannelClose),
   (4, .kernelTargetDiscover), (5, .kernelTargetList), (6, .kernelTargetAny),
   (7, .kernelTargetConnect), (8, .kernelTargetDisconnect), (9, .kernelEcho),
   (10, .kernelEchoRaw), (11, .kernelEnableKeepalive), (12, .kernelWakeupSlavetask),
   (13, .kernelCheckServer), (14, .kernelCheckDevice), (15, .kernelWaitFor),
   (16, .kernelServerKill), (17, .kernelServerStart), (18, .kernelTargetReconnect),
   (19, .clientVersion), (20, .sslHandshake), (21, .clientKeyGenerate),
   (1000, .unityCommandHead), (1001, .unityExecute), (1002, .unityRemount),
   (1003, .unityReboot), (1004, .unityRunmode), (1005, .unityHilog), (1006, .unityTerminate),
   (1007, .unityRootrun), (1008, .jdwpList), (1009, .jdwpTrack), (1010, .unityCommandTail),
   (1011, .unityBugreportInit), (1012, .unityBugreportData), (1200, .unityExecuteEx),
   (2000, .shellInit), (2001, .shellData), (2500, .forwardInit), (2501, .forwardCheck),
   (2502, .forwardCheckResult), (2503, .forwardActiveSlave), (2504, .forwardActiveMaster),
   (2505, .forwardData), (2506, .forwardFreeContext), (2507, .forwardList),
   (2508, .forwardRemove), (2509, .forwardSuccess), (2510, .forwardRportInit),
   (2511, .forwardRportList), (2512, .forwardRportRemove), (3000, .fileInit),
   (3001, .fileCheck), (3002, .fileBegin), (3003, .fileData), (3004, .fileFinish),
   (3005, .appSideload), (3006, .fileMode), (3007, .dirMode), (3008, .fileRecvInit),
   (3500, .appInit), (3501, .appCheck), (3502, .appBegin), (3503, .appData),
   (3504, .appFinish), (3505, .appUninstall), (4000, .flashdUpdateInit),
   (4001, .flashdFlashInit), (4002, .flashdCheck), (4003, .flashdBegin), (4004, .flashdData),
   (4005, .flashdFinish), (4006, .flashdErase), (4007, .flashdFormat), (4008, .flashdProgress),
   (5000, .heartbeatMsg), (6000, .spawnSub)]

/-- `HdcCommand::try_from`; the source's error carries nothing. -/
def tryFrom (cmd : UInt32) : Option HdcCommand := commandTable.lookup cmd

theorem tryFrom_asU32 (c : HdcCommand) : tryFrom c.asU32 = some c := by
  cases c <;> rfl

theorem commandTable_agrees : ∀ e ∈ commandTable, e.2.asU32 = e.1 := by decide

theorem asU32_of_tryFrom {cmd : UInt32} {c : HdcCommand} (h : tryFrom cmd = some c) :
    c.asU32 = cmd := by
  obtain ⟨l₁, l₂, hl, -⟩ := List.lookup_eq_some_iff.mp h
  exact commandTable_agrees (cmd, c) (by rw [hl]; simp)

/-- The derived `Debug` text, as it appears in error messages. -/
def debug : HdcCommand → String
  | .kernelHelp => "KernelHelp"
  | .kernelHandshake => "KernelHandshake"
  | .kernelChannelClose => "KernelChannelClose"
  | .kernelTargetDiscover => "KernelTargetDiscover"
  | .kernelTargetList => "KernelTargetList"
  | .kernelTargetAny => "KernelTargetAny"
  | .kernelTargetConnect => "KernelTargetConnect"
  | .kernelTargetDisconnect => "KernelTargetDisconnect"
  | .kernelEcho => "KernelEcho"
  | .kernelEchoRaw => "KernelEchoRaw"
  | .kernelEnableKeepalive => "KernelEnableKeepalive"
  | .kernelWakeupSlavetask => "KernelWakeupSlavetask"
  | .kernelCheckServer => "KernelCheckServer"
  | .kernelCheckDevice => "KernelCheckDevice"
  | .kernelWaitFor => "KernelWaitFor"
  | .kernelServerKill => "KernelServerKill"
  | .kernelServerStart => "KernelServerStart"
  | .kernelTargetReconnect => "KernelTargetReconnect"
  | .clientVersion => "ClientVersion"
  | .sslHandshake => "SslHandshake"
  | .clientKeyGenerate => "ClientKeyGenerate"
  | .unityCommandHead => "UnityCommandHead"
  | .unityExecute => "UnityExecute"
  | .unityRemount => "UnityRemount"
  | .unityReboot => "UnityReboot"
  | .unityRunmode => "UnityRunmode"
  | .unityHilog => "UnityHilog"
  | .unityTerminate => "UnityTerminate"
  | .unityRootrun => "UnityRootrun"
  | .jdwpList => "JdwpList"
  | .jdwpTrack => "JdwpTrack"
  | .unityCommandTail => "UnityCommandTail"
  | .unityBugreportInit => "UnityBugreportInit"
  | .unityBugreportData => "UnityBugreportData"
  | .unityExecuteEx => "UnityExecuteEx"
  | .shellInit => "ShellInit"
  | .shellData => "ShellData"
  | .forwardInit => "ForwardInit"
  | .forwardCheck => "ForwardCheck"
  | .forwardCheckResult => "ForwardCheckResult"
  | .forwardActiveSlave => "ForwardActiveSlave"
  | .forwardActiveMaster => "ForwardActiveMaster"
  | .forwardData => "ForwardData"
  | .forwardFreeContext => "ForwardFreeContext"
  | .forwardList => "ForwardList"
  | .forwardRemove => "ForwardRemove"
  | .forwardSuccess => "ForwardSuccess"
  | .forwardRportInit => "ForwardRportInit"
  | .forwardRportList => "ForwardRportList"
  | .forwardRportRemove => "ForwardRportRemove"
  | .fileInit => "FileInit"
  | .fileCheck => "FileCheck"
  | .fileBegin => "FileBegin"
  | .fileData => "FileData"
  | .fileFinish => "FileFinish"
  | .appSideload => "AppSideload"
  | .fileMode => "FileMode"
  | .dirMode => "DirMode"
  | .fileRecvInit => "FileRecvInit"
  | .appInit => "AppInit"
  | .appCheck => "AppCheck"
  | .appBegin => "AppBegin"
  | .appData => "AppData"
  | .appFinish => "AppFinish"
  | .appUninstall => "AppUninstall"
  | .flashdUpdateInit => "FlashdUpdateInit"
  | .flashdFlashInit => "FlashdFlashInit"
  | .flashdCheck => "FlashdCheck"
  | .flashdBegin => "FlashdBegin"
  | .flashdData => "FlashdData"
  | .flashdFinish => "FlashdFinish"
  | .flashdErase => "FlashdErase"
  | .flashdFormat => "FlashdFormat"
  | .flashdProgress => "FlashdProgress"
  | .heartbeatMsg => "HeartbeatMsg"
  | .spawnSub => "SpawnSub"

end HdcCommand

/-- `MessageLevel`, with its discriminants. -/
inductive MessageLevel where
  | fail | info | ok
  deriving DecidableEq, Repr

def MessageLevel.asU8 : MessageLevel → UInt8
  | .fail => 0
  | .info => 1
  | .ok => 2

/-- `TaskMessage`: one command on one client channel. -/
structure TaskMessage where
  channelId : UInt32
  command : HdcCommand
  payload : List UInt8
  deriving DecidableEq, Repr

end Hdc
