import SmartCard.Aid
import SmartCard.Exchange
import SmartCard.Memory.Kind

/-!
# Configurations

A configuration sets the sizes of a card, the bytes that it answers a reset with, and the applets
installed at the start. Identifiers and byte strings stay in hexadecimal as they were given;
`validate` refuses a configuration that a card cannot work with, and reports the first fault in
the order of the settings.
-/

set_option autoImplicit false
set_option relaxedAutoImplicit false

namespace SmartCard

/-- What makes a configuration unusable. -/
inductive ConfigFault where
  | smallBuffer (size : Nat)
  | channelCount (count : Nat)
  | noApplets
  | atrText (error : HexError)
  | atrLength (length : Nat)
  | appletAid (className : String) (error : AidError)
  | appletParams (className : String) (error : HexError)
  deriving DecidableEq, Repr

/-- One applet to install at the start, its identifier and data in hexadecimal. -/
structure AppletRequest where
  className : String
  aid : String
  params : String
  deriving DecidableEq, Repr

namespace AppletRequest

/-- The identifier asked for. -/
def readAid (request : AppletRequest) : Except ConfigFault Aid :=
  (Aid.parse request.aid).mapError (.appletAid request.className)

/-- The data asked for. -/
def readParams (request : AppletRequest) : Except ConfigFault (List UInt8) :=
  (Hex.decode request.params).mapError (.appletParams request.className)

end AppletRequest

/-- The bytes that a card answers a reset with unless it is told otherwise, in hexadecimal. -/
def defaultAtr : String := "3BFA1800008131FE454A434F5033315632333298"

structure Config where
  persistentQuota : Nat := 65536
  clearOnResetQuota : Nat := 4096
  clearOnDeselectQuota : Nat := 4096
  commitCapacity : Nat := 1024
  bufferSize : Nat := Exchange.defaultBufferSize
  /-- Whether extended commands are accepted. -/
  extendedLength : Bool := false
  /-- The number of channels, the basic one included. -/
  logicalChannels : Nat := 4
  maxApplets : Nat := 16
  atr : String := defaultAtr
  applets : List AppletRequest := []
  deriving DecidableEq, Repr

namespace Config

/-- The largest number of channels. -/
def maxLogicalChannels : Nat := 20

/-- The most bytes that a card may answer a reset with. -/
def maxAtrLength : Nat := 33

/-- The wording of a fault. -/
def faultMessage : ConfigFault → String
  | .smallBuffer size => s!"apdu_buffer_size {size} below minimum {Exchange.minBufferSize}"
  | .channelCount count => s!"logical_channels {count} outside 1..={maxLogicalChannels}"
  | .noApplets => "max_applets must be at least 1"
  | .atrText error => "atr: " ++ error.message
  | .atrLength length => s!"atr length {length} outside 1..={maxAtrLength}"
  | .appletAid className error => "applet " ++ className ++ ": " ++ error.message
  | .appletParams className error => "applet " ++ className ++ " params: " ++ error.message

/-- The quotas of the three lifetimes. -/
def quotas (config : Config) : PerLifetime :=
  ⟨config.persistentQuota, config.clearOnResetQuota, config.clearOnDeselectQuota⟩

/-- The bytes that the card answers a reset with. -/
def readAtr (config : Config) : Except ConfigFault (List UInt8) :=
  match Hex.decode config.atr with
  | .error error => .error (.atrText error)
  | .ok bytes =>
    if 1 ≤ bytes.length ∧ bytes.length ≤ maxAtrLength then .ok bytes
    else .error (.atrLength bytes.length)

/-- Refuses the requests whose identifier or data cannot be read. -/
def validateRequests : List AppletRequest → Except ConfigFault Unit
  | [] => .ok ()
  | request :: rest => do
    let _ ← request.readAid
    let _ ← request.readParams
    validateRequests rest

/-- Refuses what a card cannot work with. -/
def validate (config : Config) : Except ConfigFault Unit :=
  if config.bufferSize < Exchange.minBufferSize then .error (.smallBuffer config.bufferSize)
  else if config.logicalChannels < 1 ∨ maxLogicalChannels < config.logicalChannels then
    .error (.channelCount config.logicalChannels)
  else if config.maxApplets = 0 then .error .noApplets
  else do
    let _ ← config.readAtr
    validateRequests config.applets

end Config

end SmartCard
