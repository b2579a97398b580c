import SmartCard.Config.Basic
import SmartCard.File
import SmartCard.Json.Value

/-!
# Reading configurations

A configuration is a JSON object with one member for each setting, or the array of the settings in
their order. Settings that are not given have their default; the class and the identifier of an
applet have none. Members of other names are skipped, whatever their values; a setting given twice
is refused. Sizes are plain natural numbers of at most 64 bits, the number of channels one of at
most 8 bits.
-/

set_option autoImplicit false
set_option relaxedAutoImplicit false

namespace SmartCard

/-- Why no configuration is read. -/
inductive ConfigError where
  | unreadable (path : String) (fault : FileFault)
  | malformed
  | invalid (fault : ConfigFault)
  deriving DecidableEq, Repr

/-- The wording of a refusal. -/
def ConfigError.message : ConfigError → String
  | .unreadable path fault => "failed to read " ++ path ++ ": " ++ fault.message
  | .malformed => "malformed configuration:"
  | .invalid fault => "invalid configuration: " ++ Config.faultMessage fault

namespace Json.Value

/-- The values of the members with a given name. -/
def valuesOf (name : String) (members : List (Option String × Value)) : List Value :=
  (members.filter fun entry ↦ entry.1 = some name).map (·.2)

/-- The values under the given names, where they are given: the members of an object, none of
which may be repeated or have a name that is no text, or the items of an array in the order of
the names. -/
def record? (names : List String) : Value → Option (List (Option Value))
  | .object members =>
    if members.any (·.1.isNone) || names.any fun name ↦ 1 < (valuesOf name members).length then
      none
    else some (names.map fun name ↦ (valuesOf name members).head?)
  | .array items =>
    if names.length < items.length then none
    else some (items.map some ++ List.replicate (names.length - items.length) none)
  | _ => none

/-- A natural number up to a limit. -/
def natural? (limit : Nat) : Value → Option Nat
  | .number (.natural value) => if value ≤ limit then some value else none
  | _ => none

/-- A truth value. -/
def boolean? : Value → Option Bool
  | .boolean value => some value
  | _ => none

/-- A text. -/
def text? : Value → Option String
  | .text value => value
  | _ => none

/-- The items of an array. -/
def items? : Value → Option (List Value)
  | .array items => some items
  | _ => none

/-- Reads a setting that has a default. -/
def orDefault {α : Type} (default : α) (read? : Value → Option α) : Option Value → Option α
  | none => some default
  | some value => read? value

end Json.Value

open Json (Value)

/-- The names of the settings of an applet, in their order. -/
def AppletRequest.settingNames : List String :=
  ["class", "aid", "params"]

/-- Reads the request for an applet. -/
def AppletRequest.ofValue? (value : Value) : Option AppletRequest := do
  let settings ← value.record? settingNames
  let setting (position : Nat) : Option Value := (settings[position]?).join
  let className ← (← setting 0).text?
  let aid ← (← setting 1).text?
  let params ← Value.orDefault "" Value.text? (setting 2)
  return { className, aid, params }

namespace Config

/-- The names of the settings of a card, in their order. -/
def settingNames : List String :=
  ["persistent_quota", "clear_on_reset_quota", "clear_on_deselect_quota", "commit_capacity",
    "apdu_buffer_size", "extended_length", "logical_channels", "max_applets", "atr", "applets"]

/-- The largest size that can be written. -/
def maxSize : Nat := 0xFFFFFFFFFFFFFFFF

/-- The largest number of channels that can be written. -/
def maxChannelNumber : Nat := 0xFF

/-- Reads a configuration from a JSON value. -/
def ofValue? (value : Value) : Option Config := do
  let settings ← value.record? settingNames
  let setting (position : Nat) : Option Value := (settings[position]?).join
  let size (position default : Nat) : Option Nat :=
    Value.orDefault default (Value.natural? maxSize) (setting position)
  let base : Config := {}
  let persistentQuota ← size 0 base.persistentQuota
  let clearOnResetQuota ← size 1 base.clearOnResetQuota
  let clearOnDeselectQuota ← size 2 base.clearOnDeselectQuota
  let commitCapacity ← size 3 base.commitCapacity
  let bufferSize ← size 4 base.bufferSize
  let extendedLength ← Value.orDefault base.extendedLength Value.boolean? (setting 5)
  let logicalChannels ←
    Value.orDefault base.logicalChannels (Value.natural? maxChannelNumber) (setting 6)
  let maxApplets ← size 7 base.maxApplets
  let atr ← Value.orDefault base.atr Value.text? (setting 8)
  let requests ← Value.orDefault [] Value.items? (setting 9)
  let applets ← requests.mapM AppletRequest.ofValue?
  return { persistentQuota, clearOnResetQuota, clearOnDeselectQuota, commitCapacity, bufferSize,
           extendedLength, logicalChannels, maxApplets, atr, applets }

/-- Reads a configuration that a card can work with from a JSON value. -/
def ofValue (value : Value) : Except ConfigError Config :=
  match ofValue? value with
  | none => .error .malformed
  | some config => (config.validate.mapError .invalid).map fun _ ↦ config

/-- Reads a configuration that a card can work with from JSON text. -/
def ofText (text : String) : Except ConfigError Config :=
  match Value.parse? text with
  | none => .error .malformed
  | some value => ofValue value

end Config

end SmartCard
