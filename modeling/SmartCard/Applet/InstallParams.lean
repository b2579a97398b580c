import SmartCard.Aid

/-!
# Installation parameters

What an applet is told when it is installed: the identifier of the instance, control information
of the installer, and data of its own. As bytes the three stand in this order, each behind one
byte with its length. `parse_encode_append` says that parameters with parts of at most 255 bytes
are read back, whatever follows them.
-/

set_option autoImplicit false
set_option relaxedAutoImplicit false

namespace SmartCard

structure InstallParams where
  instanceAid : Aid
  controlInfo : List UInt8
  appletData : List UInt8
  deriving DecidableEq

namespace InstallParams

/-- The most data that an applet can be installed with. -/
def maxDataLength : Nat := 255

/-- Parameters without control information, unless there are too many data. -/
def ofData? (instanceAid : Aid) (appletData : List UInt8) : Option InstallParams :=
  if appletData.length ≤ maxDataLength then some ⟨instanceAid, [], appletData⟩ else none

/-- A part behind its length. -/
def encodeField (field : List UInt8) : List UInt8 :=
  UInt8.ofNat field.length :: field

/-- The parameters as bytes. -/
def encode (params : InstallParams) : List UInt8 :=
  encodeField params.instanceAid.bytes ++ encodeField params.controlInfo ++
    encodeField params.appletData

/-- Takes a part off the front. -/
def takeField? : List UInt8 → Option (List UInt8 × List UInt8)
  | [] => none
  | length :: rest =>
    if rest.length < length.toNat then none
    else some (rest.take length.toNat, rest.drop length.toNat)

/-- Reads parameters. Bytes behind them are not looked at. -/
def parse (bytes : List UInt8) : Option InstallParams := do
  let (aidBytes, rest) ← takeField? bytes
  let (controlInfo, rest) ← takeField? rest
  let (appletData, _) ← takeField? rest
  match Aid.ofBytes aidBytes with
  | .ok instanceAid => some ⟨instanceAid, controlInfo, appletData⟩
  | .error _ => none

/-- A part of at most 255 bytes is taken off again. -/
theorem takeField?_encodeField_append {field : List UInt8} (hlength : field.length ≤ maxDataLength)
    (rest : List UInt8) : takeField? (encodeField field ++ rest) = some (field, rest) := by
  have hbyte : (UInt8.ofNat field.length).toNat = field.length := by
    rw [UInt8.toNat_ofNat']
    exact Nat.mod_eq_of_lt (Nat.lt_succ_of_le hlength)
  rw [encodeField, List.cons_append, takeField?, hbyte, if_neg (by simp), List.take_left' rfl,
    List.drop_left' rfl]

/-- Parameters with parts of at most 255 bytes are read back, whatever follows them. -/
theorem parse_encode_append {params : InstallParams}
    (hcontrol : params.controlInfo.length ≤ maxDataLength)
    (hdata : params.appletData.length ≤ maxDataLength) (rest : List UInt8) :
    parse (params.encode ++ rest) = some params := by
  have haid : params.instanceAid.bytes.length ≤ maxDataLength :=
    Nat.le_trans params.instanceAid.length_le_sixteen (by decide)
  rw [parse, encode, List.append_assoc, List.append_assoc, takeField?_encodeField_append haid]
  simp only [Option.bind_eq_bind, Option.bind_some]
  rw [takeField?_encodeField_append hcontrol]
  simp only [Option.bind_some]
  rw [takeField?_encodeField_append hdata]
  simp only [Option.bind_some, Aid.ofBytes_bytes]

end InstallParams

end SmartCard
