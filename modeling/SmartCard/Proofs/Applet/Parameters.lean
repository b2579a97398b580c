import SmartCard.Applet.InstallParams

/-!
# Writing and reading installation parameters

The bytes of installation parameters are three parts, each behind one byte with its length.
`InstallParams.Fields` says which bytes hold which parts, without a word on how they are read. A
length of more than 255 does not fit its byte, so that writing cuts it short; `fields_encode_iff`
says that what is written then holds other parts.

Reading finds the parts that bytes begin with and looks at nothing behind them
(`InstallParams.parse_eq_some_iff`), and since parts and what follows them are found in one way at
most, `InstallParams.parsing_inverts_encoding` follows.
-/

set_option autoImplicit false
set_option relaxedAutoImplicit false

namespace SmartCard.InstallParams

/-- Whether bytes are some parts, one behind the other, each behind one byte with its length. -/
inductive Fields : List (List UInt8) → List UInt8 → Prop where
  | nil : Fields [] []
  | cons {length : UInt8} {part : List UInt8} (hlength : length.toNat = part.length)
    {parts : List (List UInt8)} {bytes : List UInt8} (hbehind : Fields parts bytes) :
    Fields (part :: parts) (length :: part ++ bytes)

/-- The parts of parameters in the order in which they are written. -/
def parts (params : InstallParams) : List (List UInt8) :=
  [params.instanceAid.bytes, params.controlInfo, params.appletData]

variable {params : InstallParams} {bytes front part rest : List UInt8}

/-! ### The parts that bytes hold -/

/-- Bytes hold parts if each part fits its length, and they are the parts as they are written. -/
theorem fields_iff {parts : List (List UInt8)} : Fields parts front ↔
    (∀ part ∈ parts, part.length ≤ 255) ∧ front = parts.flatMap encodeField := by
  constructor
  · intro hfields
    induction hfields with
    | nil => exact ⟨fun _ hmem ↦ absurd hmem List.not_mem_nil, rfl⟩
    | @cons length part hlength parts bytes _ ih =>
      refine ⟨List.forall_mem_cons.mpr ⟨hlength ▸ Nat.le_of_lt_succ length.toNat_lt, ih.1⟩, ?_⟩
      rw [List.flatMap_cons, encodeField, ← hlength, UInt8.ofNat_toNat, ← ih.2]
  · rintro ⟨hlengths, rfl⟩
    induction parts with
    | nil => exact .nil
    | cons part parts ih =>
      obtain ⟨hlength, hlengths⟩ := List.forall_mem_cons.mp hlengths
      exact .cons (UInt8.toNat_ofNat_of_lt' (Nat.lt_succ_of_le hlength)) (ih hlengths)

theorem encode_eq_flatMap (params : InstallParams) :
    params.encode = params.parts.flatMap encodeField := by
  simp [encode, parts]

/-- What is written holds the parts if none of them is too long for its length. The identifier never
is. -/
theorem fields_encode_iff : Fields params.parts params.encode ↔
    params.controlInfo.length ≤ 255 ∧ params.appletData.length ≤ 255 := by
  have haid : params.instanceAid.bytes.length ≤ 255 :=
    Nat.le_trans params.instanceAid.length_le_sixteen (by decide)
  rw [fields_iff, ← encode_eq_flatMap]
  simp [parts, haid]

/-! ### What reading finds -/

/-- A part is taken off if it stands in front of the rest, behind its length. -/
theorem takeField?_eq_some_iff : takeField? bytes = some (part, rest) ↔
    ∃ length : UInt8, length.toNat = part.length ∧ bytes = length :: part ++ rest := by
  constructor
  · intro htake
    cases bytes with
    | nil => cases htake
    | cons length behind =>
      rw [takeField?] at htake
      by_cases hshort : behind.length < length.toNat
      · rw [if_pos hshort] at htake
        cases htake
      rw [if_neg hshort, Option.some.injEq, Prod.mk.injEq] at htake
      obtain ⟨rfl, rfl⟩ := htake
      refine ⟨length, ?_, ?_⟩
      · rw [List.length_take, Nat.min_eq_left (Nat.le_of_not_lt hshort)]
      · rw [List.cons_append, List.take_append_drop]
  · rintro ⟨length, hlength, rfl⟩
    rw [List.cons_append, takeField?, hlength, if_neg (by simp), List.take_left, List.drop_left]

/-- Parameters are read from bytes that begin with their parts. -/
theorem parse_eq_some_iff : parse bytes = some params ↔
    ∃ front rest, Fields params.parts front ∧ bytes = front ++ rest := by
  constructor
  · intro hparse
    simp only [parse, Option.bind_eq_bind, Option.bind_eq_some_iff, Prod.exists] at hparse
    obtain ⟨aidBytes, behindAid, haid, controlInfo, behindControl, hcontrol, appletData, rest,
      hdata, hread⟩ := hparse
    cases hmake : Aid.ofBytes aidBytes with
    | error error =>
      rw [hmake] at hread
      cases hread
    | ok instanceAid =>
      rw [hmake] at hread
      cases hread
      obtain rfl := Aid.bytes_of_ofBytes_eq_ok hmake
      obtain ⟨_, hfirst, rfl⟩ := takeField?_eq_some_iff.mp haid
      obtain ⟨_, hsecond, rfl⟩ := takeField?_eq_some_iff.mp hcontrol
      obtain ⟨_, hthird, rfl⟩ := takeField?_eq_some_iff.mp hdata
      exact ⟨_, rest, .cons hfirst (.cons hsecond (.cons hthird .nil)), by simp⟩
  · rintro ⟨front, rest, hfields, rfl⟩
    obtain ⟨hlengths, rfl⟩ := fields_iff.mp hfields
    rw [← encode_eq_flatMap]
    exact parse_encode_append (hlengths _ (by simp [parts])) (hlengths _ (by simp [parts])) rest

/-- The parts that parameters are read from are the parameters as they are written. -/
theorem eq_encode_of_fields (hfields : Fields params.parts front) : front = params.encode := by
  rw [encode_eq_flatMap]
  exact (fields_iff.mp hfields).2

/-- Reading succeeds if the first of the parts is an identifier. -/
theorem isSome_parse_iff : (parse bytes).isSome = true ↔
    ∃ first second third front rest, 5 ≤ first.length ∧ first.length ≤ 16 ∧
      Fields [first, second, third] front ∧ bytes = front ++ rest := by
  constructor
  · intro hsome
    obtain ⟨params, hparse⟩ := Option.isSome_iff_exists.mp hsome
    obtain ⟨front, rest, hfields, hbytes⟩ := parse_eq_some_iff.mp hparse
    exact ⟨_, _, _, front, rest, params.instanceAid.five_le_length,
      params.instanceAid.length_le_sixteen, hfields, hbytes⟩
  · rintro ⟨first, second, third, front, rest, hfive, hsixteen, hfields, hbytes⟩
    have hparse : parse bytes = some ⟨⟨first, hfive, hsixteen⟩, second, third⟩ :=
      parse_eq_some_iff.mpr ⟨front, rest, hfields, hbytes⟩
    rw [hparse, Option.isSome_some]

/-- What is read does not depend on what follows it. -/
theorem parse_append_of_eq_some (hparse : parse bytes = some params) (rest : List UInt8) :
    parse (bytes ++ rest) = some params := by
  obtain ⟨front, behind, hfields, rfl⟩ := parse_eq_some_iff.mp hparse
  exact parse_eq_some_iff.mpr ⟨front, behind ++ rest, hfields, List.append_assoc _ _ _⟩

/-! ### Writing and reading -/

/-- Of parameters that fit, nothing is read as long as a byte is missing. -/
theorem parse_take_eq_none (hcontrol : params.controlInfo.length ≤ 255)
    (hdata : params.appletData.length ≤ 255) {count : Nat} (hcount : count < params.encode.length) :
    parse (params.encode.take count) = none := by
  cases hparse : parse (params.encode.take count) with
  | none => rfl
  | some found =>
    -- What is found in front is found in the whole too, so it is what was written.
    have hwhole := parse_append_of_eq_some hparse (params.encode.drop count)
    have hwritten := parse_encode_append hcontrol hdata []
    rw [List.take_append_drop] at hwhole
    rw [List.append_nil, hwhole, Option.some.injEq] at hwritten
    obtain ⟨front, rest, hfields, htaken⟩ := parse_eq_some_iff.mp hparse
    have hlength := congrArg List.length htaken
    rw [eq_encode_of_fields hfields, hwritten, List.length_take, List.length_append] at hlength
    omega

/-- Reading finds what was written, whatever follows, if control information and data have at most
255 bytes each; of parameters with more it never finds what was written. It succeeds just on bytes
that begin with three parts, each behind its length, of which the first has from 5 to 16 bytes; then
writing what was found gives back the bytes of these parts. Of parameters that fit, nothing is read
as long as a byte is missing. -/
theorem parsing_inverts_encoding :
    (∀ (params : InstallParams) (rest : List UInt8), params.controlInfo.length ≤ 255 →
      params.appletData.length ≤ 255 → parse (params.encode ++ rest) = some params) ∧
    (∀ params : InstallParams, 255 < params.controlInfo.length ∨ 255 < params.appletData.length →
      parse params.encode ≠ some params) ∧
    (∀ bytes : List UInt8, (parse bytes).isSome = true ↔
      ∃ first second third front rest, 5 ≤ first.length ∧ first.length ≤ 16 ∧
        Fields [first, second, third] front ∧ bytes = front ++ rest) ∧
    (∀ (bytes : List UInt8) (params : InstallParams), parse bytes = some params →
      ∃ front rest, Fields [params.instanceAid.bytes, params.controlInfo, params.appletData] front ∧
        bytes = front ++ rest ∧ params.encode = front) ∧
    ∀ params : InstallParams, params.controlInfo.length ≤ 255 → params.appletData.length ≤ 255 →
      ∀ count < params.encode.length, parse (params.encode.take count) = none := by
  refine ⟨fun params rest hcontrol hdata ↦ parse_encode_append hcontrol hdata rest, ?_,
    fun bytes ↦ isSome_parse_iff, ?_, fun params hcontrol hdata count hcount ↦
      parse_take_eq_none hcontrol hdata hcount⟩
  · intro params hlong hparse
    obtain ⟨front, rest, hfields, hencode⟩ := parse_eq_some_iff.mp hparse
    obtain rfl := eq_encode_of_fields hfields
    obtain ⟨hcontrol, hdata⟩ := fields_encode_iff.mp hfields
    omega
  · intro bytes params hparse
    obtain ⟨front, rest, hfields, hbytes⟩ := parse_eq_some_iff.mp hparse
    exact ⟨front, rest, hfields, hbytes, (eq_encode_of_fields hfields).symm⟩

end SmartCard.InstallParams
