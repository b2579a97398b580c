import SmartCard.Command

/-!
# The layouts of commands

A command travels in one of seven layouts. `Command.Written` says for each of them which bytes write
which command, without a word on how they are read; a zero byte stands for the largest expected
length, and data that are there are never empty.

Reading goes through the bytes once, telling the layouts apart by how many bytes there are and by
one zero byte. It accepts just what is written in a layout, the extended layouts only where they are
allowed, and it finds the command that was written (`Command.parse_eq_ok_iff`). Since writing is a
function of the command (`Command.Written.encode_eq`), bytes are written in one layout at most.
`Command.reading_inverts_writing` puts this together.
-/

set_option autoImplicit false
set_option relaxedAutoImplicit false

namespace SmartCard.Command

/-! ### Lengths of one and two bytes -/

theorem shortExpected_pos (byte : UInt8) : 0 < shortExpected byte := by
  unfold shortExpected
  split
  · exact Nat.zero_lt_succ 255
  · rename_i hbyte
    exact Nat.pos_of_ne_zero fun hzero ↦ hbyte (UInt8.toNat_inj.mp hzero)

theorem shortExpected_le (byte : UInt8) : shortExpected byte ≤ maxShortExpected := by
  unfold shortExpected
  split
  · exact Nat.le_refl _
  · exact Nat.le_of_lt byte.toNat_lt

theorem wide_lt (high low : UInt8) : wide high low < maxExtendedExpected := by
  have hhigh := high.toNat_lt
  have hlow := low.toNat_lt
  unfold wide maxExtendedExpected
  omega

theorem extendedExpected_pos (high low : UInt8) : 0 < extendedExpected high low := by
  unfold extendedExpected
  split
  · exact Nat.zero_lt_succ 65535
  · exact Nat.pos_of_ne_zero ‹_›

theorem extendedExpected_le (high low : UInt8) :
    extendedExpected high low ≤ maxExtendedExpected := by
  unfold extendedExpected
  split
  · exact Nat.le_refl _
  · exact Nat.le_of_lt (wide_lt high low)

/-- An expected length is written in the byte that it was read from. -/
theorem ofNat_shortExpected (byte : UInt8) : UInt8.ofNat (shortExpected byte) = byte := by
  unfold shortExpected
  split
  · rename_i hzero
    rw [hzero]
    rfl
  · exact UInt8.ofNat_toNat

theorem shortExpected_ofNat {length : Nat} (hpos : 0 < length) (hle : length ≤ maxShortExpected) :
    shortExpected (UInt8.ofNat length) = length := by
  unfold maxShortExpected at hle
  unfold shortExpected
  by_cases hfull : length = 256
  · subst hfull
    rfl
  · have htoNat : (UInt8.ofNat length).toNat = length :=
      UInt8.toNat_ofNat_of_lt' (Nat.lt_of_le_of_ne hle hfull)
    have hzero : UInt8.ofNat length ≠ 0 := by
      intro hzero
      rw [hzero] at htoNat
      exact Nat.ne_of_lt hpos htoNat
    rw [if_neg hzero, htoNat]

theorem wideBytes_wide (high low : UInt8) : wideBytes (wide high low) = [high, low] := by
  have hhigh := high.toNat_lt
  have hlow := low.toNat_lt
  have hdiv : (high.toNat * 256 + low.toNat) / 256 = high.toNat := by omega
  have hmod : UInt8.ofNat (high.toNat * 256 + low.toNat) = low := by
    apply UInt8.toNat_inj.mp
    rw [UInt8.toNat_ofNat']
    omega
  unfold wideBytes wide
  rw [hdiv, hmod, UInt8.ofNat_toNat]

theorem wideBytes_extendedExpected (high low : UInt8) :
    wideBytes (extendedExpected high low) = [high, low] := by
  unfold extendedExpected
  split
  · rename_i hzero
    rw [← wideBytes_wide high low, hzero]
    rfl
  · exact wideBytes_wide high low

/-- The two bytes of a number below 65536. -/
theorem wide_wideBytes {value : Nat} (hlt : value < maxExtendedExpected) :
    wide (UInt8.ofNat (value / 256)) (UInt8.ofNat value) = value := by
  unfold maxExtendedExpected at hlt
  unfold wide
  rw [UInt8.toNat_ofNat', UInt8.toNat_ofNat']
  omega

theorem extendedExpected_wideBytes {length : Nat} (hpos : 0 < length)
    (hle : length ≤ maxExtendedExpected) :
    extendedExpected (UInt8.ofNat (length / 256)) (UInt8.ofNat length) = length := by
  unfold extendedExpected
  by_cases hfull : length = maxExtendedExpected
  · rw [hfull]
    exact if_pos (by decide)
  · have hwide := wide_wideBytes (Nat.lt_of_le_of_ne hle hfull)
    rw [hwide, if_neg (Nat.ne_of_gt hpos)]

/-! ### The layouts -/

/-- The layouts of commands. The extended ones begin with a zero byte behind the header and have
lengths of two bytes. -/
inductive Layout where
  | bare
  | expecting
  | sending
  | sendingExpecting
  | extendedExpecting
  | extendedSending
  | extendedSendingExpecting
  deriving DecidableEq, Repr

def Layout.isExtended : Layout → Bool
  | .extendedExpecting | .extendedSending | .extendedSendingExpecting => true
  | _ => false

/-- Whether bytes write a command in a layout. -/
inductive Written : Layout → List UInt8 → Command → Prop where
  | bare (classByte instruction p1 p2 : UInt8) :
    Written .bare [classByte, instruction, p1, p2] ⟨classByte, instruction, p1, p2, [], none, false⟩
  | expecting (classByte instruction p1 p2 expected : UInt8) :
    Written .expecting [classByte, instruction, p1, p2, expected]
      ⟨classByte, instruction, p1, p2, [], some (shortExpected expected), false⟩
  | sending (classByte instruction p1 p2 : UInt8) {length : UInt8} {data : List UInt8}
    (hdata : data ≠ []) (hlength : length.toNat = data.length) :
    Written .sending ([classByte, instruction, p1, p2, length] ++ data)
      ⟨classByte, instruction, p1, p2, data, none, false⟩
  | sendingExpecting (classByte instruction p1 p2 : UInt8) {length : UInt8} {data : List UInt8}
    (hdata : data ≠ []) (hlength : length.toNat = data.length) (expected : UInt8) :
    Written .sendingExpecting ([classByte, instruction, p1, p2, length] ++ data ++ [expected])
      ⟨classByte, instruction, p1, p2, data, some (shortExpected expected), false⟩
  | extendedExpecting (classByte instruction p1 p2 high low : UInt8) :
    Written .extendedExpecting [classByte, instruction, p1, p2, 0, high, low]
      ⟨classByte, instruction, p1, p2, [], some (extendedExpected high low), true⟩
  | extendedSending (classByte instruction p1 p2 : UInt8) {high low : UInt8} {data : List UInt8}
    (hdata : data ≠ []) (hlength : wide high low = data.length) :
    Written .extendedSending ([classByte, instruction, p1, p2, 0, high, low] ++ data)
      ⟨classByte, instruction, p1, p2, data, none, true⟩
  | extendedSendingExpecting (classByte instruction p1 p2 : UInt8) {high low : UInt8}
    {data : List UInt8} (hdata : data ≠ []) (hlength : wide high low = data.length)
    (first second : UInt8) :
    Written .extendedSendingExpecting
      ([classByte, instruction, p1, p2, 0, high, low] ++ data ++ [first, second])
      ⟨classByte, instruction, p1, p2, data, some (extendedExpected first second), true⟩

/-- Whether a command has a layout: its lengths fit the fields that they are written in, and an
extended command sends or expects something. -/
structure IsWritable (command : Command) : Prop where
  data_le : command.data.length ≤ if command.extended then 65535 else 255
  expected_pos : ∀ expected ∈ command.expected, 0 < expected
  expected_le : ∀ expected ∈ command.expected,
    expected ≤ if command.extended then maxExtendedExpected else maxShortExpected
  not_bare : command.extended = true → command.data = [] → command.expected ≠ none

/-- The layout that a command is written in. -/
def layout (command : Command) : Layout :=
  if command.extended then
    if command.data.isEmpty then .extendedExpecting
    else if command.expected.isSome then .extendedSendingExpecting
    else .extendedSending
  else if command.data.isEmpty then if command.expected.isSome then .expecting else .bare
  else if command.expected.isSome then .sendingExpecting
  else .sending

/-! ### Writing -/

section Written

variable {layout : Layout} {raw : List UInt8} {command : Command}

/-- What writes a command is what writing it gives. -/
theorem Written.encode_eq (hwritten : Written layout raw command) : command.encode = raw := by
  cases hwritten with
  | bare => rfl
  | expecting classByte instruction p1 p2 expected =>
    simp [encode, header, lengthField, ofNat_shortExpected]
  | sending _ _ _ _ hdata hlength =>
    simp [encode, header, lengthField, trailer, hdata, ← hlength]
  | sendingExpecting _ _ _ _ hdata hlength expected =>
    simp [encode, header, lengthField, trailer, hdata, ← hlength, ofNat_shortExpected]
  | extendedExpecting _ _ _ _ high low =>
    simp [encode, header, lengthField, wideBytes_extendedExpected]
  | extendedSending _ _ _ _ hdata hlength =>
    simp [encode, header, lengthField, trailer, hdata, ← hlength, wideBytes_wide]
  | extendedSendingExpecting _ _ _ _ hdata hlength first second =>
    simp [encode, header, lengthField, trailer, hdata, ← hlength, wideBytes_wide,
      wideBytes_extendedExpected]

theorem Written.layout_eq (hwritten : Written layout raw command) : layout = command.layout := by
  cases hwritten with
  | bare | expecting | extendedExpecting => rfl
  | sending _ _ _ _ hdata | sendingExpecting _ _ _ _ hdata | extendedSending _ _ _ _ hdata
  | extendedSendingExpecting _ _ _ _ hdata =>
    simp [Command.layout, hdata]

theorem Written.isExtended_eq (hwritten : Written layout raw command) :
    layout.isExtended = command.extended := by
  cases hwritten <;> rfl

theorem Written.isWritable (hwritten : Written layout raw command) : command.IsWritable := by
  have hshort : ∀ {length : UInt8} {data : List UInt8}, length.toNat = data.length →
      data.length ≤ 255 := fun hlength ↦ hlength ▸ Nat.le_of_lt_succ (UInt8.toNat_lt _)
  have hlong : ∀ {high low : UInt8} {data : List UInt8}, wide high low = data.length →
      data.length ≤ 65535 := fun hlength ↦ hlength ▸ Nat.le_of_lt_succ (wide_lt _ _)
  cases hwritten with
  | bare => exact ⟨Nat.zero_le _, nofun, nofun, nofun⟩
  | expecting _ _ _ _ expected =>
    refine ⟨Nat.zero_le _, ?_, ?_, nofun⟩ <;> rintro _ ⟨⟩
    · exact shortExpected_pos expected
    · exact shortExpected_le expected
  | sending _ _ _ _ hdata hlength => exact ⟨hshort hlength, nofun, nofun, nofun⟩
  | sendingExpecting _ _ _ _ hdata hlength expected =>
    refine ⟨hshort hlength, ?_, ?_, nofun⟩ <;> rintro _ ⟨⟩
    · exact shortExpected_pos expected
    · exact shortExpected_le expected
  | extendedExpecting _ _ _ _ high low =>
    refine ⟨Nat.zero_le _, ?_, ?_, nofun⟩ <;> rintro _ ⟨⟩
    · exact extendedExpected_pos high low
    · exact extendedExpected_le high low
  | extendedSending _ _ _ _ hdata hlength =>
    exact ⟨hlong hlength, nofun, nofun, fun _ hnone ↦ absurd hnone hdata⟩
  | extendedSendingExpecting _ _ _ _ hdata hlength first second =>
    refine ⟨hlong hlength, ?_, ?_, fun _ hnone ↦ absurd hnone hdata⟩ <;> rintro _ ⟨⟩
    · exact extendedExpected_pos first second
    · exact extendedExpected_le first second

/-- A command that has a layout is written in it. -/
theorem IsWritable.written (hwritable : command.IsWritable) :
    Written command.layout command.encode command := by
  obtain ⟨classByte, instruction, p1, p2, data, expected, extended⟩ := command
  obtain ⟨hlength, hpos, hle, hbare⟩ := hwritable
  dsimp only at hlength hpos hle hbare
  cases extended with
  | false =>
    rw [if_neg Bool.false_ne_true] at hlength hle
    have hbyte : (UInt8.ofNat data.length).toNat = data.length :=
      UInt8.toNat_ofNat_of_lt' (Nat.lt_succ_of_le hlength)
    cases expected with
    | none =>
      by_cases hdata : data = []
      · subst hdata
        exact .bare classByte instruction p1 p2
      · have hwritten := Written.sending classByte instruction p1 p2 hdata hbyte
        exact hwritten.encode_eq.symm ▸ hwritten.layout_eq ▸ hwritten
    | some expected =>
      have hexpected := shortExpected_ofNat (hpos expected rfl) (hle expected rfl)
      by_cases hdata : data = []
      · subst hdata
        have hwritten := Written.expecting classByte instruction p1 p2 (UInt8.ofNat expected)
        rw [hexpected] at hwritten
        exact hwritten
      · have hwritten := Written.sendingExpecting classByte instruction p1 p2 hdata hbyte
          (UInt8.ofNat expected)
        rw [hexpected] at hwritten
        exact hwritten.encode_eq.symm ▸ hwritten.layout_eq ▸ hwritten
  | true =>
    rw [if_pos rfl] at hlength hle
    have hwide := wide_wideBytes (Nat.lt_succ_of_le hlength)
    cases expected with
    | none =>
      have hdata : data ≠ [] := fun hdata ↦ hbare rfl hdata rfl
      have hwritten := Written.extendedSending classByte instruction p1 p2 hdata hwide
      exact hwritten.encode_eq.symm ▸ hwritten.layout_eq ▸ hwritten
    | some expected =>
      have hexpected := extendedExpected_wideBytes (hpos expected rfl) (hle expected rfl)
      by_cases hdata : data = []
      · subst hdata
        have hwritten := Written.extendedExpecting classByte instruction p1 p2
          (UInt8.ofNat (expected / 256)) (UInt8.ofNat expected)
        rw [hexpected] at hwritten
        exact hwritten
      · have hwritten := Written.extendedSendingExpecting classByte instruction p1 p2 hdata hwide
          (UInt8.ofNat (expected / 256)) (UInt8.ofNat expected)
        rw [hexpected] at hwritten
        exact hwritten.encode_eq.symm ▸ hwritten.layout_eq ▸ hwritten

end Written

/-! ### Reading -/

section Reading

variable {classByte instruction p1 p2 : UInt8} {raw : List UInt8} {allowed : Bool}
  {command : Command}

/-- A length byte with something behind it leads to one of the two ways to read on. -/
theorem parse_body {rest : List UInt8} (hrest : rest ≠ []) (length : UInt8) (allowed : Bool) :
    parse (classByte :: instruction :: p1 :: p2 :: length :: rest) allowed =
      if length ≠ 0 then parseShort (.mk classByte instruction p1 p2) length.toNat rest
      else if allowed then parseExtended (.mk classByte instruction p1 p2) rest
      else .error .wrongLength := by
  obtain ⟨first, others, rfl⟩ := List.exists_cons_of_ne_nil hrest
  rfl

section Parts

variable {header : List UInt8 → Option Nat → Bool → Command} {length : Nat} {data : List UInt8}

/-- Data of the length given, and nothing behind them. -/
theorem parseShort_data (hlength : length = data.length) :
    parseShort header length data = .ok (header data none false) := by
  unfold parseShort
  rw [hlength, if_neg (Nat.lt_irrefl _), List.drop_length]

/-- Data of the length given, and the expected length behind them. -/
theorem parseShort_data_expected (hlength : length = data.length) (expected : UInt8) :
    parseShort header length (data ++ [expected]) =
      .ok (header data (some (shortExpected expected)) false) := by
  have hlong : ¬(data ++ [expected]).length < data.length := by simp
  unfold parseShort
  rw [hlength, if_neg hlong, List.drop_left, List.take_left]

/-- Behind two length bytes with data there are data just as with one. -/
theorem parseExtended_of_data {high low : UInt8} (hdata : data ≠ [])
    (hlength : wide high low = data.length) (tail : List UInt8) :
    ¬(wide high low = 0 ∨ (data ++ tail).length < wide high low) := by
  rw [hlength, List.length_append, List.length_eq_zero_iff]
  exact not_or.mpr ⟨hdata, Nat.not_lt.mpr (Nat.le_add_right _ _)⟩

theorem parseExtended_data {high low : UInt8} (hdata : data ≠ [])
    (hlength : wide high low = data.length) :
    parseExtended header (high :: low :: data) = .ok (header data none true) := by
  have hthere := parseExtended_of_data hdata hlength []
  rw [List.append_nil] at hthere
  have hrest : data.drop (wide high low) = [] := by rw [hlength, List.drop_length]
  obtain ⟨first, others, rfl⟩ := List.exists_cons_of_ne_nil hdata
  unfold parseExtended
  dsimp only
  rw [if_neg hthere, hrest]

theorem parseExtended_data_expected {high low : UInt8} (hdata : data ≠ [])
    (hlength : wide high low = data.length) (first second : UInt8) :
    parseExtended header (high :: low :: (data ++ [first, second])) =
      .ok (header data (some (extendedExpected first second)) true) := by
  have hthere := parseExtended_of_data hdata hlength [first, second]
  have hrest : (data ++ [first, second]).drop (wide high low) = [first, second] := by
    rw [hlength, List.drop_left]
  have htaken : (data ++ [first, second]).take (wide high low) = data := by
    rw [hlength, List.take_left]
  obtain ⟨byte, others, rfl⟩ := List.exists_cons_of_ne_nil hdata
  rw [List.cons_append] at hthere hrest htaken ⊢
  unfold parseExtended
  dsimp only
  rw [if_neg hthere, hrest, htaken]

end Parts

/-- What is written in a layout that is allowed is read. -/
theorem Written.parse_eq {layout : Layout} (hwritten : Written layout raw command)
    (hallowed : layout.isExtended = true → allowed = true) : parse raw allowed = .ok command := by
  have hne : ∀ {length : UInt8} {data : List UInt8}, data ≠ [] →
      length.toNat = data.length → length ≠ 0 := by
    rintro _ data hdata hlength rfl
    exact hdata (List.length_eq_zero_iff.mp hlength.symm)
  cases hwritten with
  | bare | expecting => rfl
  | sending _ _ _ _ hdata hlength =>
    refine (parse_body hdata _ allowed).trans ?_
    rw [if_pos (hne hdata hlength), parseShort_data hlength]
  | sendingExpecting _ _ _ _ hdata hlength expected =>
    rw [List.append_assoc]
    refine (parse_body (List.append_ne_nil_of_left_ne_nil hdata _) _ allowed).trans ?_
    rw [if_pos (hne hdata hlength), parseShort_data_expected hlength]
  | extendedExpecting =>
    obtain rfl := hallowed rfl
    rfl
  | extendedSending _ _ _ _ hdata hlength =>
    obtain rfl := hallowed rfl
    exact (parse_body (List.cons_ne_nil _ _) 0 true).trans (parseExtended_data hdata hlength)
  | extendedSendingExpecting _ _ _ _ hdata hlength first second =>
    obtain rfl := hallowed rfl
    rw [List.append_assoc]
    exact (parse_body (List.cons_ne_nil _ _) 0 true).trans
      (parseExtended_data_expected hdata hlength first second)

section Found

variable {header : List UInt8 → Option Nat → Bool → Command} {rest : List UInt8}

/-- What is read behind one length byte is data of this length, with an expected length behind them
or nothing. -/
theorem eq_of_parseShort {length : Nat} (hparse : parseShort header length rest = .ok command) :
    (length = rest.length ∧ command = header rest none false) ∨
      ∃ data expected, rest = data ++ [expected] ∧ length = data.length ∧
        command = header data (some (shortExpected expected)) false := by
  unfold parseShort at hparse
  by_cases hlong : rest.length < length
  · rw [if_pos hlong] at hparse
    cases hparse
  rw [if_neg hlong] at hparse
  have htake : (rest.take length).length = length := by
    rw [List.length_take, Nat.min_eq_left (Nat.le_of_not_lt hlong)]
  have hjoin := List.take_append_drop length rest
  generalize rest.drop length = behind at hparse hjoin
  match behind with
  | [] =>
    rw [List.append_nil] at hjoin
    exact .inl ⟨by rw [← hjoin, htake], (Except.ok.inj hparse).symm⟩
  | [expected] => exact .inr ⟨_, expected, hjoin.symm, htake.symm, (Except.ok.inj hparse).symm⟩
  | _ :: _ :: _ => cases hparse

/-- What is read behind a zero byte is an expected length alone, or data of the length given, which
is not zero, with an expected length behind them or nothing. -/
theorem eq_of_parseExtended (hparse : parseExtended header rest = .ok command) :
    (∃ high low, rest = [high, low] ∧ command = header [] (some (extendedExpected high low)) true) ∨
      ∃ high low data, data ≠ [] ∧ wide high low = data.length ∧
        ((rest = high :: low :: data ∧ command = header data none true) ∨
          ∃ first second, rest = high :: low :: (data ++ [first, second]) ∧
            command = header data (some (extendedExpected first second)) true) := by
  match rest with
  | [] | [_] => cases hparse
  | [high, low] => exact .inl ⟨high, low, rfl, (Except.ok.inj hparse).symm⟩
  | high :: low :: byte :: others =>
    refine .inr ⟨high, low, ?_⟩
    unfold parseExtended at hparse
    dsimp only at hparse
    generalize byte :: others = rest at hparse
    by_cases hlong : wide high low = 0 ∨ rest.length < wide high low
    · rw [if_pos hlong] at hparse
      cases hparse
    rw [if_neg hlong] at hparse
    obtain ⟨hpos, hle⟩ := not_or.mp hlong
    have htake : (rest.take (wide high low)).length = wide high low := by
      rw [List.length_take, Nat.min_eq_left (Nat.le_of_not_lt hle)]
    have hne : rest.take (wide high low) ≠ [] := by
      intro hnil
      rw [hnil] at htake
      exact hpos htake.symm
    have hjoin := List.take_append_drop (wide high low) rest
    refine ⟨rest.take (wide high low), hne, htake.symm, ?_⟩
    generalize rest.drop (wide high low) = behind at hparse hjoin
    match behind with
    | [] =>
      rw [List.append_nil] at hjoin
      refine .inl ⟨by rw [hjoin], ?_⟩
      rw [hjoin]
      exact (Except.ok.inj hparse).symm
    | [first, second] =>
      exact .inr ⟨first, second, by rw [hjoin], (Except.ok.inj hparse).symm⟩
    | [_] => cases hparse
    | _ :: _ :: _ :: _ => cases hparse

end Found

/-- What is read is written in a layout that is allowed. -/
theorem written_of_parse (hparse : parse raw allowed = .ok command) :
    ∃ layout, Written layout raw command ∧ (layout.isExtended = true → allowed = true) := by
  match raw with
  | [] | [_] | [_, _] | [_, _, _] => cases hparse
  | [classByte, instruction, p1, p2] =>
    obtain rfl := Except.ok.inj hparse
    exact ⟨_, .bare classByte instruction p1 p2, nofun⟩
  | [classByte, instruction, p1, p2, expected] =>
    obtain rfl := Except.ok.inj hparse
    exact ⟨_, .expecting classByte instruction p1 p2 expected, nofun⟩
  | classByte :: instruction :: p1 :: p2 :: length :: byte :: others =>
    have hrest := List.cons_ne_nil byte others
    generalize byte :: others = rest at hparse hrest
    rw [parse_body hrest] at hparse
    by_cases hlength : length ≠ 0
    · rw [if_pos hlength] at hparse
      have hpos : length.toNat ≠ 0 := fun hzero ↦ hlength (UInt8.toNat_inj.mp hzero)
      rcases eq_of_parseShort hparse with
        ⟨hdata, rfl⟩ | ⟨data, expected, rfl, hdata, rfl⟩
      · exact ⟨_, .sending classByte instruction p1 p2 hrest hdata, nofun⟩
      · have hne : data ≠ [] := fun hnil ↦ hpos (by rw [hdata, hnil, List.length_nil])
        have hwritten := Written.sendingExpecting classByte instruction p1 p2 hne hdata expected
        rw [List.append_assoc] at hwritten
        exact ⟨_, hwritten, nofun⟩
    · obtain rfl := Decidable.not_not.mp hlength
      rw [if_neg hlength] at hparse
      cases allowed with
      | false => cases hparse
      | true =>
        refine Exists.imp (fun _ hwritten ↦ ⟨hwritten, fun _ ↦ rfl⟩) ?_
        rcases eq_of_parseExtended hparse with ⟨high, low, rfl, rfl⟩ |
          ⟨high, low, data, hdata, hwide, ⟨rfl, rfl⟩ | ⟨first, second, rfl, rfl⟩⟩
        · exact ⟨_, .extendedExpecting classByte instruction p1 p2 high low⟩
        · exact ⟨_, .extendedSending classByte instruction p1 p2 hdata hwide⟩
        · have hwritten :=
            Written.extendedSendingExpecting classByte instruction p1 p2 hdata hwide first second
          rw [List.append_assoc] at hwritten
          exact ⟨_, hwritten⟩

/-- Reading accepts what is written in a layout that is allowed, and finds what was written. -/
theorem parse_eq_ok_iff : parse raw allowed = .ok command ↔
    ∃ layout, Written layout raw command ∧ (layout.isExtended = true → allowed = true) :=
  ⟨written_of_parse, fun ⟨_, hwritten, hallowed⟩ ↦ hwritten.parse_eq hallowed⟩

/-- Reading fails in one way. -/
theorem parse_eq_error {word : StatusWord} (hparse : parse raw allowed = .error word) :
    word = .wrongLength := by
  have hshort : ∀ {header : List UInt8 → Option Nat → Bool → Command} {length : Nat}
      {rest : List UInt8}, parseShort header length rest = .error word → word = .wrongLength := by
    intro header length rest hparse
    unfold parseShort at hparse
    by_cases hlong : rest.length < length
    · rw [if_pos hlong] at hparse
      exact (Except.error.inj hparse).symm
    rw [if_neg hlong] at hparse
    generalize rest.drop length = behind at hparse
    match behind with
    | [] | [_] => cases hparse
    | _ :: _ :: _ => exact (Except.error.inj hparse).symm
  have hextended : ∀ {header : List UInt8 → Option Nat → Bool → Command} {rest : List UInt8},
      parseExtended header rest = .error word → word = .wrongLength := by
    intro header rest hparse
    match rest with
    | [] | [_] => exact (Except.error.inj hparse).symm
    | [_, _] => cases hparse
    | high :: low :: byte :: others =>
      unfold parseExtended at hparse
      dsimp only at hparse
      by_cases hlong : wide high low = 0 ∨ (byte :: others).length < wide high low
      · rw [if_pos hlong] at hparse
        exact (Except.error.inj hparse).symm
      rw [if_neg hlong] at hparse
      generalize (byte :: others).drop (wide high low) = behind at hparse
      match behind with
      | [] | [_, _] => cases hparse
      | [_] | _ :: _ :: _ :: _ => exact (Except.error.inj hparse).symm
  match raw with
  | [] | [_] | [_, _] | [_, _, _] => exact (Except.error.inj hparse).symm
  | [_, _, _, _] | [_, _, _, _, _] => cases hparse
  | _ :: _ :: _ :: _ :: length :: byte :: others =>
    rw [parse_body (List.cons_ne_nil byte others)] at hparse
    by_cases hlength : length ≠ 0
    · rw [if_pos hlength] at hparse
      exact hshort hparse
    rw [if_neg hlength] at hparse
    cases allowed with
    | false => exact (Except.error.inj hparse).symm
    | true => exact hextended hparse

/-- The sender of a command that was read accepts at least one byte. -/
theorem accepted_pos (hparse : parse raw allowed = .ok command) : 0 < command.accepted := by
  obtain ⟨_, hwritten, -⟩ := written_of_parse hparse
  have hpos := hwritten.isWritable.expected_pos
  unfold accepted
  cases hexpected : command.expected with
  | some expected => exact hpos expected hexpected
  | none =>
    cases command.extended with
    | false => exact Nat.zero_lt_succ 255
    | true => exact Nat.zero_lt_succ 65535

/-- Reading accepts what is written in one of the layouts, the extended ones where they are allowed,
and refuses the rest as of the wrong length. Bytes are written in one layout at most. Every command
whose lengths fit is written in its layout and read again as it was. A command that was read is
written in the bytes that it was read from, is read alike where the extended layouts are allowed,
and accepts at least one byte. -/
theorem reading_inverts_writing :
    (∀ raw allowed command, parse raw allowed = .ok command ↔
      ∃ layout, Written layout raw command ∧ (layout.isExtended = true → allowed = true)) ∧
    (∀ raw allowed, (∀ layout command, Written layout raw command →
      layout.isExtended = true ∧ allowed = false) → parse raw allowed = .error .wrongLength) ∧
    (∀ raw layout layout' command command', Written layout raw command →
      Written layout' raw command' → layout = layout' ∧ command = command') ∧
    (∀ command, IsWritable command →
      Written command.layout command.encode command ∧
      ∀ allowed, (command.extended = true → allowed = true) →
        parse command.encode allowed = .ok command) ∧
    ∀ raw allowed command, parse raw allowed = .ok command →
      command.IsWritable ∧ command.encode = raw ∧ parse raw true = .ok command ∧
        1 ≤ command.accepted := by
  have hread : ∀ {layout raw command}, Written layout raw command → parse raw true = .ok command :=
    fun hwritten ↦ hwritten.parse_eq fun _ ↦ rfl
  refine ⟨fun _ _ _ ↦ parse_eq_ok_iff, ?_, ?_, ?_, ?_⟩
  · intro raw allowed hnone
    cases hparse : parse raw allowed with
    | error word => rw [parse_eq_error hparse]
    | ok command =>
      obtain ⟨layout, hwritten, hallowed⟩ := written_of_parse hparse
      obtain ⟨hextended, hrefused⟩ := hnone layout command hwritten
      rw [hallowed hextended] at hrefused
      cases hrefused
  · intro raw layout layout' command command' hwritten hwritten'
    obtain rfl := Except.ok.inj ((hread hwritten).symm.trans (hread hwritten'))
    exact ⟨hwritten.layout_eq.trans hwritten'.layout_eq.symm, rfl⟩
  · intro command hwritable
    have hwritten := hwritable.written
    refine ⟨hwritten, fun allowed hallowed ↦ hwritten.parse_eq fun hextended ↦ hallowed ?_⟩
    exact hwritten.isExtended_eq.symm.trans hextended
  · intro raw allowed command hparse
    obtain ⟨_, hwritten, -⟩ := written_of_parse hparse
    exact ⟨hwritten.isWritable, hwritten.encode_eq, hread hwritten, accepted_pos hparse⟩

end Reading

end SmartCard.Command
