import SmartCard.Proofs.Applet.Purse
import SmartCard.Proofs.Applet.Responding

/-!
# Asking a purse for its numbers

A purse tells its balance and its count in two bytes each, and changes nothing
(`Purse.handle_process_of_inquiry`). Whatever has become of its array, its six bytes are three
numbers (`Purse.exists_numbers`).
-/

set_option autoImplicit false
set_option relaxedAutoImplicit false

namespace SmartCard.Purse

variable {σ : Type} {purse : Purse} {command : Command}

/-! ### Numbers and their bytes -/

/-- A number is the one that its two bytes are. -/
theorem short_of_shortBytes {value : Int16} {high low : UInt8}
    (hbytes : shortBytes value = [high, low]) : short high low = value :=
  ElementKind.decode_short_of_toBytes ((Runs.toList_ofList [high, low]).trans hbytes.symm)

/-- Two bytes are those of the number that they are. -/
theorem shortBytes_short (high low : UInt8) : shortBytes (short high low) = [high, low] := by
  have hvalue : (short high low).toUInt16 = high.toUInt16 * 256 + low.toUInt16 := by
    have hbytes : (Cells.bytes (.ofList [high, low])).toBytes = [high, low] :=
      Runs.toList_ofList [high, low]
    rw [short, ElementKind.decode, hbytes]
    rfl
  rw [shortBytes_eq, hvalue]
  have hhigh := high.toNat_lt
  have hlow := low.toNat_lt
  congr 1
  · apply UInt8.toNat_inj.mp
    simp only [UInt16.toNat_toUInt8, UInt16.toNat_div, UInt16.toNat_add, UInt16.toNat_mul,
      UInt8.toNat_toUInt16, UInt16.reduceToNat]
    omega
  · congr 1
    apply UInt8.toNat_inj.mp
    simp only [UInt16.toNat_toUInt8, UInt16.toNat_add, UInt16.toNat_mul,
      UInt8.toNat_toUInt16, UInt16.reduceToNat]
    omega

/-- An array of the kind that a purse allocates keeps three numbers. -/
theorem exists_numbers {heap : Heap} (hheap : heap.WellFormed) {id : Nat} {region : Region}
    {context : ContextId} (hfind : heap.find? id = some region)
    (horiginal : region.original = (Region.fresh context .persistent .short 3).original) :
    ∃ numbers : Numbers, region = numbers.sharedRegion context region.grants := by
  obtain ⟨howner, hlifetime, hkind, hlength⟩ := Region.eq_of_original_eq horiginal
  have hshape := hheap.shape_eq hfind
  obtain ⟨owner, lifetime, kind, length, cells, grants⟩ := region
  obtain rfl : owner = context := howner
  obtain rfl : lifetime = .persistent := hlifetime
  obtain rfl : kind = .short := hkind
  obtain rfl : length = 3 := hlength
  cases cells with
  | references contents => cases hshape
  | bytes contents =>
    have hsix : contents.toList.length = 6 := by
      rw [Runs.length_toList]
      exact (CellShape.mk.inj hshape).2
    obtain ⟨b₀, b₁, b₂, b₃, b₄, b₅, hbytes⟩ : ∃ b₀ b₁ b₂ b₃ b₄ b₅,
        contents.toList = [b₀, b₁, b₂, b₃, b₄, b₅] := by
      generalize contents.toList = bytes at hsix
      match bytes, hsix with
      | [b₀, b₁, b₂, b₃, b₄, b₅], _ => exact ⟨b₀, b₁, b₂, b₃, b₄, b₅, rfl⟩
    refine ⟨⟨short b₀ b₁, short b₂ b₃, short b₄ b₅⟩, ?_⟩
    have hcontents : contents =
        .ofList (Numbers.bytes ⟨short b₀ b₁, short b₂ b₃, short b₄ b₅⟩) := by
      refine Runs.toList_injective ?_
      rw [Runs.toList_ofList, hbytes, Numbers.bytes, shortBytes_short, shortBytes_short,
        shortBytes_short]
      rfl
    rw [hcontents]
    rfl

/-! ### Inquiries -/

/-- The place of the number that an instruction asks for. -/
def asked? (instruction : UInt8) : Option Nat :=
  if instruction = balanceInstruction then some balanceIndex
  else if instruction = countInstruction then some countIndex
  else none

/-- Instructions that ask for a number are not those that order a payment. -/
theorem isCredit?_of_asked {instruction : UInt8} {index : Nat}
    (hasked : asked? instruction = some index) : isCredit? instruction = none := by
  unfold asked? at hasked
  split at hasked
  · rw [‹instruction = _›]
    rfl
  split at hasked
  · rw [‹instruction = _›]
    rfl
  · cases hasked

/-- Telling a number is all that the code does. -/
theorem handle_tell (session : Session σ) {exchange : Exchange} (hawaits : exchange.Awaits)
    {index : Nat} {value : Int16}
    (hvalue : session.platform.store.heap.get .short session.context purse.state index =
      .ok value) :
    ∃ left : Exchange, session.handle exchange (purse.tell index) =
      (.value (.ok ()), session, left) ∧ left.finish = .ok (shortBytes value) := by
  have hread : session.handle exchange (Code.lift (Code.getShort purse.state index)) =
      (.value (.ok value), session, exchange) := by
    rw [Session.handle_lift, Session.play_getShort hvalue]
  have hshort : (shortBytes value).length ≤ Exchange.maxShortOutgoing := by
    rw [shortBytes_eq]
    exact (by decide : 2 ≤ Exchange.maxShortOutgoing)
  unfold tell
  rw [Session.handle_bind hread]
  exact session.handle_respond hawaits hshort

/-- A command without data that asks for a number is answered with it. -/
theorem handle_process_of_inquiry (session : Session σ) {index : Nat} {value : Int16}
    (hasked : asked? command.instruction = some index) (hdata : command.data = [])
    (hvalue : session.platform.store.heap.get .short session.context purse.state index =
      .ok value) (bufferSize : Nat) :
    ∃ left : Exchange,
      session.handle (Exchange.start command bufferSize false) purse.process =
        (.value (.ok ()), session, left) ∧ left.finish = .ok (shortBytes value) := by
  set exchange := Exchange.start command bufferSize false with hstart
  have hlook : session.handle exchange (Code.look : Handler σ Exchange) =
      (.value (.ok exchange), session, exchange) := rfl
  have hawaits : exchange.Awaits := Exchange.awaits_start hdata bufferSize false
  have hcommand : exchange.command = command := rfl
  have hselecting : ¬ exchange.selecting = true := Bool.false_ne_true
  have hnone := isCredit?_of_asked hasked
  unfold isCredit? at hnone
  unfold process
  rw [Session.handle_bind hlook]
  dsimp only
  rw [if_neg hselecting, hcommand]
  split at hnone
  · cases hnone
  split at hnone
  · cases hnone
  rw [if_neg ‹_›, if_neg ‹_›]
  unfold asked? at hasked
  split at hasked
  · obtain rfl := Option.some.inj hasked
    rw [if_pos ‹_›]
    exact handle_tell session hawaits hvalue
  split at hasked
  · obtain rfl := Option.some.inj hasked
    rw [if_neg ‹_›, if_pos ‹_›]
    exact handle_tell session hawaits hvalue
  · cases hasked

end SmartCard.Purse
