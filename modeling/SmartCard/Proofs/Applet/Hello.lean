import SmartCard.Applet.Hello
import SmartCard.Proofs.Applet.Opening
import SmartCard.Proofs.Applet.Responding
import SmartCard.Proofs.Card.Keeping
import SmartCard.Proofs.Memory.Forgetting

/-!
# What the hello applet does with a command

The array of the last echo holds the length of a message, the message, and behind it what is left of
longer messages before (`Hello.Remembers`). It is granted to nobody and cleared on deselection, when
it remembers the empty message again (`Hello.Remembers.forgotten`).

An echo that is not too long is answered with its data, and the array remembers them
(`Hello.handle_echo`). No other command changes the array (`Hello.keeps_process`), and one of them
is answered with what it remembers (`Hello.handle_repeatEcho`).
-/

set_option autoImplicit false
set_option relaxedAutoImplicit false

namespace SmartCard

/-- To write no elements changes nothing. -/
theorem overwrite_nil {α : Type} (start : Nat) (list : List α) :
    overwrite start [] list = list := by
  rw [overwrite, List.append_nil, List.length_nil, Nat.add_zero, List.take_append_drop]

namespace Hello

variable {σ : Type} {arrays : Hello} {session after : Session σ} {command : Command}
  {owner : ContextId} {grants : List ContextId} {bytes values message : List UInt8}
  {region : Region}

/-! ### The array of the last echo -/

/-- The array of a hello applet that belongs to a context, granted to some contexts, with bytes in
it. -/
def echoRegion (owner : ContextId) (grants : List ContextId) (bytes : List UInt8) : Region where
  owner := owner
  lifetime := .clearOnDeselect
  kind := .byte
  length := echoCapacity + 1
  cells := .bytes (.ofList bytes)
  grants := grants

/-- Whether such an array, granted to nobody, remembers a message. -/
structure Remembers (region : Region) (owner : ContextId) (message : List UInt8) : Prop where
  length_le : message.length ≤ echoCapacity
  region_eq : ∃ rest, region =
    echoRegion owner [] (UInt8.ofNat message.length :: (message ++ rest))

/-- As many zeros as there are bytes, and one at least, are the empty message. -/
theorem remembers_zeros (owner : ContextId) (count : Nat) :
    Remembers { echoRegion owner [] [] with cells := .bytes (.replicate (count + 1) 0) } owner
      [] := by
  refine ⟨Nat.zero_le _, List.replicate count 0, ?_⟩
  have hzeros : Runs.replicate (count + 1) (0 : UInt8) =
      .ofList (UInt8.ofNat 0 :: List.replicate count 0) := by
    refine Runs.toList_injective ?_
    rw [Runs.toList_replicate, Runs.toList_ofList]
    rfl
  exact congrArg (fun cells ↦ { echoRegion owner [] [] with cells := .bytes cells }) hzeros

/-- A new array remembers the empty message. -/
theorem remembers_fresh (owner : ContextId) :
    Remembers (.fresh owner .clearOnDeselect .byte (echoCapacity + 1)) owner [] :=
  remembers_zeros owner echoCapacity

/-- So does one that is cleared. -/
theorem Remembers.forgotten (hremembers : Remembers region owner message) :
    Remembers region.forgotten owner [] := by
  obtain ⟨-, rest, rfl⟩ := hremembers
  have hlength : (Runs.ofList (UInt8.ofNat message.length :: (message ++ rest))).length =
      (message ++ rest).length + 1 := Runs.length_ofList _
  have hcleared :
      (echoRegion owner [] (UInt8.ofNat message.length :: (message ++ rest))).forgotten =
      { echoRegion owner [] [] with
        cells := .bytes (.replicate ((message ++ rest).length + 1) 0) } := by
    rw [← hlength]
    rfl
  exact hcleared ▸ remembers_zeros owner _

/-- The owner may use any part of the array. -/
theorem access_echoRegion {heap : Heap} {array : ArrayRef} {index count : Nat}
    (hfind : heap.find? array.id = some (echoRegion owner grants bytes))
    (hrange : index + count ≤ echoCapacity + 1) :
    heap.access owner array .byte index count = .ok (echoRegion owner grants bytes) := by
  refine Heap.access_eq_ok_iff.mpr ⟨hfind, Region.check_eq_ok_iff.mpr ⟨?_, rfl, hrange⟩⟩
  exact Region.admits_owner (echoRegion owner grants bytes)

/-- An array of the kind that a hello applet allocates first is such an array, with a byte in it at
least. -/
theorem exists_bytes {heap : Heap} (hheap : heap.WellFormed) {id : Nat}
    (hfind : heap.find? id = some region)
    (horiginal : region.original =
      (Region.fresh owner .clearOnDeselect .byte (echoCapacity + 1)).original) :
    ∃ head tail, region = echoRegion owner region.grants (head :: tail) := by
  obtain ⟨howner, hlifetime, hkind, hlength⟩ := Region.eq_of_original_eq horiginal
  have hshape := hheap.shape_eq hfind
  obtain ⟨regionOwner, lifetime, kind, length, cells, grants⟩ := region
  obtain rfl : regionOwner = owner := howner
  obtain rfl : lifetime = .clearOnDeselect := hlifetime
  obtain rfl : kind = .byte := hkind
  obtain rfl : length = echoCapacity + 1 := hlength
  cases cells with
  | references contents => cases hshape
  | bytes contents =>
    have hcount : contents.toList.length = echoCapacity + 1 := by
      rw [Runs.length_toList]
      exact (CellShape.mk.inj hshape).2
    obtain ⟨head, tail, hbytes⟩ := List.exists_cons_of_length_eq_add_one hcount
    refine ⟨head, tail, ?_⟩
    have hcontents : contents = .ofList (head :: tail) :=
      Runs.toList_injective (hbytes.trans (Runs.toList_ofList _).symm)
    rw [hcontents]
    rfl

/-- A write of bytes by the owner succeeds and puts them into the array, whether a transaction is
open or not. -/
theorem exists_perform {store : Store} {write : Write}
    (hfind : store.heap.find? write.array.id = some (echoRegion owner grants bytes))
    (hkind : write.kind = .byte) (hpatch : write.patch = .bytes (.ofList values))
    (hrange : write.index + write.count ≤ echoCapacity + 1) :
    ∃ heap, store.perform owner write = (.ok (), { store with heap }) ∧
      heap.find? write.array.id =
        some (echoRegion owner grants (overwrite write.index values bytes)) := by
  have haccess : store.accessFor owner write = .ok (echoRegion owner grants bytes) := by
    rw [Store.accessFor, hkind]
    exact access_echoRegion hfind hrange
  have hwidth : write.kind.cellWidth = 1 := by rw [hkind]; rfl
  have hcount : values.length = write.count := by
    have hsize := write.size_patch
    rw [hpatch, hwidth, Nat.mul_one] at hsize
    exact (Runs.length_ofList values).symm.trans hsize
  by_cases hempty : write.count = 0
  · rw [hempty, List.length_eq_zero_iff] at hcount
    rw [Store.perform_of_empty haccess hempty, hcount, overwrite_nil]
    exact ⟨store.heap, rfl, hfind⟩
  · refine ⟨_, Store.perform_of_transient haccess hempty
      (fun hlasting ↦ by cases hlasting), ?_⟩
    have hwritten := Heap.find?_written_of_bytes (echoRegion owner grants []) hfind hpatch
    rw [Write.start, hwidth, Nat.mul_one] at hwritten
    exact hwritten

/-! ### Echoes -/

/-- What the two writes of an echo make of the bytes in the array. -/
theorem overwrite_echo (length head : UInt8) (data tail : List UInt8) :
    overwrite 1 data (overwrite 0 [length] (head :: tail)) =
      length :: (data ++ tail.drop data.length) := by
  have hfirst : overwrite 0 [length] (head :: tail) = length :: tail := rfl
  rw [hfirst, overwrite, Nat.add_comm, List.drop_succ_cons]
  rfl

/-- An echo that is not too long is answered with the data and remembered, whatever there is in the
array and whoever has been granted it. -/
theorem handle_echo (session : Session σ) {head : UInt8} {tail : List UInt8}
    (hfind : session.platform.store.heap.find? arrays.lastEcho.id =
      some (echoRegion session.context grants (head :: tail)))
    (hlength : command.data.length ≤ echoCapacity) (bufferSize : Nat) :
    ∃ (heap : Heap) (left : Exchange) (rest : List UInt8),
      session.handle (Exchange.start command bufferSize false) arrays.echo =
        (.value (.ok ()), session.withStore { session.platform.store with heap }, left) ∧
      left.finish = .ok command.data ∧
      heap.find? arrays.lastEcho.id = some (echoRegion session.context grants
        (UInt8.ofNat command.data.length :: (command.data ++ rest))) := by
  obtain ⟨received, hreceiving, hall, hreceive, -⟩ :=
    session.handle_receiveAll command bufferSize false
  have hshort : ¬ echoCapacity < command.data.length := Nat.not_lt.mpr hlength
  set length := UInt8.ofNat command.data.length
  set first : Write := .element arrays.lastEcho .byte 0 length
  set second : Write := .bytes arrays.lastEcho 1 command.data
  obtain ⟨marked, hset, hkept⟩ := @exists_perform _ _ _ [length] _ first hfind rfl rfl
    (by decide : 0 + 1 ≤ echoCapacity + 1)
  set middle := session.withStore { session.platform.store with heap := marked }
  obtain ⟨stored, hwrite, hfound⟩ := @exists_perform _ _ _ command.data middle.platform.store
    second hkept rfl rfl (by change 1 + command.data.length ≤ _; omega)
  set after := middle.withStore { middle.platform.store with heap := stored }
  have hfirst : session.handle received (Code.lift (Code.set .byte arrays.lastEcho 0 length)) =
      (.value (.ok ()), middle, received) := by
    rw [Session.handle_lift, show Code.set .byte arrays.lastEcho 0 length = first.code from rfl,
      session.play_write first, hset]
    rfl
  have hsecond : middle.handle received (Code.lift (Code.write arrays.lastEcho 1 command.data)) =
      (.value (.ok ()), after, received) := by
    have hcontext : middle.context = session.context := rfl
    rw [Session.handle_lift, show Code.write arrays.lastEcho 1 command.data = second.code from rfl,
      middle.play_write second, hcontext, hwrite]
    rfl
  obtain ⟨left, hrespond, hfinish⟩ := after.handle_respond (hreceiving.awaits hall)
    (Nat.le_trans hlength (by decide))
  refine ⟨stored, left, tail.drop command.data.length, ?_, hfinish, ?_⟩
  · unfold echo
    rw [Session.handle_bind hreceive]
    dsimp only
    rw [if_neg hshort, Session.handle_bind hfirst, Session.handle_bind hsecond, hrespond]
    rfl
  · exact hfound.trans (congrArg (fun bytes ↦ some (echoRegion session.context grants bytes))
      (overwrite_echo _ _ _ _))

/-- One that is too long is refused before anything is written. -/
theorem handle_echo_of_long (session : Session σ) (hlong : echoCapacity < command.data.length)
    (bufferSize : Nat) (selecting : Bool) :
    ∃ left : Exchange, session.handle (Exchange.start command bufferSize selecting) arrays.echo =
      (.value (.error (.status .wrongLength)), session, left) := by
  obtain ⟨left, -, -, hreceive, -⟩ := session.handle_receiveAll command bufferSize selecting
  refine ⟨left, ?_⟩
  unfold echo
  rw [Session.handle_bind hreceive]
  dsimp only
  rw [if_pos hlong]
  rfl

/-- A command without data that asks for the last echo is answered with what is remembered. -/
theorem handle_repeatEcho (session : Session σ)
    (hfind : session.platform.store.heap.find? arrays.lastEcho.id = some region)
    (hremembers : Remembers region session.context message) (hdata : command.data = [])
    (bufferSize : Nat) :
    ∃ left : Exchange,
      session.handle (Exchange.start command bufferSize false) arrays.repeatEcho =
        (.value (.ok ()), session, left) ∧ left.finish = .ok message := by
  obtain ⟨hlength, rest, rfl⟩ := hremembers
  set exchange := Exchange.start command bufferSize false
  have hsmall : (UInt8.ofNat message.length).toNat = message.length :=
    UInt8.toNat_ofNat_of_lt' (Nat.lt_of_le_of_lt hlength (by decide))
  have hget : session.handle exchange (Code.lift (Code.getByte arrays.lastEcho 0)) =
      (.value (.ok (UInt8.ofNat message.length)), session, exchange) := by
    rw [Session.handle_lift]
    change (Ending.value ((session.platform.store.heap.get .byte session.context arrays.lastEcho
      0).mapError CardError.memory), session, exchange) = _
    have hbyte : ((echoRegion session.context [] (UInt8.ofNat message.length ::
        (message ++ rest))).cells.slice 0 1).toBytes = [UInt8.ofNat message.length] := by
      refine (Runs.toList_segment _ 0 1).trans ?_
      rw [Runs.toList_ofList]
      rfl
    rw [Heap.get, access_echoRegion hfind (by decide)]
    exact congrArg (fun found : List UInt8 ↦
      (Ending.value (Except.ok (found.getD 0 0)), session, exchange)) hbyte
  have hread : session.handle exchange (Code.lift (Code.read arrays.lastEcho 1
      (UInt8.ofNat message.length).toNat)) = (.value (.ok message), session, exchange) := by
    rw [Session.handle_lift, hsmall]
    change (Ending.value ((session.platform.store.heap.read session.context arrays.lastEcho 1
      message.length).mapError CardError.memory), session, exchange) = _
    have hbytes : ((echoRegion session.context [] (UInt8.ofNat message.length ::
        (message ++ rest))).cells.slice 1 message.length).toBytes = message := by
      refine (Runs.toList_segment _ 1 message.length).trans ?_
      rw [Runs.toList_ofList]
      exact List.take_left
    rw [Heap.read, access_echoRegion hfind (by omega)]
    exact congrArg (fun found : List UInt8 ↦
      (Ending.value (Except.ok found), session, exchange)) hbytes
  obtain ⟨left, hrespond, hfinish⟩ := session.handle_respond
    (Exchange.awaits_start hdata bufferSize false) (Nat.le_trans hlength (by decide))
  refine ⟨left, ?_, hfinish⟩
  unfold repeatEcho
  rw [Session.handle_bind hget, Session.handle_bind hread, hrespond]

/-! ### Commands -/

/-- The code for a command that is no selection. -/
def reaction (arrays : Hello) (command : Command) : Handler σ Unit :=
  if command.instruction = greetInstruction then arrays.greet
  else if command.instruction = echoInstruction then arrays.echo
  else if command.instruction = lastEchoInstruction then arrays.repeatEcho
  else if command.instruction = countInstruction then arrays.count
  else if command.instruction = throwInstruction then
    Code.refuse (.ofBytes command.p1 command.p2)
  else if command.instruction = patternInstruction then
    Code.respond (pattern (Command.wide command.p1 command.p2))
  else Code.refuse .instructionNotSupported

/-- A selection is left at that, and any other command is answered by its own code. -/
theorem handle_process (arrays : Hello) (session : Session σ) (command : Command)
    (bufferSize : Nat) (selecting : Bool) :
    session.handle (Exchange.start command bufferSize selecting) arrays.process =
      session.handle (Exchange.start command bufferSize selecting)
        (if selecting then pure () else arrays.reaction command) := by
  have hlook : session.handle (Exchange.start command bufferSize selecting)
      (Code.look : Handler σ Exchange) =
        (.value (.ok (Exchange.start command bufferSize selecting)), session,
          Exchange.start command bufferSize selecting) := rfl
  unfold process
  rw [Session.handle_bind hlook]
  rfl

theorem handle_process_of_echo (session : Session σ)
    (hinstruction : command.instruction = echoInstruction) (bufferSize : Nat) :
    session.handle (Exchange.start command bufferSize false) arrays.process =
      session.handle (Exchange.start command bufferSize false) arrays.echo := by
  rw [handle_process, if_neg Bool.false_ne_true, reaction, hinstruction, if_neg (by decide),
    if_pos rfl]

theorem handle_process_of_lastEcho (session : Session σ)
    (hinstruction : command.instruction = lastEchoInstruction) (bufferSize : Nat) :
    session.handle (Exchange.start command bufferSize false) arrays.process =
      session.handle (Exchange.start command bufferSize false) arrays.repeatEcho := by
  rw [handle_process, if_neg Bool.false_ne_true, reaction, hinstruction, if_neg (by decide),
    if_neg (by decide), if_pos rfl]

/-- A write to another array leaves an array as it is. -/
theorem keeps_write {id : Nat} {write : Write} (hother : write.array.id ≠ id)
    (hkeeps : session.platform.Keeps id region) (exchange : Exchange) :
    (session.handle exchange (Code.lift write.code)).2.1.platform.Keeps id region := by
  rw [Session.handle_lift, Session.play_write]
  exact ⟨hkeeps.store.perform fun _ ↦ hother, hkeeps.unoffered⟩

/-- Code leaves an array as it is if both of its parts do. -/
theorem keeps_bind {α β : Type} {id : Nat} {exchange : Exchange} {code : Handler σ α}
    {next : α → Handler σ β}
    (hcode : (session.handle exchange code).2.1.platform.Keeps id region)
    (hnext : ∀ value (after : Session σ) left, after.platform.Keeps id region →
      (after.handle left (next value)).2.1.platform.Keeps id region) :
    (session.handle exchange (code >>= next)).2.1.platform.Keeps id region :=
  @Session.preserves_bind σ α β session exchange (·.platform.Keeps id region) code next hcode hnext

/-- A greeting writes to the other array. -/
theorem keeps_greet (hdistinct : arrays.greetings.id ≠ arrays.lastEcho.id)
    (hkeeps : session.platform.Keeps arrays.lastEcho.id region) (exchange : Exchange) :
    (session.handle exchange arrays.greet).2.1.platform.Keeps arrays.lastEcho.id region := by
  refine keeps_bind ?_ fun count counted left hcounted ↦
    keeps_bind ?_ fun _ greeted left hgreeted ↦ ?_
  · rw [Session.handle_lift]
    exact hkeeps
  · exact @keeps_write σ counted region _ (.element arrays.greetings .short 0 (count + 1))
      hdistinct hcounted left
  · rw [greeted.keeps_respond]
    exact hgreeted

/-- What answers any command but a greeting and an echo changes nothing. -/
theorem keeps_reaction (hgreet : command.instruction ≠ greetInstruction)
    (hecho : command.instruction ≠ echoInstruction) (exchange : Exchange) :
    (session.handle exchange (arrays.reaction command)).2.1 = session := by
  rw [reaction, if_neg hgreet, if_neg hecho]
  split
  · refine Session.keeps_bind ?_ fun length left ↦ Session.keeps_bind ?_ fun data left ↦
      session.keeps_respond left data <;> rw [Session.handle_lift] <;> rfl
  split
  · refine Session.keeps_bind ?_ fun count left ↦ session.keeps_respond left _
    rw [Session.handle_lift]
    rfl
  split
  · rfl
  split
  · exact session.keeps_respond _ _
  · rfl

/-- Neither a selection nor any command but an echo that is not too long changes the array of the
last echo. -/
theorem keeps_process (hdistinct : arrays.greetings.id ≠ arrays.lastEcho.id)
    (hkeeps : session.platform.Keeps arrays.lastEcho.id region) {selecting : Bool}
    (hother : selecting = true ∨ command.instruction ≠ echoInstruction ∨
      echoCapacity < command.data.length) (bufferSize : Nat) :
    (session.handle (Exchange.start command bufferSize selecting)
      arrays.process).2.1.platform.Keeps arrays.lastEcho.id region := by
  rw [handle_process]
  by_cases hselecting : selecting = true
  · rw [if_pos hselecting]
    exact hkeeps
  rw [if_neg hselecting]
  by_cases hgreet : command.instruction = greetInstruction
  · rw [reaction, if_pos hgreet]
    exact keeps_greet hdistinct hkeeps _
  by_cases hecho : command.instruction = echoInstruction
  · obtain ⟨left, hrefused⟩ := handle_echo_of_long session
      ((hother.resolve_left hselecting).resolve_left (not_not.mpr hecho)) bufferSize selecting
    rw [reaction, if_neg hgreet, if_pos hecho, hrefused]
    exact hkeeps
  · rw [keeps_reaction hgreet hecho]
    exact hkeeps

/-! ### Installation -/

/-- The applet with the arrays that a heap will give next. -/
def upcoming (heap : Heap) (context : ContextId) : Hello :=
  ⟨⟨heap.nextId, context⟩, ⟨heap.nextId + 1, context⟩⟩

/-- What code that installs the applet has done when it succeeds: there are two new arrays, of which
the first remembers the empty message and the second counts nothing yet, no transaction is open, and
nobody is offered anything new. -/
structure Opens (session : Session σ) (applet : Applet σ) (after : Session σ) : Prop where
  applet_eq : applet = (upcoming session.platform.store.heap session.context).applet
  idle : after.platform.store.transaction.isActive = false
  found : after.platform.store.heap.find? session.platform.store.heap.nextId =
    some (.fresh session.context .clearOnDeselect .byte (echoCapacity + 1))
  counted : after.platform.store.heap.find? (session.platform.store.heap.nextId + 1) =
    some (.fresh session.context .persistent .short 1)
  exports_eq : after.platform.contexts.exports = session.platform.contexts.exports
  registered_eq : after.install.bind (·.registered) = session.install.map (·.params.instanceAid)

/-- Code that installs the applet does just this, if it succeeds. -/
theorem play_install {params : InstallParams} {applet : Applet σ}
    (hidle : session.platform.store.transaction.isActive = false)
    (hplay : session.play (Hello.install params) = (.value (.ok applet), after)) :
    Opens session applet after := by
  obtain ⟨lastEcho, echoed, hfirst, hplay⟩ := Session.play_bind_eq_ok hplay
  obtain ⟨greetings, allocated, hsecond, hregister⟩ := Session.play_bind_eq_ok hplay
  obtain ⟨rfl, hechoed, hmade⟩ := Session.play_allocate_of_ok hfirst
  obtain ⟨rfl, hallocated, hgrown⟩ := Session.play_allocate_of_ok hsecond
  have hcontext : echoed.context = session.context := by
    rw [hechoed]
    rfl
  have hnext : echoed.platform.store.heap.nextId = session.platform.store.heap.nextId + 1 := by
    rw [hmade]
    rfl
  have hactive : allocated.platform.store.transaction.isActive = false := by
    have hstill : echoed.platform.store.transaction.isActive = false := by
      rw [hmade, Transaction.noteAllocation, hidle]
      exact hidle
    rw [hgrown, Transaction.noteAllocation, hstill]
    exact hstill
  have hfind : allocated.platform.store.heap.find? session.platform.store.heap.nextId =
      some (.fresh session.context .clearOnDeselect .byte (echoCapacity + 1)) := by
    rw [hgrown, Heap.find?_insert, if_neg (by omega), hmade, Heap.find?_insert, if_pos rfl]
  have hcounter : allocated.platform.store.heap.find? (session.platform.store.heap.nextId + 1) =
      some (.fresh session.context .persistent .short 1) := by
    rw [hgrown, Heap.find?_insert, if_pos hnext.symm, hcontext]
  obtain ⟨rfl, hsame, hexports, hregistered⟩ := Session.play_register_of_ok hregister
  rw [hallocated, hechoed] at hexports hregistered
  constructor
  case applet_eq =>
    rw [upcoming, hnext, hcontext]
  case idle => rw [hsame]; exact hactive
  case found => rw [hsame]; exact hfind
  case counted => rw [hsame]; exact hcounter
  case exports_eq => exact hexports
  case registered_eq => exact hregistered

end Hello

end SmartCard
