import SmartCard.Proofs.Applet.Hello
import SmartCard.Proofs.Memory.Tearing

/-!
# How the hello applet counts its greetings

The second array of the hello applet holds one number, which counts greetings modulo `2 ^ 16`
(`Hello.counterRegion`). It is persistent and written to directly, so a tear is all that can keep a
greeting from being counted (`Hello.handle_greet_of_torn`).

A greeting is counted before it is sent (`Hello.exists_handle_greet`). It can be sent only if there
are no data to receive first, since the code receives none: otherwise it fails
(`Session.handle_respond_of_pending`), but what has been counted stays counted. Without data the
greeting is sent as it should be, and so is the number of greetings when it is asked for
(`Hello.handle_count`). No other command changes the number (`Hello.keeps_counter`).
-/

set_option autoImplicit false
set_option relaxedAutoImplicit false

namespace SmartCard.Hello

variable {σ : Type} {arrays : Hello} {session : Session σ} {command : Command}
  {owner : ContextId} {heap : Heap} {count : Nat} {region : Region}

/-! ### The counter -/

theorem shortBytes_eq (value : Int16) :
    shortBytes value = [(value.toUInt16 / 256).toUInt8, value.toUInt16.toUInt8] :=
  Runs.toList_ofList _

/-- The two bytes of a count, modulo `2 ^ 16`. -/
theorem shortBytes_ofNat (count : Nat) :
    shortBytes (Int16.ofNat count) = [UInt8.ofNat (count / 256), UInt8.ofNat count] := by
  have hvalue : (Int16.ofNat count).toUInt16.toNat = count % 65536 := UInt16.toNat_ofNat'
  rw [shortBytes_eq]
  congr 1
  · apply UInt8.toNat_inj.mp
    rw [UInt16.toNat_toUInt8, UInt16.toNat_div, hvalue, UInt8.toNat_ofNat']
    change count % 65536 / 256 % 256 = count / 256 % 256
    omega
  · congr 1
    apply UInt8.toNat_inj.mp
    rw [UInt16.toNat_toUInt8, hvalue, UInt8.toNat_ofNat']
    omega

/-- The array of a hello applet that belongs to a context and has counted some greetings. -/
def counterRegion (owner : ContextId) (count : Nat) : Region where
  owner := owner
  lifetime := .persistent
  kind := .short
  length := 1
  cells := .bytes (.ofList (shortBytes (Int16.ofNat count)))
  grants := []

/-- A new array has counted nothing. -/
theorem counterRegion_zero (owner : ContextId) :
    counterRegion owner 0 = .fresh owner .persistent .short 1 := by
  have hcells : Runs.ofList (shortBytes (Int16.ofNat 0)) = Runs.replicate 2 0 := by decide
  exact congrArg (fun cells ↦ Region.mk owner .persistent .short 1 (.bytes cells) []) hcells

/-- The owner may use the array. -/
theorem access_counterRegion {array : ArrayRef}
    (hfind : heap.find? array.id = some (counterRegion owner count)) :
    heap.access owner array .short 0 1 = .ok (counterRegion owner count) := by
  refine Heap.access_eq_ok_iff.mpr ⟨hfind, Region.check_eq_ok_iff.mpr ⟨?_, rfl, Nat.le_refl 1⟩⟩
  exact Region.admits_owner (counterRegion owner count)

/-- Whether a context reads some count of greetings, modulo `2 ^ 16`, in the array of a hello
applet. -/
def Counts (arrays : Hello) (heap : Heap) (context : ContextId) (count : Nat) : Prop :=
  heap.get .short context arrays.greetings 0 = .ok (Int16.ofNat count)

/-- The owner reads the count. -/
theorem counts_region (hfind : heap.find? arrays.greetings.id = some (counterRegion owner count)) :
    arrays.Counts heap owner count := by
  have hbytes : ((counterRegion owner count).cells.slice 0 2).toBytes =
      shortBytes (Int16.ofNat count) := by
    refine (Runs.toList_segment _ 0 2).trans ?_
    rw [Runs.toList_ofList, shortBytes_ofNat]
    rfl
  rw [Counts, Heap.get, access_counterRegion hfind]
  exact congrArg Except.ok (ElementKind.decode_short_of_toBytes hbytes)

/-! ### One more greeting -/

/-- The write that counts a greeting. -/
def tick (arrays : Hello) (count : Nat) : Write :=
  .element arrays.greetings .short 0 (Int16.ofNat count + 1)

/-- It puts the next count into the array. -/
theorem find?_tick (hfind : heap.find? arrays.greetings.id = some (counterRegion owner count)) :
    (heap.applied (arrays.tick count)).find? arrays.greetings.id =
      some (counterRegion owner (count + 1)) := by
  have hnext : Int16.ofNat count + 1 = Int16.ofNat (count + 1) := (Int16.ofNat_add count 1).symm
  have hcount : (arrays.tick count).count ≠ 0 := Nat.one_ne_zero
  have hpatch : (arrays.tick count).patch =
      .bytes (.ofList (shortBytes (Int16.ofNat (count + 1)))) := by
    rw [← hnext, shortBytes_eq]
    rfl
  rw [Heap.applied, if_neg hcount]
  refine (Heap.find?_written_of_bytes (counterRegion owner 0) hfind hpatch).trans ?_
  have hover : overwrite (arrays.tick count).start (shortBytes (Int16.ofNat (count + 1)))
      (shortBytes (Int16.ofNat count)) = shortBytes (Int16.ofNat (count + 1)) := by
    rw [shortBytes_ofNat, shortBytes_ofNat]
    rfl
  rw [hover]
  rfl

section Greet

variable (hfind : session.platform.store.heap.find? arrays.greetings.id =
  some (counterRegion session.context count))

include hfind

/-- The write is allowed, and it counts as one to a persistent array. -/
theorem counts_tick :
    session.platform.store.accessFor session.context (arrays.tick count) =
        .ok (counterRegion session.context count) ∧
      session.platform.store.heap.counts (arrays.tick count) = true := by
  have hpersistent : session.platform.store.heap.isPersistent arrays.greetings.id = true := by
    rw [Heap.isPersistent, Option.isSome_iff_exists]
    exact ⟨_, Heap.contents?_eq_some_iff.mpr ⟨_, hfind, rfl, rfl⟩⟩
  refine ⟨access_counterRegion hfind, ?_⟩
  rw [Heap.counts, show (arrays.tick count).array = arrays.greetings from rfl, hpersistent]
  rfl

theorem handle_getCount (exchange : Exchange) :
    session.handle exchange (Code.lift (Code.getShort arrays.greetings 0)) =
      (.value (.ok (Int16.ofNat count)), session, exchange) := by
  rw [Session.handle_lift, Session.play_getShort (counts_region hfind)]

/-- If a tear comes with the write, nothing is counted and nothing sent. -/
theorem handle_greet_of_torn (hdue : session.platform.store.transaction.tear.remaining = some 0)
    (exchange : Exchange) :
    session.handle exchange arrays.greet =
      (.value (.error (.memory (.journal .torn))),
        session.withStore (session.platform.store.refused (.journal .torn)), exchange) := by
  obtain ⟨haccess, hcounts⟩ := counts_tick hfind
  have htick : session.handle exchange (Code.lift (arrays.tick count).code) =
      (.value (.error (.memory (.journal .torn))),
        session.withStore (session.platform.store.refused (.journal .torn)), exchange) := by
    rw [Session.handle_lift, Session.play_write, Store.perform_of_torn haccess hcounts hdue]
    rfl
  unfold greet
  rw [Session.handle_bind (handle_getCount hfind exchange)]
  exact Session.handle_bind_of_error htick _

/-- Otherwise one more is counted before the greeting is sent. -/
theorem exists_handle_greet (hstore : session.platform.store.WellFormed)
    (hidle : session.platform.store.transaction.isActive = false)
    (hpassed : session.platform.store.transaction.tear.remaining ≠ some 0) :
    ∃ counted : Store,
      counted.heap.find? arrays.greetings.id =
        some (counterRegion session.context (count + 1)) ∧
      counted.transaction.isActive = false ∧
      counted.transaction.tear.fired = session.platform.store.transaction.tear.fired ∧
      ∀ exchange, session.handle exchange arrays.greet =
        (session.withStore counted).handle exchange (Code.respond greeting) := by
  obtain ⟨haccess, hcounts⟩ := counts_tick hfind
  have hok := Store.perform_of_idle haccess hcounts hpassed hidle
  have hfired := session.platform.store.fired_perform session.context (arrays.tick count)
  refine ⟨(session.platform.store.perform session.context (arrays.tick count)).2, ?_,
    (Store.isActive_perform hstore _ _).trans hidle, ?_, fun exchange ↦ ?_⟩
  · rw [Store.heap_perform haccess hok, find?_tick hfind]
  · refine (hfired.resolve_left fun htorn ↦ ?_).2
    cases hok.symm.trans htorn.1
  · have htick : session.handle exchange (Code.lift (arrays.tick count).code) =
        (.value (.ok ()), session.withStore
          (session.platform.store.perform session.context (arrays.tick count)).2, exchange) := by
      rw [Session.handle_lift, Session.play_write, hok]
      rfl
    unfold greet
    rw [Session.handle_bind (handle_getCount hfind exchange)]
    exact Session.handle_bind htick _

/-- A command without data that asks for the number of greetings is answered with it. -/
theorem handle_count (hdata : command.data = []) (bufferSize : Nat) :
    ∃ left : Exchange,
      session.handle (Exchange.start command bufferSize false) arrays.count =
        (.value (.ok ()), session, left) ∧
      left.finish = .ok [UInt8.ofNat (count / 256), UInt8.ofNat count] := by
  have hlength : [UInt8.ofNat (count / 256), UInt8.ofNat count].length ≤
      Exchange.maxShortOutgoing := (by decide : 2 ≤ Exchange.maxShortOutgoing)
  obtain ⟨left, hrespond, hfinish⟩ :=
    session.handle_respond (Exchange.awaits_start hdata bufferSize false) hlength
  refine ⟨left, ?_, hfinish⟩
  unfold Hello.count
  rw [Session.handle_bind (handle_getCount hfind _), shortBytes_ofNat, hrespond]

end Greet

theorem handle_process_of_greet (session : Session σ)
    (hinstruction : command.instruction = greetInstruction) (bufferSize : Nat) :
    session.handle (Exchange.start command bufferSize false) arrays.process =
      session.handle (Exchange.start command bufferSize false) arrays.greet := by
  rw [handle_process, if_neg Bool.false_ne_true, reaction, if_pos hinstruction]

theorem handle_process_of_count (session : Session σ)
    (hinstruction : command.instruction = countInstruction) (bufferSize : Nat) :
    session.handle (Exchange.start command bufferSize false) arrays.process =
      session.handle (Exchange.start command bufferSize false) arrays.count := by
  rw [handle_process, if_neg Bool.false_ne_true, reaction, hinstruction, if_neg (by decide),
    if_neg (by decide), if_neg (by decide), if_pos rfl]

/-! ### Other commands -/

/-- An echo writes to the other array. -/
theorem keeps_echo (hdistinct : arrays.lastEcho.id ≠ arrays.greetings.id)
    (hkeeps : session.platform.Keeps arrays.greetings.id region) (bufferSize : Nat)
    (selecting : Bool) :
    (session.handle (Exchange.start command bufferSize selecting)
      arrays.echo).2.1.platform.Keeps arrays.greetings.id region := by
  obtain ⟨received, -, -, hreceive, -⟩ :=
    session.handle_receiveAll command bufferSize selecting
  unfold echo
  rw [Session.handle_bind hreceive]
  dsimp only
  split
  · exact hkeeps
  refine keeps_bind ?_ fun _ marked left hmarked ↦ keeps_bind ?_ fun _ stored left hstored ↦ ?_
  · exact @keeps_write σ session region _
      (.element arrays.lastEcho .byte 0 (UInt8.ofNat command.data.length)) hdistinct hkeeps received
  · exact @keeps_write σ marked region _ (.bytes arrays.lastEcho 1 command.data) hdistinct hmarked
      left
  · rw [stored.keeps_respond]
    exact hstored

/-- Neither a selection nor any command but a greeting changes the counter. -/
theorem keeps_counter (hdistinct : arrays.lastEcho.id ≠ arrays.greetings.id)
    (hkeeps : session.platform.Keeps arrays.greetings.id region) {selecting : Bool}
    (hother : selecting = true ∨ command.instruction ≠ greetInstruction) (bufferSize : Nat) :
    (session.handle (Exchange.start command bufferSize selecting)
      arrays.process).2.1.platform.Keeps arrays.greetings.id region := by
  rw [handle_process]
  by_cases hselecting : selecting = true
  · rw [if_pos hselecting]
    exact hkeeps
  rw [if_neg hselecting]
  have hgreet := hother.resolve_left hselecting
  by_cases hecho : command.instruction = echoInstruction
  · rw [reaction, if_neg hgreet, if_pos hecho]
    exact keeps_echo hdistinct hkeeps bufferSize selecting
  · rw [keeps_reaction hgreet hecho]
    exact hkeeps

end SmartCard.Hello
