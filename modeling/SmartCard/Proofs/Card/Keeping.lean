import SmartCard.Proofs.Card.Installation
import SmartCard.Proofs.Card.Protocol
import SmartCard.Proofs.Card.Provenance
import SmartCard.Proofs.Memory.Masking

/-!
# Arrays that stay as they are

An array that has been granted and offered to nobody can be written to and offered by its owner
alone. A platform keeps such an array (`Platform.Keeps`) if it is live, just as given, stands in no
export, and undoing the open transaction would do nothing to it. Every call keeps that, unless it
writes to the array or offers it and succeeds (`Call.keeps_after`). Code in a context that the array
does not admit does neither (`Call.leaves_of_foreign`), so whatever it does the array stays as it is
(`Piece.keeps_of_foreign`).
-/

set_option autoImplicit false
set_option relaxedAutoImplicit false

namespace SmartCard

/-! ### Memory -/

namespace Store

/-- Whether an array is live, just as given, and undoing the open transaction would leave it so. -/
structure Keeps (store : Store) (id : Nat) (region : Region) : Prop where
  wellFormed : store.WellFormed
  found : store.heap.find? id = some region
  unrecorded : ∀ entry ∈ store.transaction.journal.entries, entry.region ≠ id
  old : id ∉ store.transaction.journal.allocations

/-- Whether an operation neither frees an array of a context nor grants it nor writes to it with
success. -/
def Avoids (store : Store) (id : Nat) (owner : ContextId) : Operation → Prop
  | .release other => other ≠ id
  | .releaseOwnedBy other => other ≠ owner
  | .grant other _ => other ≠ id
  | .write caller write => (store.perform caller write).1 = .ok () → write.array.id ≠ id
  | _ => True

/-- Whether an operation clears an array. -/
def Operation.clears (region : Region) : Operation → Bool
  | .clearOnDeselect owner => Heap.isClearedOnDeselect owner region
  | .clearOnReset => region.lifetime.isTransient
  | _ => false

variable {store : Store} {id : Nat} {region : Region}

/-- None clears a persistent one. -/
theorem Operation.clears_of_persistent (hlifetime : region.lifetime = .persistent)
    (operation : Operation) : operation.clears region = false := by
  cases operation with
  | clearOnDeselect owner =>
    rw [clears, Heap.isClearedOnDeselect, hlifetime]
    exact Bool.and_false _
  | clearOnReset =>
    rw [clears, hlifetime]
    rfl
  | _ => rfl

/-- In a store at rest there is nothing to undo. -/
theorem Rests.keeps (hrests : store.Rests) (hfind : store.heap.find? id = some region) :
    store.Keeps id region := by
  refine ⟨hrests.wellFormed, hfind, ?_, ?_⟩
  · rw [hrests.journal_eq]
    exact List.forall_mem_nil _
  · rw [hrests.journal_eq]
    exact List.not_mem_nil

namespace Keeps

variable (hkeeps : store.Keeps id region)

include hkeeps

/-- Another heap in which the array is found as well. -/
theorem withHeap {heap : Heap} (hstore : { store with heap }.WellFormed)
    (hfind : heap.find? id = some region) : { store with heap }.Keeps id region :=
  ⟨hstore, hfind, hkeeps.unrecorded, hkeeps.old⟩

theorem withTear (tear : TearInjector) : (store.withTear tear).Keeps id region :=
  ⟨hkeeps.wellFormed.withTear tear, hkeeps.found, hkeeps.unrecorded, hkeeps.old⟩

/-- Arrays of other sorts may be cleared. -/
theorem find?_clearWhere {forgotten : Region → Bool} (hkept : forgotten region = false) :
    (store.heap.clearWhere forgotten).find? id = some region := by
  rw [Heap.clearWhere, Heap.find?_mapRegions, hkeeps.found, Option.map_some, hkept]
  rfl

theorem allocate (owner : ContextId) (lifetime : Lifetime) (kind : ElementKind) (length : Nat) :
    (store.allocate owner lifetime kind length).2.Keeps id region := by
  have hstore := hkeeps.wellFormed.allocate owner lifetime kind length
  have hother : id ≠ store.heap.nextId :=
    Nat.ne_of_lt (hkeeps.wellFormed.heap.lt_nextId hkeeps.found)
  rcases store.allocate_cases owner lifetime kind length with ⟨error, h⟩ | ⟨text, h⟩ | h
  · rw [h]
    exact hkeeps
  · rw [h] at hstore ⊢
    exact hkeeps.withHeap hstore hkeeps.found
  · rw [h] at hstore ⊢
    dsimp only at hstore ⊢
    refine ⟨hstore, ?_, ?_, ?_⟩
    · rw [Heap.find?_insert, if_neg hother]
      exact hkeeps.found
    · unfold Transaction.noteAllocation
      split <;> exact hkeeps.unrecorded
    · unfold Transaction.noteAllocation
      split
      · refine fun hmem ↦ (List.mem_append.mp hmem).elim hkeeps.old fun hnew ↦ ?_
        exact hother (List.mem_singleton.mp hnew)
      · exact hkeeps.old

theorem perform {caller : ContextId} {write : Write}
    (havoids : (store.perform caller write).1 = .ok () → write.array.id ≠ id) :
    (store.perform caller write).2.Keeps id region := by
  have hstore := hkeeps.wellFormed.perform caller write
  cases hresult : (store.perform caller write).1 with
  | error error =>
    obtain ⟨tear, hafter⟩ := perform_of_error hresult
    rw [hafter]
    exact hkeeps.withTear tear
  | ok done =>
    have hother : id ≠ write.array.id := (havoids hresult).symm
    have hwritten : (store.heap.written write).find? id = some region := by
      rw [Heap.written, Heap.find?_modify_of_ne hother]
      exact hkeeps.found
    have heffect := perform_effect hkeeps.wellFormed.heap caller write
    generalize (store.perform caller write).2 = after at heffect hstore
    cases heffect with
    | nothing tear => exact hkeeps.withTear tear
    | transient _ _ _ => exact hkeeps.withHeap hstore hwritten
    | direct tear _ _ _ => exact ⟨hstore, hwritten, hkeeps.unrecorded, hkeeps.old⟩
    | recorded tear journal _ _ _ _ hrecord =>
      -- an entry of this array in the new journal would have been in the old one
      have hadds := @Journal.addsNothing_record (· == id) _ _ _ _ _ _
        (beq_false_of_ne hother.symm) hrecord
      refine ⟨hstore, hwritten, fun entry hentry hsame ↦ ?_, fun hmem ↦ ?_⟩
      · exact hkeeps.unrecorded entry (hadds.entry_mem entry hentry (beq_iff_eq.mpr hsame)) hsame
      · exact hkeeps.old (hadds.allocation_mem id hmem (beq_self_eq_true id))

theorem abort : store.abort.2.Keeps id region := by
  have hstore := hkeeps.wellFormed.abort
  cases hactive : store.transaction.isActive with
  | false =>
    rw [abort_of_idle hactive]
    exact hkeeps
  | true =>
    rw [abort_of_active hactive] at hstore ⊢
    refine ⟨hstore, ?_, List.forall_mem_nil _, List.not_mem_nil⟩
    have hkept : store.transaction.journal.allocations.contains id = false := by
      simpa using hkeeps.old
    rw [hkeeps.wellFormed.find?_rollBack, hkeeps.found, Option.map_some,
      Journal.replay_eq_self hkeeps.unrecorded, hkept]
    rfl

/-- Every operation keeps an array that it avoids and does not clear. -/
theorem next {operation : Operation} (hlasts : operation.clears region = false)
    (havoids : store.Avoids id region.owner operation) :
    (store.next operation).Keeps id region := by
  have hstore := hkeeps.wellFormed.next operation
  cases operation with
  | allocate owner lifetime kind length => exact hkeeps.allocate owner lifetime kind length
  | release other =>
    rw [Store.next, Heap.release] at hstore ⊢
    split at hstore
    · rw [if_pos ‹_›]
      refine hkeeps.withHeap hstore ?_
      have hother : decide (id = other) = false := decide_eq_false (Ne.symm havoids)
      rw [Heap.find?_discard hkeeps.wellFormed.heap.nodup, hkeeps.found, Option.filter_some, hother]
      rfl
    · rw [if_neg ‹_›]
      exact hkeeps
  | releaseOwnedBy owner =>
    refine hkeeps.withHeap hstore ?_
    exact (Heap.find?_releaseOwnedBy_eq_some_iff hkeeps.wellFormed.heap.nodup).mpr
      ⟨hkeeps.found, Ne.symm havoids⟩
  | grant other client =>
    have hsame : (store.next (.grant other client)).transaction = store.transaction := by
      rw [Store.next]
      cases store.heap.grant other client <;> rfl
    refine ⟨hstore, ?_, hsame ▸ hkeeps.unrecorded, hsame ▸ hkeeps.old⟩
    rw [find?_grant_of_ne (Ne.symm havoids)]
    exact hkeeps.found
  | write caller write => exact hkeeps.perform havoids
  | clearOnDeselect owner => exact hkeeps.withHeap hstore (hkeeps.find?_clearWhere hlasts)
  | clearOnReset => exact hkeeps.withHeap hstore (hkeeps.find?_clearWhere hlasts)
  | begin =>
    rw [Store.next] at hstore ⊢
    cases hactive : store.transaction.isActive with
    | false =>
      rw [begin_of_idle hactive] at hstore ⊢
      exact ⟨hstore, hkeeps.found, List.forall_mem_nil _, List.not_mem_nil⟩
    | true =>
      rw [begin_of_active hactive]
      exact hkeeps
  | commit =>
    rw [Store.next] at hstore ⊢
    cases hactive : store.transaction.isActive with
    | false =>
      rw [commit_of_idle hactive]
      exact hkeeps
    | true =>
      rw [commit_of_active hactive] at hstore ⊢
      exact ⟨hstore, hkeeps.found, List.forall_mem_nil _, List.not_mem_nil⟩
  | abort => exact hkeeps.abort
  | arm writes => exact hkeeps.withTear _
  | disarm => exact hkeeps.withTear _

end Keeps

end Store

/-! ### Calls -/

namespace Outcome

variable {σ : Type}

/-- The array that is written to, if one is and that succeeds. -/
def written? : Outcome σ → Option Nat
  | ⟨.set _ array _ _, ending⟩ => if succeeds ending then some array.id else none
  | ⟨.write array _ _, ending⟩ => if succeeds ending then some array.id else none
  | ⟨.fill array _ _ _, ending⟩ => if succeeds ending then some array.id else none
  | _ => none

/-- The array that is offered to others, if one is and the card takes the offer. -/
def offered? : Outcome σ → Option Nat
  | ⟨.offer array _ _, ending⟩ => if succeeds ending then some array.id else none
  | _ => none

/-- What is written to is accessed. -/
theorem accessed?_of_written? {outcome : Outcome σ} {id : Nat}
    (hwritten : outcome.written? = some id) : outcome.accessed? = some id := by
  obtain ⟨service, ending⟩ := outcome
  cases service with
  | set | write | fill => exact hwritten
  | _ => cases hwritten

end Outcome

/-- Whether a call neither writes to an array nor offers it, or fails to. -/
structure Call.Leaves {σ : Type} (call : Call σ) (id : Nat) : Prop where
  written : call.outcome.written? ≠ some id
  offered : call.outcome.offered? ≠ some id

/-- Whether a platform keeps an array just as given, and nobody is offered it. -/
structure Platform.Keeps (platform : Platform) (id : Nat) (region : Region) : Prop where
  store : platform.store.Keeps id region
  unoffered : ∀ entry ∈ platform.contexts.exports, entry.2.array.id ≠ id

namespace Call

variable {σ : Type} {call : Call σ} {id : Nat} {region : Region}

/-- What a service writes with success it does not leave alone. -/
theorem Leaves.avoids (hleaves : call.Leaves id) {caller : ContextId} {write : Write}
    (hoperation : call.session.operation? call.service = some (.write caller write))
    (hdone : (call.session.platform.store.perform caller write).1 = .ok ()) :
    write.array.id ≠ id := by
  rintro rfl
  refine hleaves.written ?_
  obtain ⟨session, service⟩ := call
  have hended : ∀ {result : Except MemoryError Unit}, result = .ok () →
      (if Outcome.succeeds (.value (result.mapError CardError.memory)) = true
        then some write.array.id else none) = some write.array.id := by
    rintro _ rfl
    rfl
  cases service with
  | set kind array index value =>
    obtain ⟨rfl, rfl⟩ := Store.Operation.write.inj (Option.some.inj hoperation)
    exact hended hdone
  | write array offset bytes =>
    obtain ⟨rfl, rfl⟩ := Store.Operation.write.inj (Option.some.inj hoperation)
    exact hended hdone
  | fill array offset length value =>
    obtain ⟨rfl, rfl⟩ := Store.Operation.write.inj (Option.some.inj hoperation)
    exact hended hdone
  | shared server parameter =>
    obtain ⟨_, -, hother⟩ := Option.map_eq_some_iff.mp hoperation
    cases hother
  | allocate | begin | commit | abort => cases hoperation
  | _ => cases hoperation

/-- A call keeps an array that it leaves alone. -/
theorem keeps_after (hkeeps : call.session.platform.Keeps id region)
    (hleaves : call.Leaves id) : call.after.platform.Keeps id region := by
  obtain ⟨session, service⟩ := call
  have heffect := session.effect_answer service
  unfold after
  dsimp only at hkeeps ⊢
  generalize (Session.answer service session).2 = answered at heffect
  cases heffect with
  | idle | told => exact hkeeps
  | @stored _ operation hoperation =>
    have hservice := Session.isService_operation? hoperation
    have hlasts : operation.clears region = false := by
      cases operation with
      | clearOnDeselect | clearOnReset => cases hservice
      | _ => rfl
    refine ⟨hkeeps.store.next hlasts ?_, hkeeps.unoffered⟩
    cases operation with
    | release | releaseOwnedBy => cases hservice
    | grant other client =>
      obtain ⟨server, parameter, array, -, hoffered, rfl, -⟩ :=
        Session.shared_of_operation? hoperation
      obtain ⟨context, -, hlookup⟩ := Option.bind_eq_some_iff.mp hoffered
      obtain ⟨restriction, hexport, -⟩ := ContextTable.mem_of_lookupExport hlookup
      exact hkeeps.unoffered _ hexport
    | write caller write => exact hleaves.avoids hoperation
    | _ => trivial
  | @offered array parameter client other hfind howner hanswer =>
    refine ⟨hkeeps.store, fun entry hentry ↦ ?_⟩
    rcases List.mem_cons.mp hentry with rfl | hold
    · intro hsame
      refine hleaves.offered ?_
      rw [outcome, hanswer]
      exact congrArg some hsame
    · exact hkeeps.unoffered entry (List.mem_filter.mp hold).1
  | registered => exact ⟨hkeeps.store, hkeeps.unoffered⟩

/-- What is offered with success is offered by its owner. -/
theorem offers_of_offered? (hoffered : call.outcome.offered? = some id) :
    ∃ parameter client, call.Offers call.session.context parameter id client := by
  obtain ⟨session, service⟩ := call
  cases service with
  | offer array parameter client =>
    have houtcome : (Call.mk session (.offer array parameter client)).outcome =
        ⟨.offer array parameter client, .value (session.offer array parameter client).1⟩ := rfl
    rw [houtcome] at hoffered
    refine ⟨parameter, client, rfl, array, ?_⟩
    rw [houtcome]
    generalize (session.offer array parameter client).1 = result at hoffered
    cases result with
    | error error => cases hoffered
    | ok done => exact ⟨Option.some.inj hoffered, rfl⟩
  | _ => cases hoffered

/-- Code in a context that an array does not admit leaves it alone. -/
theorem leaves_of_foreign (hfind : call.session.platform.store.heap.find? id = some region)
    (hforeign : region.admits call.session.context = false) : call.Leaves id := by
  constructor
  · intro hwritten
    obtain ⟨found, hfound, hadmits⟩ := exists_admits (Outcome.accessed?_of_written? hwritten)
    obtain rfl := Option.some_inj.mp (hfound.symm.trans hfind)
    rw [hforeign] at hadmits
    cases hadmits
  · intro hoffered
    obtain ⟨parameter, client, hoffers⟩ := offers_of_offered? hoffered
    have howner := hoffers.owner_eq ⟨region, hfind, rfl⟩
    rw [Region.admits, howner, BEq.rfl, Bool.or_true, Bool.true_or] at hforeign
    cases hforeign

end Call

/-! ### Pieces of code -/

namespace Piece

variable {σ : Type} {piece : Piece σ} {id : Nat} {region : Region}

/-- A piece of code keeps an array that all its calls leave alone. -/
theorem keeps_stop (hkeeps : piece.start.platform.Keeps id region)
    (hleaves : ∀ call ∈ piece.calls, call.Leaves id) : piece.stop.platform.Keeps id region := by
  refine @Piece.induction σ
    (fun made session ↦ (∀ call ∈ made, call.Leaves id) → session.platform.Keeps id region)
    (fun made call hmade hall ↦ ?_) piece [] (fun _ ↦ hkeeps) hleaves
  obtain ⟨hrest, hcall⟩ := List.forall_mem_append.mp hall
  exact Call.keeps_after (hmade hrest) (hcall call List.mem_cons_self)

/-- A piece of code in a context that an array does not admit keeps it. -/
theorem keeps_of_foreign (hkeeps : piece.start.platform.Keeps id region)
    (hforeign : region.admits piece.start.context = false) :
    piece.stop.platform.Keeps id region := by
  have hboth := @Piece.keeps σ
    (fun session ↦ session.context = piece.start.context ∧ session.platform.Keeps id region)
    (fun session service hsession ↦ ?_) piece ⟨rfl, hkeeps⟩
  · exact hboth.2
  · obtain ⟨hcontext, hsession⟩ := hsession
    refine ⟨(congrArg Frame.context (session.frame_answer service)).trans hcontext, ?_⟩
    have hleaves := @Call.leaves_of_foreign σ ⟨session, service⟩ id region hsession.store.found
      (hcontext ▸ hforeign)
    exact @Call.keeps_after σ ⟨session, service⟩ id region hsession hleaves

end Piece

/-! ### Courses -/

namespace Platform.Keeps

variable {platform : Platform} {id : Nat} {region : Region}

theorem next (hkeeps : platform.Keeps id region) {operation : Store.Operation}
    (hlasts : operation.clears region = false)
    (havoids : platform.store.Avoids id region.owner operation) :
    Keeps { platform with store := platform.store.next operation } id region :=
  ⟨hkeeps.store.next hlasts havoids, hkeeps.unoffered⟩

/-- Undoing what code has left open. -/
theorem settle (hkeeps : platform.Keeps id region) : platform.settle.Keeps id region :=
  @next _ _ _ hkeeps .abort rfl trivial

/-- A context is discarded that is not the owner's. -/
theorem discard (hkeeps : platform.Keeps id region) {context : ContextId}
    (hother : context ≠ region.owner) :
    Keeps
      { store := { platform.store with heap := platform.store.heap.releaseOwnedBy context }
        contexts := platform.contexts.remove context } id region := by
  have hreleased := @next _ _ _ hkeeps (.releaseOwnedBy context) rfl hother
  refine ⟨hreleased.store, fun entry hentry ↦ hkeeps.unoffered entry ?_⟩
  unfold ContextTable.remove at hentry
  split at hentry
  · exact hentry
  · exact (List.mem_filter.mp hentry).1

end Platform.Keeps

namespace Card

variable {σ : Type} {card after : Card σ} {config : Config} {id : Nat} {region : Region}

/-- Whether code leaves an array as it finds it. -/
def SparedBy (id : Nat) (region : Region) (piece : Piece σ) : Prop :=
  piece.start.platform.Keeps id region → piece.stop.platform.Keeps id region

/-- The owner of an array is no fresh context. -/
theorem Coheres.owner_ne (hcoheres : card.Coheres config) {context : ContextId}
    {contexts : ContextTable} (hcreate : card.platform.contexts.create = some (context, contexts))
    (hfind : card.platform.store.heap.find? id = some region) : context ≠ region.owner := by
  obtain ⟨entry, hentry, howner⟩ := hcoheres.isOrderly.owner_registered hfind
  exact fun hsame ↦ (hcoheres.fresh_context hcreate).2 entry hentry (howner.trans hsame.symm)

/-- Whatever happens to a card, an array that all code spares stays as it is until its owner is
removed. -/
theorem Course.keeps {pieces : List (Piece σ)} (hcourse : Course card pieces after)
    (hcoheres : card.Coheres config) (hlifetime : region.lifetime = .persistent)
    (hkeeps : card.platform.Keeps id region)
    (hpieces : ∀ piece ∈ pieces, SparedBy id region piece) :
    after.platform.Keeps id region ∨ after.Retired region.owner := by
  induction hcourse with
  | refl | told | rearrange => exact .inl hkeeps
  | trans hfirst hsecond ihfirst ihsecond =>
    obtain ⟨hpieces, hothers⟩ := List.forall_mem_append.mp hpieces
    rcases ihfirst hcoheres hkeeps hpieces with hkept | hretired
    · exact ihsecond (hcoheres.course hfirst) hkept hothers
    · exact .inr (hretired.course hsecond)
  | @upkeep card operation hupkeep =>
    refine .inl (hkeeps.next (operation.clears_of_persistent hlifetime) ?_)
    cases operation with
    | abort | clearOnDeselect | clearOnReset | arm | disarm => trivial
    | _ => cases hupkeep
  | @run card entry piece _ _ hplatform _ =>
    exact .inl (hpieces piece List.mem_cons_self (hplatform.symm ▸ hkeeps))
  | @abandon card context contexts piece params hcreate hstart =>
    -- what is discarded after the factory is its fresh context, which owned nothing before
    have hother := hcoheres.owner_ne hcreate hkeeps.store.found
    have hbegun : piece.start.platform.Keeps id region := by
      obtain ⟨-, rfl⟩ := ContextTable.create_eq_some hcreate
      rw [hstart]
      exact ⟨hkeeps.store, hkeeps.unoffered⟩
    have hran := hpieces piece List.mem_cons_self hbegun
    exact .inl (hran.settle.discard hother)
  | @install card context contexts piece params aid applet registry hcreate hstart _ _ =>
    have hbegun : piece.start.platform.Keeps id region := by
      obtain ⟨-, rfl⟩ := ContextTable.create_eq_some hcreate
      rw [hstart]
      exact ⟨hkeeps.store, hkeeps.unoffered⟩
    have hran := hpieces piece List.mem_cons_self hbegun
    exact .inl hran.settle
  | @remove card entry hentry hidle =>
    -- only here may the array go, and then its owner is gone for good
    by_cases hother : entry.context = region.owner
    · exact .inr (hother ▸ retired_evict hcoheres hentry)
    · exact .inl (hkeeps.discard hother)

end Card

end SmartCard
