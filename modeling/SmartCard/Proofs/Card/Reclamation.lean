import SmartCard.Proofs.Card.Course
import SmartCard.Proofs.Memory.Accounting

/-!
# Arrays that are gone

A number names one array and never another, so a handle to an array that has been freed is of no
use to anybody: whatever is done with it fails and changes nothing (`ArrayRef.IsStale`). And it
stays so. Every operation of the store continues the heap before (`Store.Continues`), and nothing
else happens to the memory of a card. So nobody can use the handle between two operations or during
one (`Card.isStale_of_dead`).
-/

set_option autoImplicit false
set_option relaxedAutoImplicit false

namespace SmartCard

/-! ### Stale handles -/

/-- Whether a handle is of no use: whatever anybody does with it fails, since there is no such
array, and changes nothing. -/
structure ArrayRef.IsStale (array : ArrayRef) (store : Store) : Prop where
  lookup : store.heap.lookup array.id = .error (.invalidHandle array.id)
  get : ∀ kind caller index,
    store.heap.get kind caller array index = .error (.invalidHandle array.id)
  read : ∀ caller offset length,
    store.heap.read caller array offset length = .error (.invalidHandle array.id)
  perform : ∀ caller write, write.array = array →
    store.perform caller write = (.error (.invalidHandle array.id), store)
  offer : ∀ {σ : Type} (session : Session σ) (parameter : UInt8) (client : Option Aid),
    session.platform.store = store →
      session.offer array parameter client = (.error (.memory (.invalidHandle array.id)), session)
  grant : ∀ client, store.heap.grant array.id client = .error (.invalidHandle array.id)
  release : store.heap.release array.id = .error (.invalidHandle array.id)

/-- A handle to an array that is not live is of no use. -/
theorem ArrayRef.isStale {array : ArrayRef} {store : Store}
    (hdead : store.heap.isLive array.id = false) : array.IsStale store := by
  have hnone : store.heap.find? array.id = none :=
    Option.isNone_iff_eq_none.mp (Option.isSome_eq_false_iff.mp hdead)
  have hlookup : store.heap.lookup array.id = .error (.invalidHandle array.id) := by
    rw [Heap.lookup, hnone]
  have haccess : ∀ caller kind index count,
      store.heap.access caller array kind index count = .error (.invalidHandle array.id) := by
    intro caller kind index count
    rw [Heap.access, hlookup]
    rfl
  refine ⟨hlookup, fun kind caller index ↦ ?_, fun caller offset length ↦ ?_, ?_, ?_,
    fun client ↦ ?_, ?_⟩
  · rw [Heap.get, haccess]
    rfl
  · rw [Heap.read, haccess]
    rfl
  · rintro caller write rfl
    exact Store.perform_of_refused (haccess _ _ _ _)
  · rintro σ session parameter client rfl
    rw [Session.offer, hlookup]
  · rw [Heap.grant, hdead]
    rfl
  · rw [Heap.release, hdead]
    rfl

/-! ### Stores that continue a heap -/

/-- Whether a store is well formed and its heap may come after an earlier one. -/
structure Store.Continues (store : Store) (earlier : Heap) : Prop where
  wellFormed : store.WellFormed
  follows : store.heap.Follows earlier

namespace Store.Continues

variable {store : Store} {earlier : Heap} (hcontinues : store.Continues earlier)

include hcontinues

theorem next (operation : Operation) : (store.next operation).Continues earlier where
  wellFormed := hcontinues.wellFormed.next operation
  follows := (hcontinues.wellFormed.follows_next operation).trans hcontinues.follows

/-- No array comes back. -/
theorem isStale {array : ArrayRef} (hid : array.id < earlier.nextId)
    (hdead : earlier.isLive array.id = false) : array.IsStale store :=
  ArrayRef.isStale (hcontinues.follows.isLive_eq_false hid hdead)

end Store.Continues

/-! ### Runs -/

namespace Card

variable {σ : Type} {card : Card σ} {earlier : Heap}

/-- Whatever happens to a card continues the heap that there was, and so has each call found it. -/
theorem continues_foldl (hstart : card.platform.store.Continues earlier)
    (operations : List (Operation σ)) :
    (operations.foldl Card.next card).platform.store.Continues earlier ∧
      ∀ call ∈ card.trace operations, call.session.platform.store.Continues earlier :=
  @store_foldl σ (fun store ↦ store.Continues earlier)
    (fun operation hcontinues ↦ hcontinues.next operation) card hstart operations

/-- A handle to an array that is gone is of no use after any further operations, nor to any code
that they run. -/
theorem isStale_of_dead (hstore : card.platform.store.WellFormed) {array : ArrayRef}
    (hid : array.id < card.platform.store.heap.nextId)
    (hdead : card.platform.store.heap.isLive array.id = false) (operations : List (Operation σ)) :
    array.IsStale (operations.foldl Card.next card).platform.store ∧
      ∀ call ∈ card.trace operations, array.IsStale call.session.platform.store := by
  obtain ⟨hafter, hcalls⟩ := continues_foldl ⟨hstore, .refl _⟩ operations
  exact ⟨hafter.isStale hid hdead, fun call hcall ↦ (hcalls call hcall).isStale hid hdead⟩

end Card

end SmartCard
