import SmartCard.Proofs.Memory.Lineage

/-!
# Arrays out of sight

Some arrays of a store are hidden from a context that may not use them. Masking blots out their
contents (`Heap.mask`), and two stores agree outside the hidden arrays if they are the same once
masked. What a context does that none of the hidden arrays admits is the same with the masked store:
it answers the same, and leads to stores that are the same once masked (`Store.put_mask`,
`Store.allocate_mask`, `Store.mask_abort`, and so on).

What happens to the hidden arrays themselves is `Store.Spares`: they stay as they are, and the
journal has nothing new to undo on them. Only undoing a transaction writes to hidden arrays at all
(`Store.spares_abort`), and then what it puts back is what the journal had before.
-/

set_option autoImplicit false
set_option relaxedAutoImplicit false

namespace SmartCard

/-- The array with its contents blotted out. -/
def Region.masked (region : Region) : Region :=
  { region with cells := .zeroed region.kind (region.length * region.kind.cellWidth) }

namespace Heap

variable {hidden : Nat → Bool} {heap : Heap}

/-- The heap with the contents of the hidden arrays blotted out. -/
def mask (heap : Heap) (hidden : Nat → Bool) : Heap :=
  heap.mapRegions fun id region ↦ if hidden id then region.masked else region

/-- Whether the hidden arrays are there and none of them admits a context. -/
structure Shuns (heap : Heap) (hidden : Nat → Bool) (caller : ContextId) : Prop where
  lt_nextId : ∀ {id}, hidden id = true → id < heap.nextId
  refused : ∀ {id region}, hidden id = true → heap.find? id = some region →
    region.admits caller = false

theorem mapRegions_mapRegions (heap : Heap) (first second : Nat → Region → Region) :
    (heap.mapRegions first).mapRegions second =
      heap.mapRegions fun id region ↦ second id (first id region) := by
  rw [mapRegions, mapRegions, mapRegions, List.map_map]
  rfl

/-- A change that masking makes no difference to. -/
theorem mask_mapRegions {change : Nat → Region → Region}
    (hchange : ∀ id region, (change id region.masked).masked = (change id region).masked) :
    ((heap.mask hidden).mapRegions change).mask hidden = (heap.mapRegions change).mask hidden := by
  rw [mask, mask, mask, mapRegions_mapRegions, mapRegions_mapRegions, mapRegions_mapRegions]
  congr 1
  funext id region
  cases hidden id with
  | true => exact hchange id region
  | false => rfl

@[simp]
theorem mask_mask (heap : Heap) (hidden : Nat → Bool) :
    (heap.mask hidden).mask hidden = heap.mask hidden := by
  rw [mask, mask, mapRegions_mapRegions]
  congr 1
  funext id region
  cases hidden id <;> rfl

theorem find?_mask (heap : Heap) (hidden : Nat → Bool) (id : Nat) :
    (heap.mask hidden).find? id =
      (heap.find? id).map fun region ↦ if hidden id then region.masked else region :=
  heap.find?_mapRegions _ id

theorem isLive_mask (heap : Heap) (hidden : Nat → Bool) (id : Nat) :
    (heap.mask hidden).isLive id = heap.isLive id := by
  rw [isLive, isLive, find?_mask, Option.isSome_map]

theorem lookup_mask (heap : Heap) (hidden : Nat → Bool) (id : Nat) :
    (heap.mask hidden).lookup id =
      (heap.lookup id).map fun region ↦ if hidden id then region.masked else region := by
  rw [lookup, lookup, find?_mask]
  cases heap.find? id <;> rfl

/-- What is the same for an array once masked can be looked up in the masked heap. -/
theorem map_lookup_mask {α : Type} {view : Region → α} (hview : ∀ region,
    view region.masked = view region) (heap : Heap) (hidden : Nat → Bool) (id : Nat) :
    ((heap.mask hidden).lookup id).map view = (heap.lookup id).map view := by
  rw [lookup_mask]
  cases heap.lookup id with
  | error error => rfl
  | ok region =>
    change Except.ok (view (if hidden id then region.masked else region)) = _
    split
    · exact congrArg Except.ok (hview region)
    · rfl

/-! ### What a context sees that hidden arrays do not admit -/

section Shuns

variable {caller : ContextId} (hshuns : heap.Shuns hidden caller)

include hshuns

/-- An access that is allowed is to no hidden array. -/
theorem Shuns.not_hidden {array : ArrayRef} {kind : ElementKind} {index count : Nat}
    {region : Region} (haccess : heap.access caller array kind index count = .ok region) :
    hidden array.id = false := by
  obtain ⟨hfind, hcheck⟩ := access_eq_ok_iff.mp haccess
  by_contra hhidden
  rw [Bool.not_eq_false] at hhidden
  have hrefused := hshuns.refused hhidden hfind
  rw [(Region.check_eq_ok_iff.mp hcheck).1] at hrefused
  exact Bool.noConfusion hrefused

/-- Accesses are refused or allowed all the same, for the same reason. -/
theorem Shuns.access_mask (array : ArrayRef) (kind : ElementKind) (index count : Nat) :
    (heap.mask hidden).access caller array kind index count =
      heap.access caller array kind index count := by
  unfold access lookup
  rw [find?_mask]
  cases hfind : heap.find? array.id with
  | none => rfl
  | some region =>
    cases hhidden : hidden array.id with
    | false => rfl
    | true =>
      have hrefused := hshuns.refused hhidden hfind
      have hmasked : region.masked.admits caller = false := hrefused
      change (region.masked.check caller kind index count >>= fun _ ↦ _) =
        (region.check caller kind index count >>= fun _ ↦ _)
      rw [Region.check, Region.check, hrefused, hmasked]
      rfl

theorem Shuns.get_mask (kind : ElementKind) (array : ArrayRef) (index : Nat) :
    (heap.mask hidden).get kind caller array index = heap.get kind caller array index := by
  rw [get, hshuns.access_mask, get]

theorem Shuns.read_mask (array : ArrayRef) (offset length : Nat) :
    (heap.mask hidden).read caller array offset length = heap.read caller array offset length := by
  rw [read, hshuns.access_mask, read]

end Shuns

/-- Whom an array admits cannot be seen from its contents. -/
theorem shuns_mask {caller : ContextId} :
    (heap.mask hidden).Shuns hidden caller ↔ heap.Shuns hidden caller := by
  constructor
  · intro hshuns
    refine ⟨hshuns.lt_nextId, fun {id region} hid hfind ↦ ?_⟩
    have hmasked : (heap.mask hidden).find? id = some region.masked := by
      rw [find?_mask, hfind, hid]
      rfl
    have hrefused := hshuns.refused hid hmasked
    exact hrefused
  · intro hshuns
    refine ⟨hshuns.lt_nextId, fun {id region} hid hfind ↦ ?_⟩
    rw [find?_mask, hid] at hfind
    obtain ⟨former, hformer, rfl⟩ := Option.map_eq_some_iff.mp hfind
    have hrefused := hshuns.refused hid hformer
    exact hrefused

/-! ### Changes of the masked heap -/

/-- A change of an array in sight is the same in the masked heap. -/
theorem modify_mask {id : Nat} {change : Region → Region}
    (hchange : hidden id = true → ∀ region, (change region).masked = change region.masked) :
    (heap.mask hidden).modify id change = (heap.modify id change).mask hidden := by
  rw [mask, mask, modify, modify, mapRegions_mapRegions, mapRegions_mapRegions]
  congr 1
  funext other region
  by_cases hother : other = id
  · subst other
    rw [if_pos rfl, if_pos rfl]
    cases hhidden : hidden id with
    | false => rfl
    | true => exact (hchange hhidden region).symm
  · rw [if_neg hother, if_neg hother]

theorem insert_mask {region : Region} (hnew : hidden heap.nextId = false) :
    (heap.mask hidden).insert region = (heap.insert region).mask hidden := by
  have hregion : region = if hidden heap.nextId then region.masked else region := by
    rw [hnew]
    rfl
  have hregions : ((heap.nextId, region) :: (heap.mask hidden).regions) =
      ((heap.nextId, region) :: heap.regions).map fun entry ↦
        (entry.1, if hidden entry.1 then entry.2.masked else entry.2) := by
    rw [List.map_cons, ← hregion]
    rfl
  exact congrArg (fun regions ↦ { (heap.insert region) with regions }) hregions

/-- The charge of some arrays does not depend on what is masked. -/
private theorem chargedTo_map_masked (lifetime : Lifetime) (hidden : Nat → Bool)
    (regions : List (Nat × Region)) :
    chargedTo lifetime (regions.map fun entry ↦
      (entry.1, if hidden entry.1 then entry.2.masked else entry.2)) =
        chargedTo lifetime regions := by
  unfold chargedTo
  rw [List.foldr_map]
  congr 1
  funext entry total
  cases hidden entry.1 <;> rfl

/-- Freeing arrays by their numbers is the same in the masked heap. -/
theorem discard_mask (heap : Heap) (hidden doomed : Nat → Bool) :
    (heap.mask hidden).discard (fun id _ ↦ doomed id) =
      (heap.discard fun id _ ↦ doomed id).mask hidden := by
  have hfilter : ∀ pick : Nat → Bool,
      ((heap.mask hidden).regions.filter fun entry ↦ pick entry.1) =
        (heap.regions.filter fun entry ↦ pick entry.1).map fun entry ↦
          (entry.1, if hidden entry.1 then entry.2.masked else entry.2) := by
    intro pick
    exact List.filter_map
  have hused : ∀ lifetime,
      chargedTo lifetime ((heap.mask hidden).regions.filter fun entry ↦ doomed entry.1) =
        chargedTo lifetime (heap.regions.filter fun entry ↦ doomed entry.1) := by
    intro lifetime
    rw [hfilter, chargedTo_map_masked]
  have hcounts : (PerLifetime.ofFn fun lifetime ↦ heap.used.get lifetime -
        chargedTo lifetime ((heap.mask hidden).regions.filter fun entry ↦ doomed entry.1)) =
      PerLifetime.ofFn fun lifetime ↦ heap.used.get lifetime -
        chargedTo lifetime (heap.regions.filter fun entry ↦ doomed entry.1) := by
    congr 1
    funext lifetime
    rw [hused]
  exact congrArg₂ (fun regions used ↦ { heap with regions, used })
    (hfilter fun id ↦ !doomed id) hcounts

/-- Undoing a transaction may write to hidden arrays, but that cannot be seen. -/
theorem mask_rollBack (heap : Heap) (hidden : Nat → Bool) (journal : Journal) :
    ((heap.mask hidden).rollBack journal).mask hidden = (heap.rollBack journal).mask hidden := by
  have hrestored : ((heap.mask hidden).restored journal.entries).mask hidden =
      (heap.restored journal.entries).mask hidden := by
    rw [restored_eq, restored_eq]
    exact mask_mapRegions fun _ _ ↦ rfl
  rw [rollBack_eq, rollBack_eq, ← discard_mask, ← discard_mask, hrestored]

end Heap

/-! ### Stores -/

namespace Store

variable {hidden : Nat → Bool} {store : Store} {caller : ContextId}

/-- The store with the contents of the hidden arrays blotted out. -/
def mask (store : Store) (hidden : Nat → Bool) : Store :=
  { store with heap := store.heap.mask hidden }

@[simp]
theorem mask_mask (store : Store) (hidden : Nat → Bool) :
    (store.mask hidden).mask hidden = store.mask hidden :=
  congrArg (fun heap ↦ { store with heap }) (store.heap.mask_mask hidden)

theorem allocate_mask (hnew : hidden store.heap.nextId = false) (owner : ContextId)
    (lifetime : Lifetime) (kind : ElementKind) (length : Nat) :
    (store.mask hidden).allocate owner lifetime kind length =
      ((store.allocate owner lifetime kind length).1,
        (store.allocate owner lifetime kind length).2.mask hidden) := by
  have hallocate : (store.heap.mask hidden).allocate owner lifetime kind length =
      ((store.heap.allocate owner lifetime kind length).1,
        (store.heap.allocate owner lifetime kind length).2.mask hidden) := by
    have havailable : (store.heap.mask hidden).available lifetime =
        store.heap.available lifetime := rfl
    have hfault : (store.heap.mask hidden).fault? kind length = store.heap.fault? kind length := rfl
    unfold Heap.allocate
    rw [havailable, hfault]
    dsimp only
    split
    · rfl
    · cases store.heap.fault? kind length with
      | some text => rfl
      | none => exact congrArg (Prod.mk _) (Heap.insert_mask hnew)
  have hheap : (store.mask hidden).heap = store.heap.mask hidden := rfl
  unfold allocate
  rw [hheap, hallocate]
  generalize store.heap.allocate owner lifetime kind length = outcome
  obtain ⟨(_ | _) | _, heap⟩ := outcome <;> rfl

/-- A write by whom hidden arrays do not admit. -/
theorem put_mask (hshuns : store.heap.Shuns hidden caller) (array : ArrayRef) (kind : ElementKind)
    (index count : Nat) (patch : Unit → Cells) :
    (store.mask hidden).put caller array kind index count patch =
      ((store.put caller array kind index count patch).1,
        (store.put caller array kind index count patch).2.mask hidden) := by
  unfold put
  rw [mask, hshuns.access_mask]
  cases haccess : store.heap.access caller array kind index count with
  | error error => rfl
  | ok region =>
    have hseen := hshuns.not_hidden haccess
    dsimp only
    split
    · rfl
    · unfold writeCells
      dsimp only
      rw [Heap.modify_mask fun hhidden ↦ absurd hhidden (hseen ▸ Bool.false_ne_true)]
      cases region.lifetime with
      | persistent =>
        dsimp only
        generalize store.transaction.prepareWrite _ _ _ _ = outcome
        obtain ⟨_ | _, transaction⟩ := outcome <;> rfl
      | clearOnReset => rfl
      | clearOnDeselect => rfl

theorem begin_mask (store : Store) (hidden : Nat → Bool) :
    (store.mask hidden).begin = (store.begin.1, store.begin.2.mask hidden) := by
  have htransaction : (store.mask hidden).transaction = store.transaction := rfl
  unfold begin
  rw [htransaction]
  cases store.transaction.begin <;> rfl

theorem commit_mask (store : Store) (hidden : Nat → Bool) :
    (store.mask hidden).commit = (store.commit.1, store.commit.2.mask hidden) := by
  have htransaction : (store.mask hidden).transaction = store.transaction := rfl
  unfold commit
  rw [htransaction]
  cases store.transaction.commit <;> rfl

/-- Undoing says the same, and leads to stores that are the same once masked. -/
theorem mask_abort (store : Store) (hidden : Nat → Bool) :
    (store.mask hidden).abort.1 = store.abort.1 ∧
      (store.mask hidden).abort.2.mask hidden = store.abort.2.mask hidden := by
  have htransaction : (store.mask hidden).transaction = store.transaction := rfl
  unfold abort
  rw [htransaction]
  cases store.transaction.abort with
  | error error => exact ⟨rfl, store.mask_mask hidden⟩
  | ok undone =>
    obtain ⟨journal, transaction⟩ := undone
    refine ⟨rfl, ?_⟩
    exact congrArg (fun heap ↦ Store.mk heap transaction)
      (store.heap.mask_rollBack hidden journal)

theorem grant_mask (store : Store) (hidden : Nat → Bool) (id : Nat) (client : ContextId) :
    (store.mask hidden).next (.grant id client) = (store.next (.grant id client)).mask hidden := by
  rw [next, next, mask, Heap.grant, Heap.grant, Heap.isLive_mask]
  cases store.heap.isLive id with
  | false => rfl
  | true =>
    have hmodified := @Heap.modify_mask hidden store.heap id
      (fun region ↦ { region with
        grants := if region.grants.contains client then region.grants
          else client :: region.grants }) fun _ _ ↦ rfl
    exact congrArg (fun heap ↦ { store with heap }) hmodified

end Store

/-! ### What happens to hidden arrays -/

/-- Whether a journal has nothing to undo on hidden arrays but what an earlier one has. -/
structure Journal.AddsNothing (later earlier : Journal) (hidden : Nat → Bool) : Prop where
  entry_mem : ∀ entry ∈ later.entries, hidden entry.region = true → entry ∈ earlier.entries
  allocation_mem : ∀ id ∈ later.allocations, hidden id = true → id ∈ earlier.allocations

namespace Journal

variable {hidden : Nat → Bool} {journal later earlier : Journal}

theorem AddsNothing.refl (journal : Journal) (hidden : Nat → Bool) :
    journal.AddsNothing journal hidden :=
  ⟨fun _ hentry _ ↦ hentry, fun _ hid _ ↦ hid⟩

theorem AddsNothing.trans (hlater : later.AddsNothing journal hidden)
    (hjournal : journal.AddsNothing earlier hidden) : later.AddsNothing earlier hidden where
  entry_mem := fun entry hentry hhidden ↦
    hjournal.entry_mem entry (hlater.entry_mem entry hentry hhidden) hhidden
  allocation_mem := fun id hid hhidden ↦
    hjournal.allocation_mem id (hlater.allocation_mem id hid hhidden) hhidden

/-- A journal forgotten has nothing to undo. -/
theorem addsNothing_clear (journal : Journal) (hidden : Nat → Bool) :
    journal.clear.AddsNothing journal hidden :=
  ⟨nofun, nofun⟩

/-- Recording cells of an array in sight. -/
theorem addsNothing_record {region start length : Nat} {current : Cells}
    (hseen : hidden region = false)
    (hrecord : journal.record region start length current = .ok later) :
    later.AddsNothing journal hidden := by
  unfold record at hrecord
  dsimp only at hrecord
  split at hrecord
  · obtain rfl := Except.ok.inj hrecord
    exact .refl journal hidden
  · split at hrecord
    · exact nomatch hrecord
    · obtain rfl := Except.ok.inj hrecord
      refine ⟨fun entry hentry hhidden ↦ ?_, fun _ hid _ ↦ hid⟩
      rcases List.mem_append.mp hentry with hold | hnew
      · exact (List.mem_filter.mp hold).1
      · obtain rfl := List.mem_singleton.mp hnew
        exact absurd hhidden (hseen ▸ Bool.false_ne_true)

end Journal

/-- Whatever is recorded before a write to an array in sight. -/
theorem Transaction.addsNothing_prepareWrite {hidden : Nat → Bool} (transaction : Transaction)
    {region : Nat} (hseen : hidden region = false) (start length : Nat) (current : Cells) :
    (transaction.prepareWrite region start length current).2.journal.AddsNothing
      transaction.journal hidden := by
  unfold prepareWrite
  rcases transaction.tear.pass with ⟨error | passed, tear⟩
  · exact .refl transaction.journal hidden
  · dsimp only
    split
    · cases hrecord : transaction.journal.record region start length current with
      | error error => exact .refl transaction.journal hidden
      | ok journal => exact Journal.addsNothing_record hseen hrecord
    · exact .refl transaction.journal hidden

namespace Store

/-- Whether hidden arrays are what they were, unless a transaction was undone: then contents have
been put back that its journal had, or arrays freed that it had allocated. -/
structure Spares (store after : Store) (hidden : Nat → Bool) (aborted : Prop) : Prop where
  nextId_le : store.heap.nextId ≤ after.heap.nextId
  kept : ∀ {id region}, hidden id = true → after.heap.find? id = some region →
    ∃ former, store.heap.find? id = some former ∧ former.original = region.original ∧
      former.grants = region.grants ∧ (region = former ∨ aborted ∧
        ∃ entry ∈ store.transaction.journal.entries, entry.region = id)
  freed : ∀ {id former}, hidden id = true → store.heap.find? id = some former →
    after.heap.find? id = none → aborted ∧ id ∈ store.transaction.journal.allocations
  journal : after.transaction.journal.AddsNothing store.transaction.journal hidden

section Spares

variable {hidden : Nat → Bool} {store after : Store} {caller : ContextId} {aborted : Prop}

/-- Hidden arrays that are found as before are spared. -/
theorem spares_of_find?_eq (hnextId : store.heap.nextId ≤ after.heap.nextId)
    (hfind : ∀ {id}, hidden id = true → after.heap.find? id = store.heap.find? id)
    (hjournal : after.transaction.journal.AddsNothing store.transaction.journal hidden) :
    store.Spares after hidden aborted where
  nextId_le := hnextId
  kept := fun hid hlater ↦ ⟨_, hfind hid ▸ hlater, rfl, rfl, .inl rfl⟩
  freed := fun hid hformer hlater ↦ by
    rw [hfind hid, hformer] at hlater
    exact nomatch hlater
  journal := hjournal

theorem Spares.refl (store : Store) (hidden : Nat → Bool) (aborted : Prop) :
    store.Spares store hidden aborted :=
  spares_of_find?_eq (Nat.le_refl _) (fun _ ↦ rfl) (.refl _ _)

/-- Hidden arrays that are spared still admit nobody new. -/
theorem Spares.shuns (hspares : store.Spares after hidden aborted)
    (hshuns : store.heap.Shuns hidden caller) : after.heap.Shuns hidden caller where
  lt_nextId := fun hid ↦ Nat.lt_of_lt_of_le (hshuns.lt_nextId hid) hspares.nextId_le
  refused := fun hid hfind ↦ by
    obtain ⟨former, hformer, horiginal, hgrants, -⟩ := hspares.kept hid hfind
    have hrefused := hshuns.refused hid hformer
    rw [Region.admits, ← (Region.eq_of_original_eq horiginal).1, ← hgrants]
    exact hrefused

theorem spares_begin (store : Store) : store.Spares store.begin.2 hidden aborted := by
  cases hactive : store.transaction.isActive with
  | false =>
    rw [begin_of_idle hactive]
    exact spares_of_find?_eq (Nat.le_refl _) (fun _ ↦ rfl) (Journal.addsNothing_clear _ hidden)
  | true =>
    rw [begin_of_active hactive]
    exact .refl store hidden aborted

theorem spares_commit (store : Store) : store.Spares store.commit.2 hidden aborted := by
  cases hactive : store.transaction.isActive with
  | false =>
    rw [commit_of_idle hactive]
    exact .refl store hidden aborted
  | true =>
    rw [commit_of_active hactive]
    exact spares_of_find?_eq (Nat.le_refl _) (fun _ ↦ rfl) (Journal.addsNothing_clear _ hidden)

/-- Granting an array that is in sight, or dead. -/
theorem spares_grant (store : Store) {granted : Nat}
    (hseen : store.heap.isLive granted = true → hidden granted = false) (client : ContextId) :
    store.Spares (store.next (.grant granted client)) hidden aborted := by
  by_cases hlive : store.heap.isLive granted = true
  · have hnext : (store.next (.grant granted client)).transaction = store.transaction ∧
        (store.next (.grant granted client)).heap.nextId = store.heap.nextId := by
      rw [next, Heap.grant, if_pos hlive]
      exact ⟨rfl, rfl⟩
    refine spares_of_find?_eq hnext.2.ge (fun {id} hid ↦ ?_) (hnext.1 ▸ .refl _ hidden)
    have hother : id ≠ granted := fun h ↦ Bool.false_ne_true (hseen hlive ▸ h ▸ hid)
    exact find?_grant_of_ne hother
  · rw [next, Heap.grant, if_neg hlive]
    exact .refl store hidden aborted

theorem spares_allocate (hshuns : store.heap.Shuns hidden caller) (owner : ContextId)
    (lifetime : Lifetime) (kind : ElementKind) (length : Nat) :
    store.Spares (store.allocate owner lifetime kind length).2 hidden aborted := by
  rcases store.allocate_cases owner lifetime kind length with ⟨error, h⟩ | ⟨text, h⟩ | h
  · rw [h]
    exact .refl store hidden aborted
  · rw [h]
    exact spares_of_find?_eq (Nat.le_succ _) (fun _ ↦ rfl) (.refl _ _)
  · rw [h]
    refine spares_of_find?_eq (Nat.le_succ _) (fun {id} hid ↦ ?_) ?_
    · refine (store.heap.find?_insert _ id).trans (if_neg ?_)
      exact Nat.ne_of_lt (hshuns.lt_nextId hid)
    · change (store.transaction.noteAllocation _).journal.AddsNothing _ _
      unfold Transaction.noteAllocation
      split
      · refine ⟨fun _ hentry _ ↦ hentry, fun id hid hhidden ↦ ?_⟩
        rcases List.mem_append.mp hid with hold | hnew
        · exact hold
        · obtain rfl := List.mem_singleton.mp hnew
          exact absurd (hshuns.lt_nextId hhidden) (Nat.lt_irrefl _)
      · exact .refl _ _

/-- A write goes to an array in sight, or nowhere. -/
theorem spares_put (hshuns : store.heap.Shuns hidden caller) (array : ArrayRef)
    (kind : ElementKind) (index count : Nat) (patch : Unit → Cells) :
    store.Spares (store.put caller array kind index count patch).2 hidden aborted := by
  unfold put
  cases haccess : store.heap.access caller array kind index count with
  | error error => exact .refl store hidden aborted
  | ok region =>
    have hseen := hshuns.not_hidden haccess
    have hwritten : ∀ (change : Region → Region) (transaction : Transaction),
        transaction.journal.AddsNothing store.transaction.journal hidden →
        store.Spares ⟨store.heap.modify array.id change, transaction⟩ hidden aborted := by
      intro change transaction hjournal
      refine spares_of_find?_eq (Nat.le_refl _) (fun {id} hid ↦ ?_) hjournal
      have hother : id ≠ array.id := fun h ↦ Bool.false_ne_true (hseen ▸ h ▸ hid)
      exact Heap.find?_modify_of_ne hother store.heap change
    dsimp only
    split
    · exact .refl store hidden aborted
    · unfold writeCells
      dsimp only
      cases region.lifetime with
      | persistent =>
        have hjournal := store.transaction.addsNothing_prepareWrite hseen
          (index * kind.cellWidth) (patch ()).size region.cells
        dsimp only
        generalize store.transaction.prepareWrite array.id _ _ _ = outcome at hjournal ⊢
        obtain ⟨_ | _, transaction⟩ := outcome
        · exact spares_of_find?_eq (Nat.le_refl _) (fun _ ↦ rfl) hjournal
        · exact hwritten _ transaction hjournal
      | clearOnReset => exact hwritten _ _ (.refl _ _)
      | clearOnDeselect => exact hwritten _ _ (.refl _ _)

/-- Freeing arrays by their numbers leaves the others. -/
private theorem find?_discard_number (heap : Heap) (doomed : Nat → Bool) (id : Nat) :
    (heap.discard fun other _ ↦ doomed other).find? id =
      if doomed id then none else heap.find? id := by
  unfold Heap.discard Heap.find?
  dsimp only
  induction heap.regions with
  | nil => exact (ite_self none).symm
  | cons entry rest ih =>
    rw [List.filter_cons, List.lookup_cons]
    by_cases hid : id = entry.1
    · subst hid
      cases hdoomed : doomed entry.1 with
      | true =>
        rw [hdoomed, if_pos rfl] at ih
        exact ih
      | false =>
        rw [Bool.not_false, if_pos rfl, List.lookup_cons, BEq.rfl]
        rfl
    · rw [beq_false_of_ne hid]
      cases doomed entry.1 with
      | true => exact ih
      | false =>
        rw [Bool.not_false, if_pos rfl, List.lookup_cons, beq_false_of_ne hid]
        exact ih

/-- Undoing puts back contents that the journal has, and frees arrays that it has noted. -/
theorem spares_abort (store : Store) (hidden : Nat → Bool) :
    store.Spares store.abort.2 hidden True := by
  cases hactive : store.transaction.isActive with
  | false =>
    rw [abort_of_idle hactive]
    exact .refl store hidden True
  | true =>
    rw [abort_of_active hactive]
    have hfind : ∀ id, (store.heap.rollBack store.transaction.journal).find? id =
        if store.transaction.journal.allocations.contains id then none
        else (store.heap.find? id).map fun region ↦ { region with
          cells := Journal.replay store.transaction.journal.entries id region.cells } := by
      intro id
      rw [Heap.rollBack_eq, find?_discard_number _ store.transaction.journal.allocations.contains,
        Heap.find?_restored]
    constructor
    · exact (store.heap.nextId_rollBack _).ge
    · intro id region hid hlater
      rw [hfind] at hlater
      split at hlater
      · exact nomatch hlater
      · obtain ⟨former, hformer, rfl⟩ := Option.map_eq_some_iff.mp hlater
        refine ⟨former, hformer, rfl, rfl, ?_⟩
        by_cases hentry : ∃ entry ∈ store.transaction.journal.entries, entry.region = id
        · exact .inr ⟨trivial, hentry⟩
        · refine .inl ?_
          rw [Journal.replay_eq_self fun entry hmem hregion ↦ hentry ⟨entry, hmem, hregion⟩]
    · intro id former hid hformer hlater
      rw [hfind] at hlater
      split at hlater
      · exact ⟨trivial, List.contains_iff_mem.mp ‹_›⟩
      · rw [hformer] at hlater
        exact nomatch hlater
    · exact store.transaction.journal.addsNothing_clear hidden

end Spares

end Store

end SmartCard
