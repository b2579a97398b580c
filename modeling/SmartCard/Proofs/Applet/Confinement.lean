import SmartCard.Proofs.Applet.Call
import SmartCard.Proofs.Memory.Masking

/-!
# What a context does stays within its reach

A context that was given no array before allocates arrays of its own and may be granted others. The
invariant `Store.Confines` says what its operations leave of an earlier heap: without the arrays of
the context the outline is the old one, an array that does not admit the context is found as it was,
and the journal has images of nothing but arrays that admit it and allocations of none but its own.
Every operation that code can ask for keeps this, if the operation acts for that context
(`Store.Confines.next`). The last two parts carry the undoing of a transaction: it puts nothing back
where the context could not write, and frees nothing that is not the context's.

Code that runs in the context asks for no other operations, and it offers arrays in the name of no
other context (`Session.confined_stop`). Once the arrays of the context are freed, those that there
were are back, and the ones that the context was not granted hold what they held
(`Store.Confines.release`).
-/

set_option autoImplicit false
set_option relaxedAutoImplicit false

namespace SmartCard

theorem Region.admits_owner (region : Region) : region.admits region.owner = true := by
  rw [admits, BEq.rfl, Bool.or_true, Bool.true_or]

/-- A context other than the card's own is admitted to what it does not own by a grant alone. -/
theorem Region.admits_of_ne {region : Region} {caller : ContextId} (hsystem : caller ≠ .system)
    (howner : caller ≠ region.owner) : region.admits caller = region.grants.contains caller := by
  rw [admits, ContextId.isSystem, beq_false_of_ne hsystem, beq_false_of_ne howner, Bool.false_or,
    Bool.false_or]

/-- What is found after an array has been added is that array, or was found before. -/
theorem Heap.find?_of_insert {heap : Heap} {added region : Region} {id : Nat}
    (hfind : (heap.insert added).find? id = some region) :
    id = heap.nextId ∧ region = added ∨ heap.find? id = some region := by
  rw [find?_insert] at hfind
  split at hfind
  · exact .inl ⟨‹_›, (Option.some_inj.mp hfind).symm⟩
  · exact .inr hfind

namespace Transaction

theorem entries_noteAllocation (transaction : Transaction) (region : Nat) :
    (transaction.noteAllocation region).journal.entries = transaction.journal.entries := by
  unfold noteAllocation
  split <;> rfl

/-- An allocation is noted at most. -/
theorem mem_of_noteAllocation {transaction : Transaction} {region id : Nat}
    (hid : id ∈ (transaction.noteAllocation region).journal.allocations) :
    id ∈ transaction.journal.allocations ∨ id = region := by
  unfold noteAllocation at hid
  split at hid
  · exact (List.mem_append.mp hid).imp_right List.mem_singleton.mp
  · exact .inl hid

end Transaction

namespace Store

/-- Whether a store differs from an earlier heap by nothing but what a context that was given no
array before can do. -/
structure Confines (store : Store) (context : ContextId) (origin : Heap) : Prop where
  wellFormed : store.WellFormed
  outline_eq : (store.heap.outline.filter fun entry ↦ !decide (entry.2.owner = context)) =
    origin.outline
  untouched : ∀ {id region}, store.heap.find? id = some region → region.admits context = false →
    origin.find? id = some region
  recorded : ∀ entry ∈ store.transaction.journal.entries, ∀ {region},
    store.heap.find? entry.region = some region → region.admits context = true
  allocated : ∀ id ∈ store.transaction.journal.allocations, ∀ {region},
    store.heap.find? id = some region → region.owner = context

section Confines

variable {store : Store} {context : ContextId} {origin : Heap}

/-- A context that owns nothing has done nothing yet, if nothing is recorded. -/
theorem Rests.confines (hrests : store.Rests)
    (hforeign : ∀ {id region}, store.heap.find? id = some region → region.owner ≠ context) :
    store.Confines context store.heap where
  wellFormed := hrests.wellFormed
  outline_eq := by
    refine List.filter_eq_self.mpr fun entry hentry ↦ ?_
    obtain ⟨⟨id, region⟩, hmem, rfl⟩ := List.mem_map.mp hentry
    have howner : region.owner ≠ context :=
      hforeign (hrests.wellFormed.heap.find?_eq_some_iff.mpr hmem)
    rw [Bool.not_eq_true', decide_eq_false_iff_not]
    exact howner
  untouched := fun hfind _ ↦ hfind
  recorded := fun entry hentry ↦ by
    rw [hrests.journal_eq] at hentry
    exact absurd hentry List.not_mem_nil
  allocated := fun id hid ↦ by
    rw [hrests.journal_eq] at hid
    exact absurd hid List.not_mem_nil

/-- A context that owns arrays has done nothing to the rest yet, if nothing is recorded. -/
theorem Rests.confines_releaseOwnedBy (hrests : store.Rests) (context : ContextId) :
    store.Confines context (store.heap.releaseOwnedBy context) where
  wellFormed := hrests.wellFormed
  outline_eq := Eq.symm (Heap.outline_discard fun _ _ ↦ rfl)
  untouched := fun {id region} hfind hforeign ↦ by
    refine (Heap.find?_releaseOwnedBy_eq_some_iff hrests.wellFormed.heap.nodup).mpr ⟨hfind, ?_⟩
    rintro rfl
    exact Bool.noConfusion (region.admits_owner.symm.trans hforeign)
  recorded := fun entry hentry ↦ by
    rw [hrests.journal_eq] at hentry
    exact absurd hentry List.not_mem_nil
  allocated := fun id hid ↦ by
    rw [hrests.journal_eq] at hid
    exact absurd hid List.not_mem_nil

/-- A change of the transaction that records nothing new. -/
theorem Confines.withTransaction (hconfines : store.Confines context origin)
    {transaction : Transaction} (hwellFormed : { store with transaction }.WellFormed)
    (hentries : transaction.journal.entries ⊆ store.transaction.journal.entries)
    (hallocations : transaction.journal.allocations ⊆ store.transaction.journal.allocations) :
    { store with transaction }.Confines context origin where
  wellFormed := hwellFormed
  outline_eq := hconfines.outline_eq
  untouched := hconfines.untouched
  recorded := fun entry hentry ↦ hconfines.recorded entry (hentries hentry)
  allocated := fun id hid ↦ hconfines.allocated id (hallocations hid)

/-- A change of one array that admits the context afterwards, while nothing is recorded but cells of
that array. -/
theorem Confines.modify (hconfines : store.Confines context origin) {id : Nat}
    {change : Region → Region} {transaction : Transaction}
    (hwellFormed : Store.WellFormed ⟨store.heap.modify id change, transaction⟩)
    (horiginal : ∀ region, (change region).original = region.original)
    (hadmits : ∀ {region}, store.heap.find? id = some region →
      (change region).admits context = true)
    (hentries : ∀ entry ∈ transaction.journal.entries, entry.region ≠ id →
      entry ∈ store.transaction.journal.entries)
    (hallocations :
      transaction.journal.allocations = store.transaction.journal.allocations) :
    Store.Confines ⟨store.heap.modify id change, transaction⟩ context origin := by
  have hchange : ∀ other region, Region.original (if other = id then change region else region) =
      region.original := by
    intro other region
    split
    · exact horiginal region
    · rfl
  have hchanged : ∀ {region}, (store.heap.modify id change).find? id = some region →
      region.admits context = true := by
    intro region hfind
    rw [Heap.find?_modify] at hfind
    obtain ⟨former, hformer, rfl⟩ := Option.map_eq_some_iff.mp hfind
    rw [if_pos rfl]
    exact hadmits hformer
  constructor
  case wellFormed => exact hwellFormed
  case outline_eq =>
    rw [← hconfines.outline_eq]
    exact congrArg _ (Heap.outline_mapRegions hchange)
  case untouched =>
    intro other region hfind hrefused
    by_cases hother : other = id
    · subst hother
      exact absurd (hchanged hfind) (hrefused ▸ Bool.false_ne_true)
    · exact hconfines.untouched (Heap.find?_modify_of_ne hother store.heap change ▸ hfind) hrefused
  case recorded =>
    intro entry hentry region hfind
    by_cases hother : entry.region = id
    · exact hchanged (hother ▸ hfind)
    · refine hconfines.recorded entry (hentries entry hentry hother) ?_
      exact Heap.find?_modify_of_ne hother store.heap change ▸ hfind
  case allocated =>
    intro other hmem region hfind
    rw [Heap.find?_modify] at hfind
    obtain ⟨former, hformer, rfl⟩ := Option.map_eq_some_iff.mp hfind
    rw [(Region.eq_of_original_eq (hchange other former)).1]
    exact hconfines.allocated other (hallocations ▸ hmem) hformer

/-! ### Operations of the context -/

/-- An array that the context allocates is its own. -/
theorem Confines.allocate (hconfines : store.Confines context origin) (lifetime : Lifetime)
    (kind : ElementKind) (length : Nat) :
    (store.allocate context lifetime kind length).2.Confines context origin := by
  have hwellFormed := hconfines.wellFormed.allocate context lifetime kind length
  rcases store.allocate_cases context lifetime kind length with ⟨error, h⟩ | ⟨text, h⟩ | h
  · rw [h]
    exact hconfines
  · rw [h] at hwellFormed ⊢
    exact ⟨hwellFormed, hconfines.outline_eq, hconfines.untouched, hconfines.recorded,
      hconfines.allocated⟩
  · rw [h] at hwellFormed ⊢
    have howner : ∀ {id region},
        (store.heap.insert (.fresh context lifetime kind length)).find? id = some region →
          region.owner = context ∨ store.heap.find? id = some region := by
      intro id region hfind
      refine (Heap.find?_of_insert hfind).imp_left fun hadded ↦ ?_
      rw [hadded.2]
      rfl
    constructor
    case wellFormed => exact hwellFormed
    case outline_eq =>
      rw [← hconfines.outline_eq]
      change List.filter _ ((store.heap.nextId, _) :: store.heap.outline) = _
      exact List.filter_cons_of_neg (by simp [Region.original, Region.fresh])
    case untouched =>
      intro id region hfind hrefused
      rcases howner hfind with rfl | hformer
      · exact absurd region.admits_owner (hrefused ▸ Bool.false_ne_true)
      · exact hconfines.untouched hformer hrefused
    case recorded =>
      intro entry hentry region hfind
      rcases howner hfind with rfl | hformer
      · exact region.admits_owner
      · rw [Transaction.entries_noteAllocation] at hentry
        exact hconfines.recorded entry hentry hformer
    case allocated =>
      intro id hid region hfind
      rcases Transaction.mem_of_noteAllocation hid with hold | rfl
      · rcases howner hfind with hown | hformer
        · exact hown
        · exact hconfines.allocated id hold hformer
      · rcases Heap.find?_of_insert hfind with ⟨-, rfl⟩ | hformer
        · rfl
        · exact absurd (hconfines.wellFormed.heap.lt_nextId hformer) (Nat.lt_irrefl _)

/-- An array that the context is granted admits it from then on. -/
theorem Confines.grant (hconfines : store.Confines context origin) (id : Nat) :
    (store.next (.grant id context)).Confines context origin := by
  have hwellFormed := hconfines.wellFormed.next (.grant id context)
  rw [Store.next, Heap.grant] at hwellFormed ⊢
  split at hwellFormed
  case isTrue hlive =>
    rw [if_pos hlive]
    refine hconfines.modify hwellFormed (fun _ ↦ rfl) (fun {region} _ ↦ ?_)
      (fun _ hentry _ ↦ hentry) rfl
    have hgranted : context ∈ if region.grants.contains context then region.grants
        else context :: region.grants := by
      split
      · exact List.contains_iff_mem.mp ‹_›
      · exact List.mem_cons_self
    exact (Bool.or_eq_true _ _).mpr (.inr (List.contains_iff_mem.mpr hgranted))
  case isFalse hdead =>
    rw [if_neg hdead]
    exact hconfines

/-- The context writes to nothing but arrays that admit it. -/
theorem Confines.perform (hconfines : store.Confines context origin) (write : Write) :
    (store.perform context write).2.Confines context origin := by
  cases haccess : store.accessFor context write with
  | error error =>
    rw [perform_of_refused haccess]
    exact hconfines
  | ok region =>
    obtain ⟨hfind, hcheck⟩ := Heap.access_eq_ok_iff.mp haccess
    have hadmits : ∀ {other}, store.heap.find? write.array.id = some other →
        Region.admits { other with cells := write.patch.overlay write.start other.cells } context =
          true := by
      intro other hother
      obtain rfl : region = other := Option.some_inj.mp (hfind.symm.trans hother)
      exact (Region.check_eq_ok_iff.mp hcheck).1
    have hwellFormed := hconfines.wellFormed.perform context write
    have heffect := perform_effect hconfines.wellFormed.heap context write
    generalize (store.perform context write).2 = after at hwellFormed heffect
    cases heffect with
    | nothing tear =>
      exact hconfines.withTransaction hwellFormed (List.Subset.refl _) (List.Subset.refl _)
    | transient _ _ _ =>
      exact hconfines.modify hwellFormed (fun _ ↦ rfl) hadmits (fun _ hentry _ ↦ hentry) rfl
    | direct _ _ _ _ =>
      exact hconfines.modify hwellFormed (fun _ ↦ rfl) hadmits (fun _ hentry _ ↦ hentry) rfl
    | @recorded region tear journal hfind hfits hlifetime hactive hrecord =>
      have hadds : journal.AddsNothing store.transaction.journal (fun id ↦ id ≠ write.array.id) :=
        Journal.addsNothing_record (by simp) hrecord
      have hrecorded := Journal.isRecorded_of_ok hconfines.wellFormed.journal
        (hconfines.wellFormed.admits hfind hfits) hrecord
      refine hconfines.modify hwellFormed (fun _ ↦ rfl) hadmits (fun entry hentry hother ↦ ?_)
        hrecorded.allocations
      exact hadds.entry_mem entry hentry (decide_eq_true hother)

/-- Undoing puts nothing back where the context could not write, and frees nothing that is not its
own. -/
theorem Confines.abort (hconfines : store.Confines context origin) :
    store.abort.2.Confines context origin := by
  have hwellFormed := hconfines.wellFormed.abort
  cases hactive : store.transaction.isActive with
  | false =>
    rw [abort_of_idle hactive]
    exact hconfines
  | true =>
    rw [abort_of_active hactive] at hwellFormed ⊢
    constructor
    case wellFormed => exact hwellFormed
    case outline_eq =>
      rw [← hconfines.outline_eq, Heap.rollBack_eq, Heap.outline_discard fun _ _ ↦ rfl,
        Heap.outline_restored, List.filter_filter]
      -- what is freed is the context's own, which this part of the outline leaves out anyway
      refine List.filter_congr fun entry hentry ↦ ?_
      obtain ⟨⟨id, region⟩, hmem, rfl⟩ := List.mem_map.mp hentry
      have hfind : store.heap.find? id = some region :=
        hconfines.wellFormed.heap.find?_eq_some_iff.mpr hmem
      by_cases hid : id ∈ store.transaction.journal.allocations
      · have howner : region.original.owner = context :=
          @Confines.allocated _ _ _ hconfines id hid region hfind
        simp [howner]
      · simp [hid]
    case untouched =>
      intro id region hfind hrefused
      rw [hconfines.wellFormed.find?_rollBack, Option.filter_eq_some_iff] at hfind
      obtain ⟨former, hformer, rfl⟩ := Option.map_eq_some_iff.mp hfind.1
      have hnone : ∀ entry ∈ store.transaction.journal.entries, entry.region ≠ id := by
        rintro entry hentry rfl
        exact absurd (hconfines.recorded entry hentry hformer)
          (show former.admits context ≠ true from hrefused ▸ Bool.false_ne_true)
      rw [Journal.replay_eq_self hnone]
      exact hconfines.untouched hformer hrefused
    case recorded => exact fun _ hentry ↦ absurd hentry List.not_mem_nil
    case allocated => exact fun _ hid ↦ absurd hid List.not_mem_nil

/-- Every operation that code can ask for keeps to what its own context may do. -/
theorem Confines.next (hconfines : store.Confines context origin) {operation : Operation}
    (hservice : operation.isService = true)
    (hactor : ∀ actor, operation.actor? = some actor → actor = context) :
    (store.next operation).Confines context origin := by
  have hwellFormed := hconfines.wellFormed.next operation
  cases operation with
  | allocate owner lifetime kind length =>
    obtain rfl := hactor owner rfl
    exact hconfines.allocate lifetime kind length
  | grant id client =>
    obtain rfl := hactor client rfl
    exact hconfines.grant id
  | write caller write =>
    obtain rfl := hactor caller rfl
    exact hconfines.perform write
  | begin =>
    rw [Store.next] at hwellFormed ⊢
    cases hactive : store.transaction.isActive with
    | false =>
      rw [begin_of_idle hactive] at hwellFormed ⊢
      exact hconfines.withTransaction hwellFormed (List.nil_subset _) (List.nil_subset _)
    | true =>
      rw [begin_of_active hactive]
      exact hconfines
  | commit =>
    rw [Store.next] at hwellFormed ⊢
    cases hactive : store.transaction.isActive with
    | false =>
      rw [commit_of_idle hactive]
      exact hconfines
    | true =>
      rw [commit_of_active hactive] at hwellFormed ⊢
      exact hconfines.withTransaction hwellFormed (List.nil_subset _) (List.nil_subset _)
  | abort => exact hconfines.abort
  | release _ | releaseOwnedBy _ | clearOnDeselect _ | clearOnReset | arm _ | disarm =>
    exact Bool.noConfusion hservice

/-- What the context loses when its applet is deselected is its own. -/
theorem Confines.clearOnDeselect (hconfines : store.Confines context origin) :
    { store with heap := store.heap.clearOnDeselect context }.Confines context origin := by
  -- Clearing is told apart by nothing that decides whom an array admits.
  have hformer : ∀ {id region}, (store.heap.clearOnDeselect context).find? id = some region →
      ∃ former, store.heap.find? id = some former ∧ region.owner = former.owner ∧
        region.admits context = former.admits context ∧
        (region.admits context = false → region = former) := by
    intro id region hfind
    rw [Heap.clearOnDeselect, Heap.clearWhere, Heap.find?_mapRegions] at hfind
    obtain ⟨former, hformer, rfl⟩ := Option.map_eq_some_iff.mp hfind
    refine ⟨former, hformer, ?_⟩
    by_cases hcleared : Heap.isClearedOnDeselect context former = true
    · rw [if_pos hcleared]
      refine ⟨rfl, rfl, fun hforeign ↦ ?_⟩
      obtain rfl := eq_of_beq (Bool.and_elim_left hcleared)
      exact Bool.noConfusion (former.admits_owner.symm.trans hforeign)
    · rw [if_neg hcleared]
      exact ⟨rfl, rfl, fun _ ↦ rfl⟩
  exact {
    wellFormed := hconfines.wellFormed.next (.clearOnDeselect context)
    outline_eq := by
      rw [← hconfines.outline_eq]
      exact congrArg (List.filter _) (Heap.outline_mapRegions fun _ ↦ Heap.original_cleared _)
    untouched := fun hfind hforeign ↦ by
      obtain ⟨former, hlive, -, -, hsame⟩ := hformer hfind
      obtain rfl := hsame hforeign
      exact hconfines.untouched hlive hforeign
    recorded := fun entry hentry _ hfind ↦ by
      obtain ⟨former, hlive, -, hadmits, -⟩ := hformer hfind
      exact hadmits.trans (hconfines.recorded entry hentry hlive)
    allocated := fun id hid _ hfind ↦ by
      obtain ⟨former, hlive, howner, -⟩ := hformer hfind
      exact howner.trans (hconfines.allocated id hid hlive) }

/-! ### Freeing what the context owns -/

/-- Without the arrays of the context there are the arrays of before, and those that it was not
granted hold what they held. -/
theorem Confines.release (hconfines : store.Confines context origin)
    (hcontext : context ≠ .system) :
    (store.heap.releaseOwnedBy context).outline = origin.outline ∧
      ∀ {id region}, (store.heap.releaseOwnedBy context).find? id = some region →
        context ∉ region.grants → origin.find? id = some region := by
  constructor
  · rw [← hconfines.outline_eq]
    exact Heap.outline_discard fun _ _ ↦ rfl
  · intro id region hfind hgrants
    obtain ⟨hlive, hforeign⟩ :=
      (Heap.find?_releaseOwnedBy_eq_some_iff hconfines.wellFormed.heap.nodup).mp hfind
    refine hconfines.untouched hlive ?_
    rw [Region.admits_of_ne hcontext (Ne.symm hforeign)]
    exact Bool.eq_false_iff.mpr fun hgranted ↦ hgrants (List.contains_iff_mem.mp hgranted)

end Confines

end Store

/-! ### Code in the context -/

/-- The exports of other contexts. -/
def ContextTable.exportsBeside (table : ContextTable) (context : ContextId) :
    List ((ContextId × UInt8) × Export) :=
  table.exports.filter fun entry ↦ entry.1.1 ≠ context

/-- What a context offers is no export of another. -/
theorem ContextTable.exportsBeside_offer (table : ContextTable) (context : ContextId)
    (parameter : UInt8) (array : ArrayRef) (client : Option Aid) :
    (table.offer context parameter array client).exportsBeside context =
      table.exportsBeside context := by
  unfold exportsBeside offer
  rw [List.filter_cons_of_neg (by simp), List.filter_filter]
  refine List.filter_congr fun entry _ ↦ ?_
  by_cases hother : entry.1.1 = context
  · rw [decide_eq_false (not_not.mpr hother), Bool.false_and]
  · have hkey : entry.1 ≠ (context, parameter) := fun h ↦ hother (congrArg Prod.fst h)
    rw [decide_eq_true hkey, Bool.and_true]

namespace Session

variable {σ : Type}

/-- Whether a session in a context that was given no array before differs from an earlier platform
by nothing but what that context can do. -/
structure Confined (session : Session σ) (context : ContextId) (origin : Platform) : Prop where
  context_eq : session.context = context
  store : session.platform.store.Confines context origin.store.heap
  exports_eq : session.platform.contexts.exportsBeside context = origin.contexts.exports

variable {session : Session σ} {context : ContextId} {origin : Platform}

/-- Every service keeps to what the context can do. -/
theorem Confined.answer (hconfined : session.Confined context origin) (service : Service σ) :
    (Session.answer service session).2.Confined context origin := by
  obtain ⟨hcontext, hstore, hexports⟩ := hconfined
  have heffect := session.effect_answer service
  generalize (Session.answer service session).2 = after at heffect
  cases heffect with
  | idle => exact ⟨hcontext, hstore, hexports⟩
  | told => exact ⟨hcontext, hstore, hexports⟩
  | stored hoperation =>
    refine ⟨hcontext, hstore.next (isService_operation? hoperation) fun actor hactor ↦ ?_, hexports⟩
    exact (actor_of_operation? hoperation hactor).trans hcontext
  | offered _ _ _ =>
    refine ⟨hcontext, hstore, ?_⟩
    rw [hcontext]
    exact (session.platform.contexts.exportsBeside_offer _ _ _ _).trans hexports
  | registered _ _ _ => exact ⟨hcontext, hstore, hexports⟩

/-- Every piece of code keeps to what its context can do. -/
theorem confined_stop {piece : Piece σ} (hconfined : piece.start.Confined context origin) :
    piece.stop.Confined context origin :=
  @Piece.keeps σ (·.Confined context origin)
    (fun _ service hsession ↦ hsession.answer service) piece hconfined

end Session

end SmartCard
