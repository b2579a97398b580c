import SmartCard.Proofs.Card.Keeping
import SmartCard.Proofs.Memory.Mortality

/-!
# Arrays that last as long as their applet

An array that an applet has allocated, and that no open transaction would take back, stays live as
long as the applet is registered, whatever is done to the card and whoever has been granted the
array (`Card.LeadsTo.owns`). Its contents and its grants may change meanwhile, but not its owner,
its lifetime, its kind or its length.
-/

set_option autoImplicit false
set_option relaxedAutoImplicit false

namespace SmartCard

/-! ### Arrays of a store -/

namespace Store

/-- Whether an array is live, is what it was when it was allocated, and has not been allocated by
the transaction that is open. -/
structure Harbors (store : Store) (id : Nat) (origin : Region) : Prop where
  wellFormed : store.WellFormed
  found : ∃ region, store.heap.find? id = some region ∧ region.original = origin.original
  unnoted : id ∉ store.transaction.journal.allocations

variable {store : Store} {id : Nat} {origin : Region} {operation : Operation}

/-- A transaction that has not allocated an array that is live never comes to have done so. -/
theorem unnoted_next (hstore : store.WellFormed) (hlive : id < store.heap.nextId)
    (hunnoted : id ∉ store.transaction.journal.allocations) (operation : Operation) :
    id ∉ (store.next operation).transaction.journal.allocations := by
  have hcleared : ∀ capacity, id ∉ (Journal.empty capacity).allocations :=
    fun _ ↦ List.not_mem_nil
  cases operation with
  | allocate owner lifetime kind length =>
    rw [next]
    rcases store.allocate_cases owner lifetime kind length with ⟨_, h⟩ | ⟨_, h⟩ | h
    · rw [h]
      exact hunnoted
    · rw [h]
      exact hunnoted
    · rw [h]
      dsimp only
      rw [Transaction.noteAllocation]
      split
      · intro hmem
        rcases List.mem_append.mp hmem with hold | hnew
        · exact hunnoted hold
        · exact Nat.ne_of_lt hlive (List.mem_singleton.mp hnew)
      · exact hunnoted
  | release other =>
    rw [next]
    cases store.heap.release other <;> exact hunnoted
  | grant other client =>
    rw [next]
    cases store.heap.grant other client <;> exact hunnoted
  | write caller write =>
    have heffect := perform_effect hstore.heap caller write
    rw [next]
    generalize (store.perform caller write).2 = after at heffect
    cases heffect with
    | nothing _ | transient _ _ _ | direct _ _ _ _ => exact hunnoted
    | recorded _ _ hfind hfits _ _ hrecord =>
      have hrecorded := Journal.isRecorded_of_ok hstore.journal (hstore.admits hfind hfits) hrecord
      exact hrecorded.allocations.symm ▸ hunnoted
  | begin =>
    rw [next]
    cases hactive : store.transaction.isActive with
    | false =>
      rw [begin_of_idle hactive]
      exact hcleared _
    | true =>
      rw [begin_of_active hactive]
      exact hunnoted
  | commit =>
    rw [next]
    cases hactive : store.transaction.isActive with
    | false =>
      rw [commit_of_idle hactive]
      exact hunnoted
    | true =>
      rw [commit_of_active hactive]
      exact hcleared _
  | abort =>
    rw [next]
    cases hactive : store.transaction.isActive with
    | false =>
      rw [abort_of_idle hactive]
      exact hunnoted
    | true =>
      rw [abort_of_active hactive]
      exact hcleared _
  | releaseOwnedBy _ | clearOnDeselect _ | clearOnReset | arm _ | disarm => exact hunnoted

namespace Harbors

/-- Every operation keeps the array that does not free it by its number or by its owner. -/
theorem next (hharbors : store.Harbors id origin) (hnumber : operation ≠ .release id)
    (howner : operation ≠ .releaseOwnedBy origin.owner) :
    (store.next operation).Harbors id origin := by
  obtain ⟨hstore, ⟨region, hfind, horiginal⟩, hunnoted⟩ := hharbors
  have hlt := hstore.heap.lt_nextId hfind
  have hspared : store.frees id region operation = false := by
    cases operation with
    | release other => exact beq_false_of_ne fun hsame ↦ hnumber (congrArg _ hsame.symm)
    | releaseOwnedBy owner =>
      refine beq_false_of_ne fun hsame ↦ howner ?_
      rw [← hsame, (Region.eq_of_original_eq horiginal).1]
    | abort =>
      rw [frees, List.contains_eq_mem, decide_eq_false hunnoted, Bool.and_false]
    | _ => rfl
  have hlive := hstore.isLive_next hfind operation
  rw [hspared] at hlive
  obtain ⟨later, hlater⟩ := Option.isSome_iff_exists.mp hlive
  obtain ⟨former, hformer, hsame⟩ := (hstore.follows_next operation).former hlt hlater
  obtain rfl := Option.some_inj.mp (hformer.symm.trans hfind)
  exact ⟨hstore.next operation, ⟨later, hlater, hsame.symm.trans horiginal⟩,
    unnoted_next hstore hlt hunnoted operation⟩

/-- Code keeps the array, for none of the services that it has frees an array. -/
theorem after {σ : Type} {call : Call σ}
    (hharbors : call.session.platform.store.Harbors id origin) :
    call.after.platform.store.Harbors id origin := by
  rw [Call.after, Session.store_answer]
  cases hoperation : call.session.operation? call.service with
  | none => exact hharbors
  | some operation =>
    have hservice := Session.isService_operation? hoperation
    refine hharbors.next ?_ ?_
    · rintro rfl
      cases hservice
    · rintro rfl
      cases hservice

theorem stop {σ : Type} {piece : Piece σ}
    (hharbors : piece.start.platform.store.Harbors id origin) :
    piece.stop.platform.store.Harbors id origin :=
  @Piece.induction σ (fun _ session ↦ session.platform.store.Harbors id origin)
    (fun _ _ hmade ↦ hmade.after) piece [] hharbors

end Harbors

end Store

/-! ### Arrays of an applet -/

namespace Card

variable {σ : Type} {card after : Card σ} {config : Config} {entry : Registration σ} {id : Nat}
  {origin : Region}

/-- Whether an applet is registered and owns an array that is live and lasts. -/
structure Owns (card : Card σ) (entry : Registration σ) (id : Nat) (origin : Region) : Prop where
  registered : entry ∈ card.registry.entries
  harbors : card.platform.store.Harbors id origin

/-- Whatever happens to a card, an applet keeps its array until it is removed. -/
theorem Course.owns {pieces : List (Piece σ)} (hcourse : Course card pieces after)
    (hcoheres : card.Coheres config) (howner : origin.owner = entry.context)
    (howns : card.Owns entry id origin) :
    after.Owns entry id origin ∨ after.Retired entry.context := by
  induction hcourse with
  | refl => exact .inl howns
  | told | rearrange => exact .inl ⟨howns.registered, howns.harbors⟩
  | trans hfirst hsecond ihfirst ihsecond =>
    rcases ihfirst hcoheres howns with hkept | hretired
    · exact ihsecond (hcoheres.course hfirst) hkept
    · exact .inr (hretired.course hsecond)
  | @upkeep card operation hupkeep =>
    refine .inl ⟨howns.registered, howns.harbors.next ?_ ?_⟩
    · rintro rfl
      cases hupkeep
    · rintro rfl
      cases hupkeep
  | @run card other piece _ _ hplatform _ =>
    exact .inl ⟨howns.registered, Store.Harbors.stop (hplatform.symm ▸ howns.harbors)⟩
  | @abandon card context contexts piece params hcreate hstart =>
    obtain ⟨region, hfind, horiginal⟩ := howns.harbors.found
    have hother := hcoheres.owner_ne hcreate hfind
    rw [(Region.eq_of_original_eq horiginal).1] at hother
    have hstop : piece.stop.platform.store.Harbors id origin :=
      Store.Harbors.stop (by rw [hstart]; exact howns.harbors)
    have hsettled := @Store.Harbors.next _ id origin .abort hstop nofun nofun
    refine .inl ⟨howns.registered, ?_⟩
    exact @Store.Harbors.next _ id origin (.releaseOwnedBy context) hsettled nofun
      fun hsame ↦ hother (Store.Operation.releaseOwnedBy.inj hsame)
  | @install card context contexts piece params aid applet registry hcreate hstart _ hinsert =>
    have hstop : piece.stop.platform.store.Harbors id origin :=
      Store.Harbors.stop (by rw [hstart]; exact howns.harbors)
    refine .inl ⟨?_, @Store.Harbors.next _ id origin .abort hstop nofun nofun⟩
    rw [(Registry.insert_eq_ok hinsert).1]
    exact List.mem_append_left _ howns.registered
  | @remove card other hother hidle =>
    by_cases hcontext : other.context = entry.context
    · exact .inr (hcontext ▸ retired_evict hcoheres hother)
    · refine .inl ⟨?_, ?_⟩
      · refine (List.mem_eraseP_of_neg (p := (·.context == other.context)) ?_).mpr howns.registered
        rw [beq_iff_eq]
        exact Ne.symm hcontext
      · refine @Store.Harbors.next _ id origin (.releaseOwnedBy other.context) howns.harbors nofun
          fun hsame ↦ hcontext ?_
        rw [Store.Operation.releaseOwnedBy.inj hsame, howner]

/-- The cards that operations lead to. -/
inductive LeadsTo (card : Card σ) : Card σ → Prop where
  | refl : LeadsTo card card
  | next {middle : Card σ} (hleads : LeadsTo card middle) {operation : Operation σ}
    (hreturns : middle.Returns operation) : LeadsTo card (middle.next operation)

theorem LeadsTo.reachable (hleads : card.LeadsTo after) (hreach : card.Reachable) :
    after.Reachable := by
  induction hleads with
  | refl => exact hreach
  | next _ hreturns ih => exact .next ih hreturns

/-- Whatever is done to a card, an applet keeps its array until it is removed for good. -/
theorem LeadsTo.owns (hleads : card.LeadsTo after) (hreach : card.Reachable)
    (howner : origin.owner = entry.context) (howns : card.Owns entry id origin) :
    after.Owns entry id origin ∨ after.Retired entry.context := by
  induction hleads with
  | refl => exact .inl howns
  | @next middle hmiddle operation hreturns ih =>
    rcases ih with hkept | hretired
    · obtain ⟨config, hcoheres⟩ := (hmiddle.reachable hreach).exists_coheres
      exact (course_next middle operation).owns hcoheres howner hkept
    · exact .inr (hretired.course (course_next middle operation))

end Card

end SmartCard
