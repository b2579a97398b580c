import SmartCard.Proofs.Applet.Call
import SmartCard.Proofs.Context.Table
import SmartCard.Proofs.Memory.Lineage

/-!
# Tenants of a platform

The tenants of a platform are the contexts of applets, each with the identifier bound to it. The
platform houses them if the table of contexts lists just them and the card itself, no identifier is
bound twice, and every live array and every export belongs to one of them (`Platform.Houses`).

Code that runs in a tenant's context keeps this, and so does code that runs in the fresh context of
an installation, which is one tenant more, bound to nothing until it registers
(`Session.lodges_stop`).
-/

set_option autoImplicit false
set_option relaxedAutoImplicit false

namespace SmartCard

/-- Whether a platform has just the given tenants beside the card itself, and memory and exports
belong to them. -/
structure Platform.Houses (platform : Platform) (tenants : List (ContextId × Option Aid)) :
    Prop where
  store : platform.store.WellFormed
  contexts : platform.contexts.WellFormed
  contexts_eq : platform.contexts.contexts = tenants ++ [(.system, none)]
  distinct : (tenants.filterMap Prod.snd).Nodup
  owner_mem : ∀ {id region}, platform.store.heap.find? id = some region →
    region.owner ∈ tenants.map Prod.fst
  server_mem : ∀ entry ∈ platform.contexts.exports, entry.1.1 ∈ tenants.map Prod.fst

namespace Platform.Houses

variable {platform : Platform} {tenants : List (ContextId × Option Aid)}

theorem empty (quotas : PerLifetime) (commitCapacity : Nat) :
    Platform.Houses ⟨.empty quotas commitCapacity, .initial⟩ [] where
  store := Store.wellFormed_empty quotas commitCapacity
  contexts := ContextTable.wellFormed_initial
  contexts_eq := rfl
  distinct := List.nodup_nil
  owner_mem := nofun
  server_mem := nofun

section Houses

variable (hhouses : platform.Houses tenants)

include hhouses

/-- No tenant stands twice, and the card itself is none. -/
theorem nodup_tenants :
    (tenants.map Prod.fst).Nodup ∧ ContextId.system ∉ tenants.map Prod.fst := by
  have hnodup := hhouses.contexts.nodup
  rw [hhouses.contexts_eq, List.map_append, List.nodup_append] at hnodup
  refine ⟨hnodup.1, fun hsystem ↦ ?_⟩
  exact hnodup.2.2 _ hsystem _ List.mem_cons_self rfl

/-- An operation on memory that allocates for nobody but a tenant. -/
theorem next {operation : Store.Operation}
    (howner : ∀ owner lifetime kind length, operation = .allocate owner lifetime kind length →
      owner ∈ tenants.map Prod.fst) :
    Platform.Houses { platform with store := platform.store.next operation } tenants where
  store := hhouses.store.next operation
  contexts := hhouses.contexts
  contexts_eq := hhouses.contexts_eq
  distinct := hhouses.distinct
  owner_mem := fun hfind ↦ by
    cases Store.lineage_next hhouses.store hfind with
    | kept hformer horiginal _ =>
      obtain ⟨hsame, -⟩ := Region.eq_of_original_eq horiginal
      exact hsame ▸ hhouses.owner_mem hformer
    | made hoperation _ hregion =>
      rw [hregion]
      exact howner _ _ _ _ hoperation
  server_mem := hhouses.server_mem

/-- The upkeep of memory allocates nothing. -/
theorem upkeep {operation : Store.Operation} (hupkeep : operation.isUpkeep = true) :
    Platform.Houses { platform with store := platform.store.next operation } tenants := by
  refine hhouses.next fun _ _ _ _ hoperation ↦ ?_
  rw [hoperation] at hupkeep
  exact Bool.noConfusion hupkeep

/-- A tenant offers an array. -/
theorem offer {server : ContextId} (hserver : server ∈ tenants.map Prod.fst) (parameter : UInt8)
    (array : ArrayRef) (client : Option Aid) :
    Platform.Houses
      { platform with contexts := platform.contexts.offer server parameter array client }
      tenants where
  store := hhouses.store
  contexts := hhouses.contexts.offer server parameter array client
  contexts_eq := hhouses.contexts_eq
  distinct := hhouses.distinct
  owner_mem := hhouses.owner_mem
  server_mem := by
    intro entry hentry
    rcases List.mem_cons.mp hentry with rfl | hold
    · exact hserver
    · exact hhouses.server_mem entry (List.mem_filter.mp hold).1

/-- A context created is one tenant more, bound to nothing. -/
theorem create {context : ContextId} {contexts : ContextTable}
    (hcreate : platform.contexts.create = some (context, contexts)) :
    Platform.Houses { platform with contexts } ((context, none) :: tenants) := by
  have htable := hhouses.contexts.create hcreate
  obtain ⟨rfl, rfl⟩ := ContextTable.create_eq_some hcreate
  constructor
  · exact hhouses.store
  · exact htable
  · exact congrArg (List.cons _) hhouses.contexts_eq
  · exact hhouses.distinct
  · intro id region hfind
    exact List.mem_cons_of_mem _ (hhouses.owner_mem hfind)
  · intro entry hentry
    exact List.mem_cons_of_mem _ (hhouses.server_mem entry hentry)

/-- A context removed with its arrays is one tenant less. -/
theorem discard {context : ContextId} (hcontext : context ≠ .system) :
    Platform.Houses
      { store := { platform.store with heap := platform.store.heap.releaseOwnedBy context }
        contexts := platform.contexts.remove context }
      (tenants.filter fun tenant ↦ tenant.1 ≠ context) := by
  have hnotSystem : ¬context.isSystem = true := fun h ↦ hcontext (eq_of_beq h)
  have hstays : ∀ {other}, other ∈ tenants.map Prod.fst → other ≠ context →
      other ∈ (tenants.filter fun tenant ↦ tenant.1 ≠ context).map Prod.fst := by
    intro other hmem hother
    obtain ⟨tenant, htenant, rfl⟩ := List.mem_map.mp hmem
    exact List.mem_map_of_mem (List.mem_filter.mpr ⟨htenant, decide_eq_true hother⟩)
  constructor
  · exact hhouses.store.next (.releaseOwnedBy context)
  · exact hhouses.contexts.remove context
  · rw [ContextTable.remove, if_neg hnotSystem]
    dsimp only
    rw [hhouses.contexts_eq, List.filter_append, List.filter_singleton,
      decide_eq_true (Ne.symm hcontext)]
    rfl
  · exact hhouses.distinct.sublist (List.filter_sublist.filterMap Prod.snd)
  · intro id region hfind
    obtain ⟨hlive, hforeign⟩ :=
      (Heap.find?_releaseOwnedBy_eq_some_iff hhouses.store.heap.nodup).mp hfind
    exact hstays (hhouses.owner_mem hlive) hforeign
  · intro entry hentry
    rw [ContextTable.remove, if_neg hnotSystem] at hentry
    obtain ⟨hold, hother⟩ := List.mem_filter.mp hentry
    exact hstays (hhouses.server_mem entry hold) (of_decide_eq_true hother)

end Houses

/-- The newest tenant registers under an identifier that is bound to nobody. -/
theorem register {context : ContextId} {aid : Aid}
    (hhouses : platform.Houses ((context, none) :: tenants))
    (hfresh : platform.contexts.findByAid aid.bytes = none) :
    Platform.Houses { platform with contexts := platform.contexts.bind context aid }
      ((context, some aid) :: tenants) := by
  obtain ⟨hnodup, hsystem⟩ := hhouses.nodup_tenants
  rw [List.map_cons, List.nodup_cons] at hnodup
  have hcontexts := hhouses.contexts_eq
  have hunbound := ContextTable.findByAid_eq_none_iff.mp hfresh
  constructor
  · exact hhouses.store
  · exact hhouses.contexts.bind context aid
  · change platform.contexts.contexts.map _ = _
    have hothers : ∀ entry ∈ tenants ++ [(ContextId.system, none)], entry.1 ≠ context := by
      intro entry hentry
      rintro rfl
      rcases List.mem_append.mp hentry with htenant | hcard
      · exact hnodup.1 (List.mem_map.mpr ⟨entry, htenant, rfl⟩)
      · obtain rfl := List.mem_singleton.mp hcard
        exact hsystem List.mem_cons_self
    rw [hcontexts, List.cons_append, List.map_cons, if_pos rfl, List.cons_append]
    congr 1
    exact (List.map_congr_left fun entry hentry ↦ if_neg (hothers entry hentry)).trans
      (List.map_id' _)
  · refine List.nodup_cons.mpr ⟨fun hmem ↦ ?_, hhouses.distinct⟩
    obtain ⟨tenant, htenant, hbound⟩ := List.mem_filterMap.mp hmem
    refine hunbound tenant ?_ hbound
    rw [hcontexts]
    exact List.mem_append_left _ (List.mem_cons_of_mem _ htenant)
  · exact hhouses.owner_mem
  · exact hhouses.server_mem

end Platform.Houses

/-! ### Code in a tenant's context -/

namespace Session

variable {σ : Type}

/-- The context of an installation in progress, as one tenant more. -/
def guests (session : Session σ) : List (ContextId × Option Aid) :=
  session.install.elim [] fun scope ↦ [(session.context, scope.registered)]

/-- Whether code runs in a frame of one of the tenants, or of the guest if it is part of an
installation with the given parameters. -/
structure Lodges (session : Session σ) (frame : Frame) (params : Option InstallParams)
    (tenants : List (ContextId × Option Aid)) : Prop where
  frame_eq : session.frame = frame
  params_eq : session.install.map (·.params) = params
  houses : session.platform.Houses (session.guests ++ tenants)
  context_mem : session.context ∈ (session.guests ++ tenants).map Prod.fst

section Lodges

variable {session : Session σ} {frame : Frame} {params : Option InstallParams}
  {tenants : List (ContextId × Option Aid)}

/-- Every service keeps the tenants. -/
theorem Lodges.answer (hlodges : session.Lodges frame params tenants) (service : Service σ) :
    (Session.answer service session).2.Lodges frame params tenants := by
  obtain ⟨hframe, hparams, hhouses, hcontext⟩ := hlodges
  have heffect := session.effect_answer service
  generalize (Session.answer service session).2 = after at heffect
  cases heffect with
  | idle => exact ⟨hframe, hparams, hhouses, hcontext⟩
  | told => exact ⟨hframe, hparams, hhouses, hcontext⟩
  | stored hoperation =>
    refine ⟨hframe, hparams, hhouses.next fun _ _ _ _ hallocate ↦ ?_, hcontext⟩
    rw [hallocate] at hoperation
    exact actor_of_operation? hoperation rfl ▸ hcontext
  | offered _ _ _ => exact ⟨hframe, hparams, hhouses.offer hcontext _ _ _, hcontext⟩
  | @registered _ scope aid hinstall hfirst hfresh =>
    have hguests : session.guests = [(session.context, none)] := by
      rw [guests, hinstall, Option.elim_some, hfirst]
    rw [hguests] at hhouses
    refine ⟨hframe, ?_, hhouses.register hfresh, List.mem_cons_self⟩
    rw [← hparams, hinstall]
    rfl

/-- Every piece of code keeps the tenants. -/
theorem lodges_stop {piece : Piece σ} (hlodges : piece.start.Lodges frame params tenants) :
    piece.stop.Lodges frame params tenants :=
  @Piece.keeps σ (·.Lodges frame params tenants)
    (fun _ service hsession ↦ hsession.answer service) piece hlodges

/-- Code in the context of a tenant, outside any installation. -/
theorem lodges_of_tenant (hhouses : session.platform.Houses tenants)
    (hcontext : session.context ∈ tenants.map Prod.fst) (hinstall : session.install = none) :
    session.Lodges session.frame none tenants := by
  have hguests : session.guests = [] := by
    rw [guests, hinstall]
    rfl
  refine ⟨rfl, by rw [hinstall]; rfl, ?_, ?_⟩
  · rw [hguests]
    exact hhouses
  · rw [hguests]
    exact hcontext

/-- Code outside any installation leaves the tenants as they are. -/
theorem Lodges.houses_of_none (hlodges : session.Lodges frame none tenants) :
    session.platform.Houses tenants := by
  have hguests : session.guests = [] := by
    rw [guests, Option.map_eq_none_iff.mp hlodges.params_eq]
    rfl
  have hhouses := hlodges.houses
  rw [hguests] at hhouses
  exact hhouses

/-- Code of an installation leaves one tenant more, bound to what has been registered. -/
theorem Lodges.houses_of_some {given : InstallParams}
    (hlodges : session.Lodges frame (some given) tenants) :
    session.platform.Houses
      ((frame.context, session.install.bind (·.registered)) :: tenants) := by
  obtain ⟨scope, hscope, -⟩ := Option.map_eq_some_iff.mp hlodges.params_eq
  have hguests : session.guests =
      [(frame.context, session.install.bind (·.registered))] := by
    rw [guests, context, hlodges.frame_eq, hscope]
    rfl
  have hhouses := hlodges.houses
  rw [hguests] at hhouses
  exact hhouses

end Lodges

end Session

end SmartCard
