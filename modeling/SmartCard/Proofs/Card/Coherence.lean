import SmartCard.Proofs.Card.Course
import SmartCard.Proofs.Card.Tenancy

/-!
# The tables of a card agree

A card keeps its applets in three places: the registry, the table of contexts and the channels; and
arrays and exports name contexts too. The card coheres (`Card.Coheres`) if the platform houses just
the applets registered, the channels seat them, and there are not too many. Each kind of step that a
course is made of keeps this (`Card.Coheres.course`), although a part of it holds only together with
the others: an installation needs a context that nobody has, and an applet may go only when it sits
on no channel.

So the tables agree before every stage of a run (`Card.Coheres.scenes`), and after every operation
of every card that a configuration makes they say what they should (`Card.IsOrderly`,
`Card.run_isOrderly`).
-/

set_option autoImplicit false
set_option relaxedAutoImplicit false

namespace SmartCard

/-! ### The registry -/

namespace Registry

variable {σ : Type} {registry after : Registry σ}

/-- The contexts of the installed applets with their identifiers, the newest first. -/
def tenants (registry : Registry σ) : List (ContextId × Option Aid) :=
  (registry.entries.map fun entry ↦ (entry.context, some entry.aid)).reverse

theorem map_fst_tenants (registry : Registry σ) :
    registry.tenants.map Prod.fst = (registry.entries.map (·.context)).reverse := by
  rw [tenants, List.map_reverse, List.map_map]
  rfl

theorem filterMap_snd_tenants (registry : Registry σ) :
    registry.tenants.filterMap Prod.snd = registry.aids.reverse := by
  rw [tenants, List.filterMap_reverse, List.filterMap_map, aids, ← List.filterMap_eq_map]
  rfl

theorem mem_tenants {context : ContextId} :
    context ∈ registry.tenants.map Prod.fst ↔
      ∃ entry ∈ registry.entries, entry.context = context := by
  rw [map_fst_tenants, List.mem_reverse, List.mem_map]

/-- An applet inserted is the newest tenant, and there was room for it. -/
theorem insert_eq_ok {entry : Registration σ} (hinsert : registry.insert entry = .ok after) :
    after = { registry with entries := registry.entries ++ [entry] } ∧
      registry.entries.length < registry.capacity ∧
      after.tenants = (entry.context, some entry.aid) :: registry.tenants := by
  unfold insert at hinsert
  split at hinsert
  · exact nomatch hinsert
  · rename_i hroom
    split at hinsert
    · exact nomatch hinsert
    · obtain rfl := Except.ok.inj hinsert
      refine ⟨rfl, ?_, ?_⟩
      · rw [isFull, decide_eq_true_iff, Nat.not_le] at hroom
        exact hroom
      · rw [tenants, List.map_append, List.reverse_append]
        rfl

/-- When contexts are distinct, removing an applet leaves those in other contexts. -/
theorem entries_remove (hdistinct : (registry.entries.map (·.context)).Nodup)
    (context : ContextId) :
    (registry.remove context).entries =
      registry.entries.filter fun entry ↦ entry.context ≠ context := by
  unfold remove
  dsimp only
  generalize registry.entries = entries at hdistinct ⊢
  induction entries with
  | nil => rfl
  | cons entry rest ih =>
    rw [List.map_cons, List.nodup_cons] at hdistinct
    rw [List.eraseP_cons, List.filter_cons]
    by_cases hsame : entry.context = context
    · rw [beq_iff_eq.mpr hsame, cond_true, if_neg (by simpa using hsame)]
      refine (List.filter_eq_self.mpr fun other hother ↦ decide_eq_true ?_).symm
      intro hother'
      exact hdistinct.1 (List.mem_map.mpr ⟨other, hother, hother'.trans hsame.symm⟩)
    · rw [beq_false_of_ne hsame, cond_false, if_pos (decide_eq_true hsame), ih hdistinct.2]

/-- It takes away the tenant of the applet and no other. -/
theorem tenants_remove (hdistinct : (registry.entries.map (·.context)).Nodup)
    (context : ContextId) :
    (registry.remove context).tenants =
      registry.tenants.filter fun tenant ↦ tenant.1 ≠ context := by
  rw [tenants, tenants, entries_remove hdistinct, List.filter_reverse, List.filter_map]
  rfl

end Registry

namespace Card

variable {σ : Type} {card after : Card σ} {config : Config}

/-! ### Coherence -/

/-- Whether the tables of a card agree with one another and with its configuration. -/
structure Coheres (card : Card σ) (config : Config) : Prop where
  config_eq : card.config = config
  capacity_eq : card.registry.capacity = config.maxApplets
  length_le : card.registry.entries.length ≤ config.maxApplets
  houses : card.platform.Houses card.registry.tenants
  seats : card.channels.Seats card.registry

namespace Coheres

/-- No two applets share a context. -/
theorem nodup_contexts (hcoheres : card.Coheres config) :
    (card.registry.entries.map (·.context)).Nodup := by
  have hnodup := hcoheres.houses.nodup_tenants.1
  rw [Registry.map_fst_tenants] at hnodup
  exact List.nodup_reverse.mp hnodup

/-- No applet is in the card's own context. -/
theorem context_ne_system (hcoheres : card.Coheres config) {entry : Registration σ}
    (hentry : entry ∈ card.registry.entries) : entry.context ≠ .system := by
  intro hsystem
  exact hcoheres.houses.nodup_tenants.2 (Registry.mem_tenants.mpr ⟨entry, hentry, hsystem⟩)

/-- The code of an installation in a fresh context leaves one tenant more, once what it leaves open
is undone. -/
theorem houses_installed (hcoheres : card.Coheres config) {context : ContextId}
    {contexts : ContextTable} {piece : Piece σ} {params : InstallParams}
    (hcreate : card.platform.contexts.create = some (context, contexts))
    (hstart : piece.start = ⟨⟨context, 0, false⟩, { card.platform with contexts }, card.host,
      some ⟨params, none⟩⟩) :
    (card.resume piece).settle.platform.Houses
      ((context, piece.stop.install.bind (·.registered)) :: card.registry.tenants) := by
  have hlodges : piece.start.Lodges ⟨context, 0, false⟩ (some params) card.registry.tenants := by
    rw [hstart]
    exact ⟨rfl, rfl, hcoheres.houses.create hcreate, List.mem_cons_self⟩
  exact @Platform.Houses.upkeep _ _ (Session.lodges_stop hlodges).houses_of_some .abort rfl

/-- What a course does step by step keeps the tables in agreement. -/
theorem course {pieces : List (Piece σ)} (hcoheres : card.Coheres config)
    (hcourse : Course card pieces after) : after.Coheres config := by
  induction hcourse with
  | refl card => exact hcoheres
  | trans _ _ ihfirst ihsecond => exact ihsecond (ihfirst hcoheres)
  | upkeep card hupkeep =>
    obtain ⟨hconfig, hcapacity, hlength, hhouses, hseats⟩ := hcoheres
    exact ⟨hconfig, hcapacity, hlength, hhouses.upkeep hupkeep, hseats⟩
  | told card host =>
    obtain ⟨hconfig, hcapacity, hlength, hhouses, hseats⟩ := hcoheres
    exact ⟨hconfig, hcapacity, hlength, hhouses, hseats⟩
  | rearrange hchange =>
    have hseats := hcoheres.seats.change hcoheres.nodup_contexts hchange
    obtain ⟨hconfig, hcapacity, hlength, hhouses, -⟩ := hcoheres
    exact ⟨hconfig, hcapacity, hlength, hhouses, hseats⟩
  | @run card entry piece hentry hcontext hplatform hinstall =>
    obtain ⟨hconfig, hcapacity, hlength, hhouses, hseats⟩ := hcoheres
    have hlodges : piece.start.Lodges piece.start.frame none card.registry.tenants := by
      refine Session.lodges_of_tenant (hplatform ▸ hhouses) ?_ hinstall
      exact Registry.mem_tenants.mpr ⟨entry, hentry, hcontext.symm⟩
    have hstopped := (Session.lodges_stop hlodges).houses_of_none
    exact ⟨hconfig, hcapacity, hlength, hstopped, hseats⟩
  | @abandon card context contexts piece params hcreate hstart =>
    have hinstalled := hcoheres.houses_installed hcreate hstart
    obtain ⟨hnodup, hsystem⟩ := hinstalled.nodup_tenants
    rw [List.map_cons, List.nodup_cons] at hnodup
    have hcontext : context ≠ .system := fun h ↦ hsystem (h ▸ List.mem_cons_self)
    have hdiscarded := hinstalled.discard hcontext
    have htenants : (((context, piece.stop.install.bind (·.registered)) ::
        card.registry.tenants).filter fun tenant ↦ tenant.1 ≠ context) =
        card.registry.tenants := by
      rw [List.filter_cons, if_neg (by simp)]
      refine List.filter_eq_self.mpr fun tenant htenant ↦ decide_eq_true ?_
      rintro rfl
      exact hnodup.1 (List.mem_map.mpr ⟨tenant, htenant, rfl⟩)
    rw [htenants] at hdiscarded
    obtain ⟨hconfig, hcapacity, hlength, -, hseats⟩ := hcoheres
    exact ⟨hconfig, hcapacity, hlength, hdiscarded, hseats⟩
  | @install card context contexts piece params aid applet registry hcreate hstart hregistered
      hinsert =>
    have hinstalled := hcoheres.houses_installed hcreate hstart
    obtain ⟨hnodup, -⟩ := hinstalled.nodup_tenants
    rw [List.map_cons, List.nodup_cons] at hnodup
    obtain ⟨rfl, hroom, htenants⟩ := Registry.insert_eq_ok hinsert
    rw [hregistered, ← htenants] at hinstalled
    obtain ⟨hconfig, hcapacity, hlength, -, hseats⟩ := hcoheres
    refine ⟨hconfig, hcapacity, ?_, hinstalled, hseats.insert fun other hother hsame ↦ ?_⟩
    · rw [List.length_append, ← hcapacity]
      exact hroom
    · exact hnodup.1 (Registry.mem_tenants.mpr ⟨other, hother, hsame⟩)
  | @remove card entry hentry hidle =>
    have hdiscarded := hcoheres.houses.discard (hcoheres.context_ne_system hentry)
    rw [← Registry.tenants_remove hcoheres.nodup_contexts] at hdiscarded
    obtain ⟨hconfig, hcapacity, hlength, -, hseats⟩ := hcoheres
    refine ⟨hconfig, hcapacity, ?_, hdiscarded, hseats.remove hidle⟩
    exact (List.eraseP_sublist.length_le).trans hlength

/-- A card powered up coheres. -/
theorem ofConfig {host : σ} (hcard : Card.ofConfig config host = .ok card) :
    card.Coheres config := by
  obtain ⟨atr, -, rfl⟩ := eq_of_ofConfig hcard
  exact ⟨rfl, rfl, Nat.zero_le _, .empty config.quotas config.commitCapacity,
    ChannelTable.seats_initial config.logicalChannels (.empty config.maxApplets)⟩

/-- No run of operations makes a card incoherent. -/
theorem foldl (hcoheres : card.Coheres config) (operations : List (Operation σ)) :
    (operations.foldl Card.next card).Coheres config := by
  induction operations generalizing card with
  | nil => exact hcoheres
  | cons operation rest ih => exact ih (hcoheres.course (card.course_next operation))

end Coheres

/-- The tables of a card agree before every stage of a run, and the card is ready for it. -/
theorem Coheres.scenes {card : Card σ} {config : Config} (hcoheres : card.Coheres config)
    {operations : List (Operation σ)} :
    ∀ scene ∈ scenes card operations, scene.1.Coheres config ∧ scene.2.IsReady scene.1 := by
  have halong : ∀ {card : Card σ}, card.Coheres config → ∀ {stages : List (Stage σ)},
      IsReady card stages → ∀ scene ∈ along card stages,
        scene.1.Coheres config ∧ scene.2.IsReady scene.1 := by
    intro card hcoheres stages hready
    induction stages generalizing card with
    | nil => exact List.forall_mem_nil _
    | cons stage rest ih =>
      obtain ⟨hfirst, hrest⟩ := List.forall_mem_cons.mp hready
      refine List.forall_mem_cons.mpr ⟨⟨hcoheres, hfirst⟩, ih ?_ hrest⟩
      exact hcoheres.course (course_perform hfirst)
  induction operations generalizing card with
  | nil => exact List.forall_mem_nil _
  | cons operation rest ih =>
    refine List.forall_mem_append.mpr ⟨halong hcoheres (card.isReady_stages operation), ih ?_⟩
    exact hcoheres.course (card.course_next operation)

/-! ### What the tables say -/

/-- Whether the registry, the contexts, the channels, the arrays and the exports of a card say what
they should of one another. -/
structure IsOrderly (card : Card σ) (config : Config) : Prop where
  config_eq : card.config = config
  basic_open : card.channels.isOpen 0 = true
  closed_empty : ∀ channel, card.channels.isOpen channel = false →
    card.channels.selected channel = none ∧ card.channels.pending channel = []
  selected_registered : ∀ {channel context}, card.channels.selected channel = some context →
    ∃ entry ∈ card.registry.entries, entry.context = context
  selected_once : ∀ {entry}, entry ∈ card.registry.entries →
    entry.applet.multiSelectable = false →
    ∀ {first second}, card.channels.selected first = some entry.context →
      card.channels.selected second = some entry.context → first = second
  aids_nodup : card.applets.Nodup
  contexts_nodup : (card.registry.entries.map (·.context)).Nodup
  context_ne_system : ∀ {entry}, entry ∈ card.registry.entries → entry.context ≠ .system
  length_le : card.registry.entries.length ≤ config.maxApplets
  contexts_eq : card.platform.contexts.contexts =
    (card.registry.entries.map fun entry ↦ (entry.context, some entry.aid)).reverse ++
      [(.system, none)]
  owner_registered : ∀ {id region}, card.platform.store.heap.find? id = some region →
    ∃ entry ∈ card.registry.entries, entry.context = region.owner
  server_registered : ∀ {offered}, offered ∈ card.platform.contexts.exports →
    ∃ entry ∈ card.registry.entries, entry.context = offered.1.1

/-- A card whose tables agree is orderly. -/
theorem Coheres.isOrderly (hcoheres : card.Coheres config) : card.IsOrderly config where
  config_eq := hcoheres.config_eq
  basic_open := hcoheres.seats.basic
  closed_empty := by
    intro channel hshut
    unfold ChannelTable.isOpen at hshut
    unfold ChannelTable.selected ChannelTable.pending
    cases hslot : card.channels.channels[channel]? with
    | none => exact ⟨rfl, rfl⟩
    | some slot =>
      rw [hslot] at hshut
      obtain rfl := hcoheres.seats.closed hslot hshut
      exact ⟨rfl, rfl⟩
  selected_registered := hcoheres.seats.registered
  selected_once := hcoheres.seats.alone
  aids_nodup := by
    have hdistinct := hcoheres.houses.distinct
    rw [Registry.filterMap_snd_tenants] at hdistinct
    exact List.nodup_reverse.mp hdistinct
  contexts_nodup := hcoheres.nodup_contexts
  context_ne_system := hcoheres.context_ne_system
  length_le := hcoheres.length_le
  contexts_eq := hcoheres.houses.contexts_eq
  owner_registered := fun hfind ↦ Registry.mem_tenants.mp (hcoheres.houses.owner_mem hfind)
  server_registered := fun hoffered ↦
    Registry.mem_tenants.mp (hcoheres.houses.server_mem _ hoffered)

/-- What passes the check of a configuration. -/
theorem readable_of_validate (hvalid : config.validate = .ok ()) :
    (∃ atr, config.readAtr = .ok atr) ∧ Config.validateRequests config.applets = .ok () := by
  unfold Config.validate at hvalid
  split at hvalid
  · exact nomatch hvalid
  split at hvalid
  · exact nomatch hvalid
  split at hvalid
  · exact nomatch hvalid
  cases hread : config.readAtr with
  | error fault =>
    rw [hread] at hvalid
    exact nomatch hvalid
  | ok atr =>
    rw [hread] at hvalid
    exact ⟨⟨atr, rfl⟩, hvalid⟩

/-- A configuration that passes its check makes a card. -/
theorem exists_ofConfig (hvalid : config.validate = .ok ()) (host : σ) :
    ∃ card, Card.ofConfig config host = .ok card := by
  obtain ⟨⟨atr, hatr⟩, -⟩ := readable_of_validate hvalid
  rw [Card.ofConfig, hvalid, hatr]
  exact ⟨_, rfl⟩

/-- A configuration that passes its check makes a card, and whatever operations are done to it, with
whatever applets, it is orderly after each of them. -/
theorem run_isOrderly (hvalid : config.validate = .ok ()) (host : σ) :
    ∃ card, Card.ofConfig config host = .ok card ∧
      ∀ operations : List (Operation σ), (operations.foldl Card.next card).IsOrderly config := by
  obtain ⟨card, hcard⟩ := exists_ofConfig hvalid host
  exact ⟨card, hcard, fun operations ↦
    ((Coheres.ofConfig hcard).foldl operations).isOrderly⟩

/-- The configuration with a short answer to reset. -/
theorem run_isOrderly_short :
    let config : Config := { atr := "3B" }
    config.validate = .ok () ∧ ∃ card, Card.ofConfig config () = .ok card ∧
      ∀ operations : List (Operation Unit),
        (operations.foldl Card.next card).IsOrderly config := by
  intro config
  have hvalid : config.validate = .ok () := by decide
  exact ⟨hvalid, run_isOrderly hvalid ()⟩

end Card

end SmartCard
