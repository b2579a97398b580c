import SmartCard.Proofs.Applet.Confinement
import SmartCard.Proofs.Card.Coherence
import SmartCard.Proofs.Card.Settlement

/-!
# Installations that fail and installations that succeed

A factory may do whatever code can do in its fresh context, in any order, and end in any way.
`Card.Coheres.install_cases` says how an installation ends: it is refused before any code runs, or
abandoned after the factory, or the applet is added to the registry. `Card.IsUndone` is what has to
hold of a card after an installation that failed, and `Card.Adds` what has to hold after one that
succeeded.

What the factory has done stays within the reach of its context, so that an abandoned installation
leaves nothing behind once the context is discarded (`Card.Reachable.isUndone_abandon`). An
identifier is bound to one context only, so that the applet of a factory that has registered always
finds its place in the registry (`Card.Coheres.insert_registered`). Together these are
`Card.install_undone_or_added`.
-/

set_option autoImplicit false
set_option relaxedAutoImplicit false

namespace SmartCard

/-- An identifier that no installed applet has finds its place in a registry that is not full. -/
theorem Registry.insert_eq_of_fresh {σ : Type} {registry : Registry σ} {entry : Registration σ}
    (hroom : registry.isFull = false)
    (hfresh : ∀ other ∈ registry.entries, other.aid ≠ entry.aid) :
    registry.insert entry = .ok { registry with entries := registry.entries ++ [entry] } := by
  have hnone : registry.find? entry.aid.bytes = none := by
    refine List.find?_eq_none.mpr fun other hother hsame ↦ ?_
    exact hfresh other hother (Aid.ext_bytes (eq_of_beq hsame))
  rw [insert, hroom, hnone]
  rfl

namespace Card

variable {σ : Type} {card : Card σ} {config : Config} {context : ContextId}
  {contexts : ContextTable} {params : InstallParams} {factory : Factory σ}

/-- Every card reached coheres with the configuration that it was made with. -/
theorem Reachable.exists_coheres (hreach : card.Reachable) : ∃ config, card.Coheres config := by
  induction hreach with
  | ofConfig hcard => exact ⟨_, Coheres.ofConfig hcard⟩
  | next _ _ ih =>
    obtain ⟨config, hcoheres⟩ := ih
    exact ⟨config, hcoheres.course (course_next _ _)⟩

/-! ### How an installation ends -/

/-- The card with a fresh context in its table. -/
def withContexts (card : Card σ) (contexts : ContextTable) : Card σ :=
  { card with platform := { card.platform with contexts } }

/-- The code of a factory in its fresh context. -/
def factoryPiece (card : Card σ) (context : ContextId) (contexts : ContextTable)
    (params : InstallParams) (factory : Factory σ) : Piece σ :=
  .code ⟨⟨context, 0, false⟩, { card.platform with contexts }, card.host, some ⟨params, none⟩⟩
    (factory params).run

/-- The card after a factory, with no transaction open. -/
def afterFactory (card : Card σ) (context : ContextId) (contexts : ContextTable)
    (params : InstallParams) (factory : Factory σ) : Card σ :=
  (card.resume (card.factoryPiece context contexts params factory)).settle

/-- What a factory makes of the card and what it has built. -/
theorem build_eq (card : Card σ) (context : ContextId) (contexts : ContextTable)
    (params : InstallParams) (factory : Factory σ) :
    (card.withContexts contexts).build context params factory =
      (((card.withContexts contexts).build context params factory).1,
        card.afterFactory context contexts params factory) :=
  rfl

/-- What a factory has built has the identifier that the factory has registered. -/
theorem registered_of_build {registered : Aid} {applet : Applet σ}
    (hbuilt : ((card.withContexts contexts).build context params factory).1 =
      .ok (registered, applet)) :
    (card.factoryPiece context contexts params factory).stop.install.bind (·.registered) =
      some registered := by
  unfold build withContexts at hbuilt
  unfold factoryPiece Piece.stop
  dsimp only at hbuilt ⊢
  generalize Program.run Session.answer (factory params).run _ = ended at hbuilt ⊢
  obtain ⟨ending, session⟩ := ended
  dsimp only at hbuilt ⊢
  cases houtcome : outcome ending with
  | error error =>
    rw [houtcome] at hbuilt
    exact nomatch hbuilt
  | ok ended =>
    rw [houtcome] at hbuilt
    cases hscope : session.install.bind (·.registered) with
    | none =>
      rw [hscope] at hbuilt
      exact nomatch hbuilt
    | some aid =>
      rw [hscope] at hbuilt
      obtain ⟨rfl, -⟩ := Prod.mk.inj (Except.ok.inj hbuilt)
      rfl

/-- An installation that may begin finds room in the registry, and its parameters are the identifier
and the data. -/
theorem admitInstall_eq_ok {aid : Aid} {data : List UInt8}
    (hadmitted : card.admitInstall aid data = .ok params) :
    card.registry.isFull = false ∧ params.instanceAid = aid ∧ params.appletData = data := by
  unfold admitInstall at hadmitted
  split at hadmitted
  · cases hadmitted
  refine ⟨Bool.eq_false_iff.mpr ‹_›, ?_⟩
  split at hadmitted
  · cases hadmitted
  unfold InstallParams.ofData? at hadmitted
  by_cases hlength : data.length ≤ InstallParams.maxDataLength
  · rw [if_pos hlength] at hadmitted
    cases hadmitted
    exact ⟨rfl, rfl⟩
  · rw [if_neg hlength] at hadmitted
    cases hadmitted

section Install

variable {aid : Aid} {data : List UInt8} (hadmitted : card.admitInstall aid data = .ok params)
  (hcreate : card.platform.contexts.create = some (context, contexts))

include hadmitted hcreate

/-- An installation whose factory fails or does not register is abandoned. -/
theorem install_of_failed {error : CardError}
    (hfailed : ((card.withContexts contexts).build context params factory).1 = .error error) :
    card.install aid data factory =
      (.error error,
        (card.afterFactory context contexts params factory).discardContext context) := by
  have hbuild := card.build_eq context contexts params factory
  rw [hfailed] at hbuild
  unfold withContexts at hbuild
  rw [install, hadmitted]
  dsimp only at hbuild ⊢
  rw [hcreate]
  dsimp only
  rw [hbuild]

/-- An installation whose factory has built an applet depends on nothing but the registry. -/
theorem install_of_built {registered : Aid} {applet : Applet σ} {registry : Registry σ}
    (hbuilt : ((card.withContexts contexts).build context params factory).1 =
      .ok (registered, applet))
    (hinsert : card.registry.insert ⟨registered, context, params, applet⟩ = .ok registry) :
    card.install aid data factory =
      (.ok context, { card.afterFactory context contexts params factory with registry }) := by
  have hbuild := card.build_eq context contexts params factory
  have hregistry : (card.afterFactory context contexts params factory).registry.insert
      ⟨registered, context, params, applet⟩ = .ok registry := hinsert
  rw [hbuilt] at hbuild
  unfold withContexts at hbuild
  rw [install, hadmitted]
  dsimp only at hbuild ⊢
  rw [hcreate]
  dsimp only
  rw [hbuild]
  dsimp only
  rw [hregistry]

end Install

/-! ### What a factory can leave behind -/

namespace Coheres

variable (hcoheres : card.Coheres config)
  (hcreate : card.platform.contexts.create = some (context, contexts))

include hcoheres hcreate

/-- A fresh context is not the card's own, and no applet has it. -/
theorem fresh_context :
    context ≠ .system ∧ ∀ entry ∈ card.registry.entries, entry.context ≠ context := by
  obtain ⟨hnodup, hsystem⟩ := (hcoheres.houses.create hcreate).nodup_tenants
  rw [List.map_cons, List.nodup_cons] at hnodup
  refine ⟨fun h ↦ hsystem (h ▸ List.mem_cons_self), fun entry hentry hsame ↦ ?_⟩
  exact hnodup.1 (Registry.mem_tenants.mpr ⟨entry, hentry, hsame⟩)

/-- A fresh context owns no arrays and offers none. -/
theorem fresh_owner :
    (∀ {id region}, card.platform.store.heap.find? id = some region → region.owner ≠ context) ∧
      ∀ entry ∈ card.platform.contexts.exports, entry.1.1 ≠ context := by
  obtain ⟨-, hfresh⟩ := hcoheres.fresh_context hcreate
  constructor
  · intro id region hfind
    obtain ⟨entry, hentry, howner⟩ := hcoheres.isOrderly.owner_registered hfind
    exact howner ▸ hfresh entry hentry
  · intro offered hoffered
    obtain ⟨entry, hentry, hserver⟩ := hcoheres.isOrderly.server_registered hoffered
    exact hserver ▸ hfresh entry hentry

/-- A factory keeps to what its context can do. -/
theorem confined_factoryPiece (hrests : card.platform.store.Rests) (params : InstallParams)
    (factory : Factory σ) :
    (card.factoryPiece context contexts params factory).stop.Confined context card.platform := by
  obtain ⟨howner, hserver⟩ := hcoheres.fresh_owner hcreate
  refine Session.confined_stop ⟨rfl, hrests.confines howner, ?_⟩
  obtain ⟨-, rfl⟩ := ContextTable.create_eq_some hcreate
  exact List.filter_eq_self.mpr fun entry hentry ↦ decide_eq_true (hserver entry hentry)

/-- A factory that registers does so under an identifier that no applet has. -/
theorem fresh_registered {registered : Aid}
    (hregistered : (card.factoryPiece context contexts params factory).stop.install.bind
      (·.registered) = some registered) :
    ∀ entry ∈ card.registry.entries, entry.aid ≠ registered := by
  have hdistinct := (@houses_installed _ _ _ hcoheres _ _
    (card.factoryPiece context contexts params factory) _ hcreate rfl).distinct
  rw [hregistered] at hdistinct
  change (registered :: card.registry.tenants.filterMap Prod.snd).Nodup at hdistinct
  rw [List.nodup_cons, Registry.filterMap_snd_tenants, List.mem_reverse] at hdistinct
  rintro entry hentry rfl
  exact hdistinct.1 (List.mem_map_of_mem hentry)

/-- The applet of a factory that has registered finds its place in the registry. -/
theorem insert_registered {aid registered : Aid} {data : List UInt8}
    (hadmitted : card.admitInstall aid data = .ok params)
    (hregistered : (card.factoryPiece context contexts params factory).stop.install.bind
      (·.registered) = some registered) (applet : Applet σ) :
    card.registry.insert ⟨registered, context, params, applet⟩ =
      .ok { card.registry with
        entries := card.registry.entries ++ [⟨registered, context, params, applet⟩] } :=
  Registry.insert_eq_of_fresh (admitInstall_eq_ok hadmitted).1
    (hcoheres.fresh_registered hcreate hregistered)

end Coheres

/-- An installation is refused before any code runs, or admitted and given a fresh context. Then it
is abandoned if the factory fails to build an applet, and otherwise adds the applet to the
registry. -/
theorem Coheres.install_outcome (hcoheres : card.Coheres config) (aid : Aid) (data : List UInt8)
    (factory : Factory σ) :
    (∃ error, card.install aid data factory = (.error error, card)) ∨
      ∃ params context contexts, card.admitInstall aid data = .ok params ∧
        card.platform.contexts.create = some (context, contexts) ∧
        ((∃ error,
          ((card.withContexts contexts).build context params factory).1 = .error error ∧
          card.install aid data factory =
            (.error error,
              (card.afterFactory context contexts params factory).discardContext context)) ∨
        ∃ registered applet,
          ((card.withContexts contexts).build context params factory).1 =
            .ok (registered, applet) ∧
          card.install aid data factory =
            (.ok context, { card.afterFactory context contexts params factory with
              registry := { card.registry with
                entries := card.registry.entries ++
                  [⟨registered, context, params, applet⟩] } })) := by
  cases hadmitted : card.admitInstall aid data with
  | error error => exact .inl ⟨.registry error, by rw [install, hadmitted]⟩
  | ok params =>
    cases hcreate : card.platform.contexts.create with
    | none =>
      refine .inl ⟨.registry .contextsExhausted, ?_⟩
      rw [install, hadmitted]
      dsimp only
      rw [hcreate]
    | some created =>
      obtain ⟨context, contexts⟩ := created
      refine .inr ⟨params, context, contexts, rfl, rfl, ?_⟩
      cases hbuilt : ((card.withContexts contexts).build context params factory).1 with
      | error error => exact .inl ⟨error, rfl, install_of_failed hadmitted hcreate hbuilt⟩
      | ok built =>
        obtain ⟨registered, applet⟩ := built
        have hinsert := hcoheres.insert_registered hcreate hadmitted
          (registered_of_build hbuilt) applet
        exact .inr ⟨registered, applet, rfl, install_of_built hadmitted hcreate hbuilt hinsert⟩

/-- An installation is refused before any code runs, or abandoned after the factory, or its applet
is added to the registry. -/
theorem Coheres.install_cases (hcoheres : card.Coheres config) (aid : Aid) (data : List UInt8)
    (factory : Factory σ) :
    (∃ error, card.install aid data factory = (.error error, card)) ∨
      ∃ params context contexts,
        card.platform.contexts.create = some (context, contexts) ∧
        ((∃ error, card.install aid data factory =
          (.error error,
            (card.afterFactory context contexts params factory).discardContext context)) ∨
        ∃ entry : Registration σ, entry.context = context ∧
          (card.factoryPiece context contexts params factory).stop.install.bind (·.registered) =
            some entry.aid ∧
          card.install aid data factory =
            (.ok context, { card.afterFactory context contexts params factory with
              registry := { card.registry with
                entries := card.registry.entries ++ [entry] } })) := by
  rcases hcoheres.install_outcome aid data factory with
    hrefused | ⟨params, context, contexts, -, hcreate, ⟨error, -, h⟩ |
      ⟨registered, applet, hbuilt, h⟩⟩
  · exact .inl hrefused
  · exact .inr ⟨params, context, contexts, hcreate, .inl ⟨error, h⟩⟩
  · exact .inr ⟨params, context, contexts, hcreate,
      .inr ⟨⟨registered, context, params, applet⟩, rfl, registered_of_build hbuilt, h⟩⟩

/-- An installation that succeeds has been admitted, has built an applet in a fresh context, and has
added it to the registry. -/
theorem Coheres.install_eq_ok (hcoheres : card.Coheres config) {aid : Aid} {data : List UInt8}
    {installed : Card σ} (hinstalled : card.install aid data factory = (.ok context, installed)) :
    ∃ params contexts registered applet, card.admitInstall aid data = .ok params ∧
      card.platform.contexts.create = some (context, contexts) ∧
      ((card.withContexts contexts).build context params factory).1 = .ok (registered, applet) ∧
      installed = { card.afterFactory context contexts params factory with
        registry := { card.registry with
          entries := card.registry.entries ++ [⟨registered, context, params, applet⟩] } } := by
  rcases hcoheres.install_outcome aid data factory with
    ⟨error, h⟩ | ⟨params, fresh, contexts, hadmitted, hcreate, ⟨error, -, h⟩ |
      ⟨registered, applet, hbuilt, h⟩⟩
  · cases h.symm.trans hinstalled
  · cases h.symm.trans hinstalled
  · cases h.symm.trans hinstalled
    exact ⟨params, contexts, registered, applet, hadmitted, hcreate, hbuilt, rfl⟩

/-- An applet that has been built is what the factory has ended with. -/
theorem run_of_build {registered : Aid} {applet : Applet σ}
    (hbuilt : ((card.withContexts contexts).build context params factory).1 =
      .ok (registered, applet)) :
    (factory params).run.run Session.answer
        ⟨⟨context, 0, false⟩, { card.platform with contexts }, card.host, some ⟨params, none⟩⟩ =
      (.value (.ok applet), (card.factoryPiece context contexts params factory).stop) := by
  unfold build withContexts at hbuilt
  unfold factoryPiece Piece.stop
  dsimp only at hbuilt ⊢
  generalize Program.run Session.answer (factory params).run _ = ended at hbuilt ⊢
  obtain ⟨ending, session⟩ := ended
  dsimp only at hbuilt ⊢
  obtain (error | built) | text := ending
  · cases hbuilt
  · dsimp only [outcome, bind, Except.bind] at hbuilt
    cases hscope : session.install.bind (·.registered) with
    | none =>
      rw [hscope] at hbuilt
      cases hbuilt
    | some aid =>
      rw [hscope] at hbuilt
      cases hbuilt
      rfl
  · cases hbuilt

/-! ### What an installation leaves -/

/-- Whether a card is what it was before an installation that failed: memory with what is counted of
it, contexts, exports, applets and channels. The arrays that a fresh context was granted may hold
something else; all others hold what they held. -/
structure IsUndone (card after : Card σ) : Prop where
  registry_eq : after.registry = card.registry
  channels_eq : after.channels = card.channels
  outline_eq : after.platform.store.heap.outline = card.platform.store.heap.outline
  used_eq : after.platform.store.heap.used = card.platform.store.heap.used
  contexts_eq : after.platform.contexts.contexts = card.platform.contexts.contexts
  exports_eq : after.platform.contexts.exports = card.platform.contexts.exports
  depth_eq : after.transactionDepth = 0
  untouched : ∀ {id region}, after.platform.store.heap.find? id = some region →
    (∀ context contexts, card.platform.contexts.create = some (context, contexts) →
      context ∉ region.grants) →
    card.platform.store.heap.find? id = some region

/-- Whether a card is what it was with one more applet, in a context and under an identifier that no
other applet has. -/
structure Adds (card after : Card σ) (entry : Registration σ) : Prop where
  registry_eq : after.registry =
    { card.registry with entries := card.registry.entries ++ [entry] }
  context_ne : ∀ other ∈ card.registry.entries, other.context ≠ entry.context
  aid_ne : ∀ other ∈ card.registry.entries, other.aid ≠ entry.aid
  channels_eq : after.channels = card.channels
  contexts_eq : after.platform.contexts.contexts =
    (entry.context, some entry.aid) :: card.platform.contexts.contexts
  depth_eq : after.transactionDepth = 0

/-- An installation abandoned after the factory is undone. -/
theorem Reachable.isUndone_abandon (hreach : card.Reachable)
    (hcreate : card.platform.contexts.create = some (context, contexts)) :
    card.IsUndone ((card.afterFactory context contexts params factory).discardContext context) := by
  obtain ⟨config, hcoheres⟩ := hreach.exists_coheres
  obtain ⟨hsystem, -⟩ := hcoheres.fresh_context hcreate
  have habandoned : Coheres
      ((card.afterFactory context contexts params factory).discardContext context) config :=
    hcoheres.course (@Course.abandon _ _ _ _
      (card.factoryPiece context contexts params factory) _ hcreate rfl)
  obtain ⟨-, hstore, hexports⟩ := hcoheres.confined_factoryPiece hcreate hreach.rests params factory
  -- first the factory's transaction is undone, then its context is freed
  obtain ⟨houtline, huntouched⟩ := hstore.abort.release hsystem
  constructor
  case registry_eq => rfl
  case channels_eq => rfl
  case outline_eq => exact houtline
  case used_eq =>
    exact habandoned.houses.store.heap.used_eq_of_outline hreach.rests.wellFormed.heap houtline
  case contexts_eq =>
    exact habandoned.houses.contexts_eq.trans hcoheres.houses.contexts_eq.symm
  case exports_eq =>
    have hremoved : ¬context.isSystem = true := fun h ↦ hsystem (eq_of_beq h)
    change (ContextTable.remove _ context).exports = _
    rw [ContextTable.remove, if_neg hremoved]
    exact hexports
  case depth_eq => exact Store.depth_settle _
  case untouched => exact fun hfind hgrants ↦ huntouched hfind (hgrants context contexts hcreate)

/-- An installation refused before any code runs is undone. -/
theorem Reachable.isUndone_refl (hreach : card.Reachable) : card.IsUndone card :=
  ⟨rfl, rfl, rfl, rfl, rfl, rfl, hreach.rests.depth_eq, fun hfind _ ↦ hfind⟩

/-- An installation whose factory has registered adds an applet. -/
theorem Coheres.adds (hcoheres : card.Coheres config) {entry : Registration σ}
    (hcreate : card.platform.contexts.create = some (entry.context, contexts))
    (hregistered : (card.factoryPiece entry.context contexts params factory).stop.install.bind
      (·.registered) = some entry.aid) :
    card.Adds { card.afterFactory entry.context contexts params factory with
      registry := { card.registry with entries := card.registry.entries ++ [entry] } } entry := by
  refine ⟨rfl, (hcoheres.fresh_context hcreate).2, hcoheres.fresh_registered hcreate hregistered,
    rfl, ?_, Store.depth_settle _⟩
  have hhouses := @Coheres.houses_installed _ _ _ hcoheres _ _
    (card.factoryPiece entry.context contexts params factory) _ hcreate rfl
  rw [hregistered] at hhouses
  rw [hcoheres.houses.contexts_eq]
  exact hhouses.contexts_eq

/-- An installation that fails is undone, whatever its factory does. One that succeeds adds an
applet, and it succeeds whenever the factory has built one and registered it. -/
theorem install_undone_or_added (hreach : card.Reachable) (aid : Aid) (data : List UInt8)
    (factory : Factory σ) :
    (∀ error, (card.install aid data factory).1 = .error error →
      card.IsUndone (card.install aid data factory).2) ∧
    (∀ context, (card.install aid data factory).1 = .ok context →
      ∃ entry : Registration σ, entry.context = context ∧
        card.Adds (card.install aid data factory).2 entry) ∧
    ∀ params context contexts registered applet built,
      card.admitInstall aid data = .ok params →
      card.platform.contexts.create = some (context, contexts) →
      (card.withContexts contexts).build context params factory =
        (.ok (registered, applet), built) →
      ∃ registry, built.registry.insert ⟨registered, context, params, applet⟩ = .ok registry ∧
        card.install aid data factory = (.ok context, { built with registry }) := by
  obtain ⟨config, hcoheres⟩ := hreach.exists_coheres
  refine ⟨?_, ?_, ?_⟩
  · intro error herror
    rcases hcoheres.install_cases aid data factory with
      ⟨error, h⟩ | ⟨params, context, contexts, hcreate, ⟨error, h⟩ | ⟨entry, -, -, h⟩⟩
    · rw [h]
      exact hreach.isUndone_refl
    · rw [h]
      exact hreach.isUndone_abandon hcreate
    · rw [h] at herror
      exact nomatch herror
  · intro context hcontext
    rcases hcoheres.install_cases aid data factory with
      ⟨error, h⟩ | ⟨params, fresh, contexts, hcreate, ⟨error, h⟩ | ⟨entry, rfl, hregistered, h⟩⟩
    · rw [h] at hcontext
      exact nomatch hcontext
    · rw [h] at hcontext
      exact nomatch hcontext
    · rw [h] at hcontext ⊢
      exact ⟨entry, Except.ok.inj hcontext, hcoheres.adds hcreate hregistered⟩
  · intro params context contexts registered applet built hadmitted hcreate hbuilt
    have hresult := congrArg Prod.fst hbuilt
    obtain rfl : card.afterFactory context contexts params factory = built :=
      congrArg Prod.snd hbuilt
    have hregistered := registered_of_build hresult
    have hinsert := hcoheres.insert_registered hcreate hadmitted hregistered applet
    exact ⟨_, hinsert, install_of_built hadmitted hcreate hresult hinsert⟩

/-- A factory that registers, offers an array of its own, fills one that it was granted and then
fails. -/
theorem install_undone_or_added_borrowing :
    let config : Config := { atr := "3B" }
    let card : Card Unit := {
      config := config
      atr := [0x3B]
      platform := ⟨.empty config.quotas config.commitCapacity, .initial⟩
      registry := .empty config.maxApplets
      channels := .initial config.logicalChannels
      host := () }
    let server : Aid := ⟨[0xA0, 0, 0, 0, 1], by decide, by decide⟩
    let aid : Aid := ⟨[0xA0, 0, 0, 0, 2], by decide, by decide⟩
    let offering : Factory Unit := fun _ ↦ do
      let array ← Code.allocate .persistent .byte 2
      Code.offer array 0 none
      Code.register
      return { process := Code.refuse .noError }
    let failing : Factory Unit := fun _ ↦ do
      Code.register
      let own ← Code.allocate .persistent .byte 4
      Code.offer own 0 none
      if let some array ← Code.shared server 0 then
        Code.fill array 0 2 9
      Code.begin
      Code.refuse .fileFull
    let offered := card.next (.install server [] offering)
    let failed := offered.install aid [] failing
    offered.Reachable ∧ failed.1 = .error (.status .fileFull) ∧ offered.IsUndone failed.2 ∧
      (failed.2.platform.store.heap.find? 1).map (·.cells.toBytes) = some [9, 9] := by
  intro config card server aid offering failing offered failed
  have hvalid : config.validate = .ok () := by decide
  have hatr : config.readAtr = .ok [0x3B] := by decide
  have hpowered : Card.ofConfig config () = .ok card := by rw [Card.ofConfig, hvalid, hatr]
  have hreach : offered.Reachable :=
    @Reachable.next _ card (.ofConfig hpowered) (.install server [] offering) trivial
  have hfailed : failed.1 = .error (.status .fileFull) := by decide +kernel
  exact ⟨hreach, hfailed, (install_undone_or_added hreach aid [] failing).1 _ hfailed,
    by decide +kernel⟩

end Card

end SmartCard
