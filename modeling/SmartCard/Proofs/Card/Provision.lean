import SmartCard.Applet.Samples
import SmartCard.Proofs.Applet.Hello
import SmartCard.Proofs.Card.Conservation

/-!
# Installing what a configuration lists

A configuration lists requests for applets, and a card fulfils them one after another until one
fails. An applet is installed by a factory, which chooses the identifier that it registers, so what
a request asks for and what is registered are two things: `Card.Fulfils` ties an applet to its
request, and `Card.Provided` the applets of a card to the requests that have been fulfilled.

The requests of a configuration that passes its check can be read, so that each is fulfilled or
fails for a reason of its own (`Card.InstallFault`), and one that fails leaves nothing behind.
`Card.requests_provided` says so; it also says that the identifiers reported, which are those asked
for, are the identifiers of the applets if every factory registers what it is asked for, as those
of the sample applets do (`Samples.registersAsAsked`).
-/

set_option autoImplicit false
set_option relaxedAutoImplicit false

namespace SmartCard

/-- Requests that pass the check can be read. -/
theorem Config.readable_of_validateRequests {requests : List AppletRequest}
    (hvalid : validateRequests requests = .ok ()) :
    ∀ request ∈ requests,
      ∃ aid data, request.readAid = .ok aid ∧ request.readParams = .ok data := by
  induction requests with
  | nil => exact List.forall_mem_nil _
  | cons request rest ih =>
    unfold validateRequests at hvalid
    cases haid : request.readAid with
    | error fault =>
      rw [haid] at hvalid
      cases hvalid
    | ok aid =>
      cases hdata : request.readParams with
      | error fault =>
        rw [haid, hdata] at hvalid
        cases hvalid
      | ok data =>
        rw [haid, hdata] at hvalid
        exact List.forall_mem_cons.mpr ⟨⟨aid, data, haid, hdata⟩, ih hvalid⟩

namespace Card

variable {σ : Type} {card middle after : Card σ} {catalog : Catalog σ} {request : AppletRequest}
  {requests : List AppletRequest} {entry : Registration σ} {entries : List (Registration σ)}

/-! ### Requests fulfilled -/

/-- Whether a request is fulfilled by an applet: a factory of the class asked for has built it in a
fresh context, and the card has one applet more. -/
structure Fulfils (catalog : Catalog σ) (card : Card σ) (request : AppletRequest)
    (entry : Registration σ) (after : Card σ) : Prop where
  aid_eq : request.readAid = .ok entry.params.instanceAid
  data_eq : request.readParams = .ok entry.params.appletData
  install_eq : card.installClass catalog request.className entry.params.instanceAid
    entry.params.appletData = (.ok entry.context, after)
  built : ∃ factory contexts, catalog.find? request.className = some factory ∧
    card.platform.contexts.create = some (entry.context, contexts) ∧
    ((card.withContexts contexts).build entry.context entry.params factory).1 =
      .ok (entry.aid, entry.applet)
  adds : card.Adds after entry

/-- Whether some requests are fulfilled by some applets, one after another. -/
inductive Provided (catalog : Catalog σ) : Card σ → List AppletRequest → List (Registration σ) →
    Card σ → Prop where
  | nil (card : Card σ) : Provided catalog card [] [] card
  | cons {card middle after : Card σ} {request : AppletRequest} {entry : Registration σ}
    {requests : List AppletRequest} {entries : List (Registration σ)}
    (hfirst : Fulfils catalog card request entry middle)
    (hrest : Provided catalog middle requests entries after) :
    Provided catalog card (request :: requests) (entry :: entries) after

/-- Why an applet cannot be installed by the name of its class: there is no such class, a check
refuses it, no context is left, or the factory fails. -/
inductive InstallFault (catalog : Catalog σ) (card : Card σ) (className : String) (aid : Aid)
    (data : List UInt8) : CardError → Prop where
  | unknown (hnone : catalog.find? className = none) :
    InstallFault catalog card className aid data (.registry (.unknownClass className))
  | refused {factory : Factory σ} {error : RegistryError}
    (hfactory : catalog.find? className = some factory)
    (hrefused : card.admitInstall aid data = .error error) :
    InstallFault catalog card className aid data (.registry error)
  | exhausted {factory : Factory σ} {params : InstallParams}
    (hfactory : catalog.find? className = some factory)
    (hadmitted : card.admitInstall aid data = .ok params)
    (hnone : card.platform.contexts.create = none) :
    InstallFault catalog card className aid data (.registry .contextsExhausted)
  | failed {factory : Factory σ} {params : InstallParams} {context : ContextId}
    {contexts : ContextTable} {error : CardError}
    (hfactory : catalog.find? className = some factory)
    (hadmitted : card.admitInstall aid data = .ok params)
    (hcreate : card.platform.contexts.create = some (context, contexts))
    (hfailed : ((card.withContexts contexts).build context params factory).1 = .error error) :
    InstallFault catalog card className aid data error

/-- A request that can be read is fulfilled, or it fails and leaves nothing behind. -/
theorem Reachable.installClass_cases (hreach : card.Reachable) (catalog : Catalog σ) {aid : Aid}
    {data : List UInt8} (haid : request.readAid = .ok aid)
    (hdata : request.readParams = .ok data) :
    (∃ entry after, Fulfils catalog card request entry after ∧
      card.installClass catalog request.className aid data = (.ok entry.context, after)) ∨
    ∃ error after,
      card.installClass catalog request.className aid data = (.error error, after) ∧
      InstallFault catalog card request.className aid data error ∧ card.IsUndone after := by
  obtain ⟨config, hcoheres⟩ := hreach.exists_coheres
  cases hfactory : catalog.find? request.className with
  | none =>
    refine .inr ⟨_, card, ?_, .unknown hfactory, hreach.isUndone_refl⟩
    rw [installClass, hfactory]
  | some factory =>
    have hclass : card.installClass catalog request.className aid data =
        card.install aid data factory := by rw [installClass, hfactory]
    rw [hclass]
    cases hadmitted : card.admitInstall aid data with
    | error error =>
      refine .inr ⟨_, card, ?_, .refused hfactory hadmitted, hreach.isUndone_refl⟩
      rw [install, hadmitted]
    | ok params =>
      obtain ⟨-, rfl, rfl⟩ := admitInstall_eq_ok hadmitted
      cases hcreate : card.platform.contexts.create with
      | none =>
        refine .inr ⟨_, card, ?_, .exhausted hfactory hadmitted hcreate, hreach.isUndone_refl⟩
        rw [install, hadmitted]
        dsimp only
        rw [hcreate]
      | some created =>
        obtain ⟨context, contexts⟩ := created
        cases hbuilt : ((card.withContexts contexts).build context params factory).1 with
        | error error =>
          exact .inr ⟨error, _, install_of_failed hadmitted hcreate hbuilt,
            .failed hfactory hadmitted hcreate hbuilt, hreach.isUndone_abandon hcreate⟩
        | ok built =>
          obtain ⟨registered, applet⟩ := built
          have hregistered := registered_of_build hbuilt
          have hinstall := install_of_built hadmitted hcreate hbuilt
            (hcoheres.insert_registered hcreate hadmitted hregistered applet)
          let entry : Registration σ := ⟨registered, context, params, applet⟩
          exact .inl ⟨entry, _, {
            aid_eq := haid
            data_eq := hdata
            install_eq := hclass.trans hinstall
            built := ⟨factory, contexts, hfactory, hcreate, hbuilt⟩
            adds := @Coheres.adds _ _ _ _ _ _ hcoheres entry hcreate hregistered }, hinstall⟩

/-! ### Requests one after another -/

theorem Reachable.installedClass {className : String} {aid : Aid} {data : List UInt8}
    {result : Except CardError ContextId} (hreach : card.Reachable)
    (hinstalled : card.installClass catalog className aid data = (result, after)) :
    after.Reachable := by
  rw [installClass] at hinstalled
  cases hfactory : catalog.find? className with
  | none =>
    rw [hfactory] at hinstalled
    exact (Prod.mk.inj hinstalled).2 ▸ hreach
  | some factory =>
    rw [hfactory] at hinstalled
    exact hreach.installed hinstalled

theorem Fulfils.reachable (hfulfils : Fulfils catalog card request entry after)
    (hreach : card.Reachable) : after.Reachable :=
  hreach.installedClass hfulfils.install_eq

theorem Provided.reachable (hprovided : Provided catalog card requests entries after)
    (hreach : card.Reachable) : after.Reachable := by
  induction hprovided with
  | nil => exact hreach
  | cons hfirst _ ih => exact ih (hfirst.reachable hreach)

/-- The applets that fulfil some requests are registered behind those that were there. -/
theorem Provided.entries_eq (hprovided : Provided catalog card requests entries after) :
    after.registry.entries = card.registry.entries ++ entries := by
  induction hprovided with
  | nil => exact (List.append_nil _).symm
  | cons hfirst _ ih =>
    rw [ih, hfirst.adds.registry_eq]
    exact List.append_assoc _ _ _

/-- Requests that are fulfilled are reported by what they ask for, and then the rest are tried. -/
theorem Provided.installRequests_append
    (hprovided : Provided catalog card requests entries middle) (rest : List AppletRequest) :
    card.installRequests catalog (requests ++ rest) =
      ((middle.installRequests catalog rest).1.map (entries.map (·.params.instanceAid) ++ ·),
        (middle.installRequests catalog rest).2) := by
  induction hprovided with
  | nil card =>
    rw [List.nil_append]
    generalize card.installRequests catalog rest = tried
    obtain ⟨_ | _, _⟩ := tried <;> rfl
  | @cons card middle after request entry requests entries hfirst _ ih =>
    rw [List.cons_append, installRequests, hfirst.aid_eq, hfirst.data_eq]
    dsimp only
    rw [hfirst.install_eq]
    dsimp only
    rw [ih]
    generalize after.installRequests catalog rest = tried
    obtain ⟨_ | _, _⟩ := tried <;> rfl

/-- A request that fails ends it, and its error is reported. -/
theorem installRequests_of_error {aid : Aid} {data : List UInt8} {error : CardError}
    (haid : request.readAid = .ok aid) (hdata : request.readParams = .ok data)
    (hfails : card.installClass catalog request.className aid data = (.error error, after))
    (rest : List AppletRequest) :
    card.installRequests catalog (request :: rest) = (.error error, after) := by
  rw [installRequests, haid, hdata]
  dsimp only
  rw [hfails]

/-- Whether a request that can be read fails and leaves nothing behind. -/
structure Fails (catalog : Catalog σ) (card : Card σ) (request : AppletRequest) (error : CardError)
    (after : Card σ) : Prop where
  outcome : ∃ aid data, request.readAid = .ok aid ∧ request.readParams = .ok data ∧
    card.installClass catalog request.className aid data = (.error error, after) ∧
    InstallFault catalog card request.className aid data error
  undone : card.IsUndone after

/-- Requests that can be read are all fulfilled, or some are and the next one fails. -/
theorem Reachable.provided_or_fails (hreach : card.Reachable) (catalog : Catalog σ)
    (hreadable : ∀ request ∈ requests,
      ∃ aid data, request.readAid = .ok aid ∧ request.readParams = .ok data) :
    (∃ entries after, Provided catalog card requests entries after) ∨
      ∃ first request rest entries middle error after, requests = first ++ request :: rest ∧
        Provided catalog card first entries middle ∧
        Fails catalog middle request error after := by
  induction requests generalizing card with
  | nil => exact .inl ⟨[], card, .nil card⟩
  | cons request requests ih =>
    obtain ⟨⟨aid, data, haid, hdata⟩, hrest⟩ := List.forall_mem_cons.mp hreadable
    rcases hreach.installClass_cases catalog haid hdata with
      ⟨entry, middle, hfirst, -⟩ | ⟨error, after, hfails, hfault, hundone⟩
    · rcases ih (hfirst.reachable hreach) hrest with
        ⟨entries, after, hprovided⟩ |
          ⟨first, next, rest, entries, last, error, after, rfl, hprovided, hfails⟩
      · exact .inl ⟨_, after, .cons hfirst hprovided⟩
      · exact .inr ⟨request :: first, next, rest, _, last, error, after, rfl,
          .cons hfirst hprovided, hfails⟩
    · exact .inr ⟨[], request, requests, [], card, error, after, rfl, .nil card,
        ⟨aid, data, haid, hdata, hfails, hfault⟩, hundone⟩

/-! ### What is reported -/

/-- Whether a factory registers the identifier that it is asked for, whenever it builds an
applet. -/
def RegistersAsAsked (factory : Factory σ) : Prop :=
  ∀ {card : Card σ} {context : ContextId} {contexts : ContextTable} {params : InstallParams}
    {registered : Aid} {applet : Applet σ}, card.Reachable →
    card.platform.contexts.create = some (context, contexts) →
    ((card.withContexts contexts).build context params factory).1 = .ok (registered, applet) →
      registered = params.instanceAid

theorem Provided.aid_eq (hprovided : Provided catalog card requests entries after)
    (hreach : card.Reachable)
    (hasked : ∀ name factory, catalog.find? name = some factory → RegistersAsAsked factory) :
    ∀ entry ∈ entries, entry.aid = entry.params.instanceAid := by
  induction hprovided with
  | nil => exact List.forall_mem_nil _
  | cons hfirst _ ih =>
    refine List.forall_mem_cons.mpr ⟨?_, ih (hfirst.reachable hreach)⟩
    obtain ⟨factory, contexts, hfactory, hcreate, hbuilt⟩ := hfirst.built
    exact hasked _ factory hfactory hreach hcreate hbuilt

/-- What is reported of some requests on a card without applets, and what they leave there. -/
structure Reports (catalog : Catalog σ) (card : Card σ) (requests : List AppletRequest)
    (result : Except CardError (List Aid)) (after : Card σ) : Prop where
  /-- If all went well, the applets of the card are those that fulfil the requests, and what is
  reported is what they were asked to be called. -/
  completed : ∀ list, result = .ok list →
    Provided catalog card requests after.registry.entries after ∧
      list = after.registry.entries.map (·.params.instanceAid)
  /-- Otherwise they are those that fulfil the requests in front of one that failed for the reason
  reported, and the card is what it was before that. -/
  failed : ∀ error, result = .error error → ∃ first request rest middle,
    requests = first ++ request :: rest ∧
      Provided catalog card first after.registry.entries middle ∧
      Fails catalog middle request error after
  /-- The bytes counted are those of the arrays of these applets. -/
  used_eq : ∀ lifetime, after.platform.store.heap.used.get lifetime =
    Heap.chargedTo lifetime (after.platform.store.heap.regions.filter fun array ↦
      array.2.owner ∈ after.registry.entries.map (·.context))
  /-- The identifiers reported are those of the applets just if these are called as asked. -/
  applets_eq_iff : ∀ list, result = .ok list →
    (after.applets = list ↔ ∀ entry ∈ after.registry.entries, entry.aid = entry.params.instanceAid)
  /-- This is so if every factory registers what it is asked for. -/
  aid_eq : (∀ name factory, catalog.find? name = some factory → RegistersAsAsked factory) →
    ∀ entry ∈ after.registry.entries, entry.aid = entry.params.instanceAid

/-- The bytes counted on a card are those of the arrays of its applets. -/
theorem Coheres.used_eq {config : Config} (hcoheres : card.Coheres config) (lifetime : Lifetime) :
    card.platform.store.heap.used.get lifetime =
      Heap.chargedTo lifetime (card.platform.store.heap.regions.filter fun array ↦
        array.2.owner ∈ card.registry.entries.map (·.context)) := by
  have hheap := hcoheres.houses.store.heap
  rw [hheap.used_eq, List.filter_eq_self.mpr]
  rintro ⟨id, region⟩ harray
  obtain ⟨entry, hentry, howner⟩ :=
    hcoheres.isOrderly.owner_registered (hheap.find?_eq_some_iff.mpr harray)
  exact decide_eq_true (howner ▸ List.mem_map_of_mem hentry)

/-- What a card without applets makes of requests that can be read. -/
theorem Reachable.reports (hreach : card.Reachable) (hnone : card.registry.entries = [])
    (catalog : Catalog σ)
    (hreadable : ∀ request ∈ requests,
      ∃ aid data, request.readAid = .ok aid ∧ request.readParams = .ok data) :
    Reports catalog card requests (card.installRequests catalog requests).1
      (card.installRequests catalog requests).2 := by
  have happlets : ∀ after : Card σ,
      after.applets = after.registry.entries.map (·.params.instanceAid) ↔
        ∀ entry ∈ after.registry.entries, entry.aid = entry.params.instanceAid := fun after ↦
    List.map_inj_left
  rcases hreach.provided_or_fails catalog hreadable with
    ⟨entries, after, hprovided⟩ |
      ⟨first, request, rest, entries, middle, error, after, rfl, hprovided, hfails⟩
  · obtain rfl : entries = after.registry.entries := by
      rw [hprovided.entries_eq, hnone, List.nil_append]
    have hresult := hprovided.installRequests_append []
    rw [List.append_nil, installRequests] at hresult
    dsimp only [Except.map] at hresult
    rw [List.append_nil] at hresult
    rw [hresult]
    obtain ⟨config, hcoheres⟩ := (hprovided.reachable hreach).exists_coheres
    constructor
    case completed => rintro list ⟨⟩; exact ⟨hprovided, rfl⟩
    case failed => rintro error ⟨⟩
    case used_eq => exact hcoheres.used_eq
    case applets_eq_iff => rintro list ⟨⟩; exact happlets after
    case aid_eq => exact hprovided.aid_eq hreach
  · -- the request that failed is undone, so the applets are those from before it
    obtain rfl : entries = after.registry.entries := by
      rw [hfails.undone.registry_eq, hprovided.entries_eq, hnone, List.nil_append]
    obtain ⟨aid, data, haid, hdata, hinstall, -⟩ := hfails.outcome
    have hresult := hprovided.installRequests_append (request :: rest)
    rw [installRequests_of_error haid hdata hinstall] at hresult
    rw [hresult]
    obtain ⟨config, hcoheres⟩ :=
      ((hprovided.reachable hreach).installedClass hinstall).exists_coheres
    constructor
    case completed => rintro list ⟨⟩
    case failed => rintro other ⟨⟩; exact ⟨first, request, rest, middle, rfl, hprovided, hfails⟩
    case used_eq => exact hcoheres.used_eq
    case applets_eq_iff => rintro list ⟨⟩
    case aid_eq => exact hprovided.aid_eq hreach

/-! ### The applets of a configuration -/

/-- A configuration that passes its check makes a card, and whatever factories a catalog has, what
is reported of the applets that the configuration lists is what becomes of them: all of them are
installed, or those in front of one that fails for the reason reported. The identifiers reported
are those asked for, and these are the identifiers of the applets just if every factory that has
built one has registered it under the identifier asked for. -/
theorem requests_provided {config : Config} (hvalid : config.validate = .ok ())
    (catalog : Catalog σ) (host : σ) :
    ∃ card, Card.ofConfig config host = .ok card ∧
      Reports catalog card config.applets (card.installConfigured catalog).1
        (card.installConfigured catalog).2 := by
  obtain ⟨card, hcard⟩ := exists_ofConfig hvalid host
  have hreadable := Config.readable_of_validateRequests (readable_of_validate hvalid).2
  have hreach : card.Reachable := .ofConfig hcard
  obtain ⟨atr, -, rfl⟩ := eq_of_ofConfig hcard
  exact ⟨_, hcard, hreach.reports rfl catalog hreadable⟩

/-- A factory that registers the identifier that stands behind the first byte of its data. -/
def selfNaming : Factory σ := fun params ↦ do
  Code.registerSlice params.appletData 1 5
  return { process := Code.refuse .noError }

/-- A greeter and an applet that calls itself something else are installed, and what comes next is
of a class that there is not. -/
theorem requests_provided_unknown :
    let config : Config := {
      atr := "3B"
      applets := [⟨"hello", "F000000001", ""⟩, ⟨"other", "F0000000CC", "4FF000000077"⟩,
        ⟨"none", "F000000002", ""⟩] }
    let catalog : Catalog Unit := ⟨[("other", selfNaming), ("hello", Hello.install)]⟩
    config.validate = .ok () ∧ ∃ card, Card.ofConfig config () = .ok card ∧
      (card.installConfigured catalog).1 = .error (.registry (.unknownClass "none")) ∧
      (card.installConfigured catalog).2.applets.map (·.bytes) =
        [[0xF0, 0, 0, 0, 1], [0xF0, 0, 0, 0, 0x77]] ∧
      Reports catalog card config.applets (card.installConfigured catalog).1
        (card.installConfigured catalog).2 := by
  intro config catalog
  have hvalid : config.validate = .ok () := by decide +kernel
  have hatr : config.readAtr = .ok [0x3B] := by decide
  obtain ⟨card, hcard, hreports⟩ := requests_provided hvalid catalog ()
  have hpowered := hcard
  rw [Card.ofConfig, hvalid, hatr] at hpowered
  obtain rfl := Except.ok.inj hpowered
  exact ⟨hvalid, _, hcard, by decide +kernel, by decide +kernel, hreports⟩

/-- An applet that calls itself something else is reported by the identifier asked for. -/
theorem requests_reported_as_asked :
    let config : Config := {
      atr := "3B"
      applets := [⟨"other", "F0000000CC", "4FF000000077"⟩] }
    let catalog : Catalog Unit := ⟨[("other", selfNaming)]⟩
    config.validate = .ok () ∧ ∃ card, Card.ofConfig config () = .ok card ∧
      (card.installConfigured catalog).1.map (·.map (·.bytes)) = .ok [[0xF0, 0, 0, 0, 0xCC]] ∧
      (card.installConfigured catalog).2.applets.map (·.bytes) = [[0xF0, 0, 0, 0, 0x77]] := by
  intro config catalog
  have hvalid : config.validate = .ok () := by decide +kernel
  have hatr : config.readAtr = .ok [0x3B] := by decide
  obtain ⟨card, hcard⟩ := exists_ofConfig hvalid ()
  have hpowered := hcard
  rw [Card.ofConfig, hvalid, hatr] at hpowered
  obtain rfl := Except.ok.inj hpowered
  exact ⟨hvalid, _, hcard, by decide +kernel, by decide +kernel⟩

end Card

/-- The factories of the sample applets register what they are asked for. -/
theorem Samples.registersAsAsked {σ : Type} {name : String} {factory : Factory σ}
    (hfactory : (Samples.catalog σ).find? name = some factory) : Card.RegistersAsAsked factory := by
  intro card context contexts params registered applet hreach hcreate hbuilt
  have hplay := Card.run_of_build hbuilt
  have hregistered := Card.registered_of_build hbuilt
  have hidle := Store.depth_eq_zero_iff.mp hreach.rests.depth_eq
  have hkinds : factory = Hello.install ∨ factory = Purse.install := by
    unfold Catalog.find? Samples.catalog at hfactory
    rw [List.lookup_cons] at hfactory
    cases hhello : name == "hello" with
    | true => rw [hhello] at hfactory; exact .inl (Option.some.inj hfactory).symm
    | false =>
      rw [hhello, List.lookup_cons] at hfactory
      cases hpurse : name == "purse" with
      | true => rw [hpurse] at hfactory; exact .inr (Option.some.inj hfactory).symm
      | false => rw [hpurse] at hfactory; cases hfactory
  rcases hkinds with rfl | rfl
  · exact Option.some.inj (hregistered.symm.trans (Hello.play_install hidle hplay).registered_eq)
  · exact Option.some.inj (hregistered.symm.trans
      (Purse.play_install hreach.rests.wellFormed hidle hplay).registered_eq)

end SmartCard
