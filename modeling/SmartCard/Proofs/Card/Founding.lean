import SmartCard.Proofs.Card.Removal
import SmartCard.Proofs.Context.Identity

/-!
# Contexts founded by installations

Every installation that runs a factory founds a context for it, and whether the installation
succeeds or not, no other ever gets the same: the contexts founded in a run have consecutive numbers
(`Card.Course.founds`). A context that belongs to no applet any more belongs to nothing for good.

A grant names a context that was founded before (`Platform.KnowsClients`). So the grants that an
array has, those to contexts long gone included, do not admit an applet installed later.
`Card.context_never_recycled` puts this together with what holds of the table of contexts by itself.
-/

set_option autoImplicit false
set_option relaxedAutoImplicit false

namespace SmartCard

open ContextTable

/-! ### Numbers -/

/-- The context that a piece of code builds an applet in. -/
def Piece.founds? {σ : Type} (piece : Piece σ) : Option ContextId :=
  piece.start.install.map fun _ ↦ piece.start.context

/-- A context created has a number below the limit. -/
theorem ContextTable.lt_idLimit_of_create {table after : ContextTable} {context : ContextId}
    (hcreate : table.create = some (context, after)) : table.nextId < idLimit := by
  refine Nat.lt_of_not_le fun hlimit ↦ ?_
  exact Option.some_ne_none _ (hcreate.symm.trans (create_eq_none_iff.mpr hlimit))

namespace Card

variable {σ : Type} {card after : Card σ} {config : Config}

/-- The contexts that the installations of a run found, whatever becomes of them, in order. -/
def founded (card : Card σ) (operations : List (Operation σ)) : List ContextId :=
  (card.runPieces operations).filterMap Piece.founds?

/-- What happens to a card founds contexts with consecutive numbers. -/
theorem Course.founds {pieces : List (Piece σ)} (hcourse : Course card pieces after) :
    pieces.filterMap Piece.founds? =
        numbered card.platform.contexts.nextId after.platform.contexts.nextId ∧
      card.platform.contexts.nextId ≤ after.platform.contexts.nextId ∧
      (card.platform.contexts.nextId ≤ idLimit → after.platform.contexts.nextId ≤ idLimit) := by
  -- the factory of an installation finds the context created, and code creates none
  have hfactory : ∀ {card : Card σ} {context : ContextId} {contexts : ContextTable}
      {piece : Piece σ} {params : InstallParams},
      card.platform.contexts.create = some (context, contexts) →
      piece.start = ⟨⟨context, 0, false⟩, { card.platform with contexts }, card.host,
        some ⟨params, none⟩⟩ →
      [piece].filterMap Piece.founds? = [⟨card.platform.contexts.nextId⟩] ∧
        piece.stop.platform.contexts.nextId = card.platform.contexts.nextId + 1 := by
    intro card context contexts piece params hcreate hstart
    obtain ⟨rfl, rfl⟩ := create_eq_some hcreate
    refine ⟨?_, by rw [nextId_stop, hstart]⟩
    rw [List.filterMap_cons, Piece.founds?, hstart]
    rfl
  induction hcourse with
  | refl => exact ⟨(numbered_self _).symm, Nat.le_refl _, id⟩
  | trans _ _ ihfirst ihsecond =>
    obtain ⟨hfirst, hless, hlimit⟩ := ihfirst
    obtain ⟨hsecond, hmore, hbound⟩ := ihsecond
    rw [List.filterMap_append, hfirst, hsecond, numbered_append hless hmore]
    exact ⟨rfl, Nat.le_trans hless hmore, fun h ↦ hbound (hlimit h)⟩
  | upkeep | told | rearrange => exact ⟨(numbered_self _).symm, Nat.le_refl _, id⟩
  | @run card entry piece hentry hcontext hplatform hinstall =>
    have hnext : (card.resume piece).platform.contexts.nextId =
        card.platform.contexts.nextId := (nextId_stop piece).trans (by rw [hplatform])
    rw [hnext, numbered_self, List.filterMap_cons, Piece.founds?, hinstall]
    exact ⟨rfl, Nat.le_refl _, id⟩
  | @abandon card context contexts piece params hcreate hstart =>
    obtain ⟨hfounds, hnext⟩ := hfactory hcreate hstart
    have hafter : ((card.resume piece).settle.discardContext context).platform.contexts.nextId =
        card.platform.contexts.nextId + 1 := (nextId_remove _ context).trans hnext
    rw [hafter, numbered_succ]
    exact ⟨hfounds, Nat.le_succ _, fun _ ↦ lt_idLimit_of_create hcreate⟩
  | @install card context contexts piece params aid applet registry hcreate hstart _ _ =>
    obtain ⟨hfounds, hnext⟩ := hfactory hcreate hstart
    have hafter : (card.resume piece).settle.platform.contexts.nextId =
        card.platform.contexts.nextId + 1 := hnext
    dsimp only
    rw [hafter, numbered_succ]
    exact ⟨hfounds, Nat.le_succ _, fun _ ↦ lt_idLimit_of_create hcreate⟩
  | @remove card entry _ _ =>
    have hafter : (card.evict entry.context).platform.contexts.nextId =
        card.platform.contexts.nextId := nextId_remove _ entry.context
    rw [hafter, numbered_self]
    exact ⟨rfl, Nat.le_refl _, id⟩

end Card

/-! ### Grants -/

/-- Whether every array is granted to contexts only that have been founded. -/
structure Platform.KnowsClients (platform : Platform) : Prop where
  store : platform.store.WellFormed
  lt_nextId : ∀ {id region}, platform.store.heap.find? id = some region →
    ∀ client ∈ region.grants, client.number < platform.contexts.nextId

namespace Platform.KnowsClients

variable {platform : Platform} (hknows : platform.KnowsClients)

include hknows

/-- An operation on memory that grants an array only to a context that has been founded. -/
theorem next {operation : Store.Operation}
    (hgrant : ∀ id client, operation = .grant id client →
      client.number < platform.contexts.nextId) :
    Platform.KnowsClients { platform with store := platform.store.next operation } where
  store := hknows.store.next operation
  lt_nextId := fun hfind client hclient ↦ by
    cases Store.lineage_next hknows.store hfind with
    | kept hformer _ hgrants =>
      rcases hgrants client hclient with hold | hnew
      · exact hknows.lt_nextId hformer client hold
      · exact hgrant _ client hnew
    | made _ _ hregion =>
      rw [hregion] at hclient
      exact absurd hclient List.not_mem_nil

/-- Undoing and forgetting grant nothing. -/
theorem upkeep {operation : Store.Operation} (hupkeep : operation.isUpkeep = true) :
    Platform.KnowsClients { platform with store := platform.store.next operation } := by
  refine hknows.next fun id client hoperation ↦ ?_
  rw [hoperation] at hupkeep
  exact Bool.noConfusion hupkeep

theorem withContexts {contexts : ContextTable}
    (hnext : platform.contexts.nextId ≤ contexts.nextId) :
    Platform.KnowsClients { platform with contexts } where
  store := hknows.store
  lt_nextId := fun hfind client hclient ↦
    Nat.lt_of_lt_of_le (hknows.lt_nextId hfind client hclient) hnext

theorem discard (context : ContextId) :
    Platform.KnowsClients
      { store := { platform.store with heap := platform.store.heap.releaseOwnedBy context }
        contexts := platform.contexts.remove context } := by
  have hreleased := @next platform hknows (.releaseOwnedBy context) fun _ _ h ↦ by cases h
  exact hreleased.withContexts (nextId_remove _ context).ge

end Platform.KnowsClients

/-- Whether code runs in a context that has been founded, on a platform that knows its clients. -/
structure Session.Known {σ : Type} (session : Session σ) : Prop where
  platform : session.platform.KnowsClients
  lt_nextId : session.context.number < session.platform.contexts.nextId

/-- Code is granted arrays in its own context only. -/
theorem Piece.known {σ : Type} {piece : Piece σ} (hknown : piece.start.Known) :
    piece.stop.Known := by
  refine @Piece.keeps σ Session.Known (fun session service hsession ↦ ?_) piece hknown
  have heffect := session.effect_answer service
  generalize (Session.answer service session).2 = answered at heffect
  cases heffect with
  | idle | told => exact ⟨hsession.platform, hsession.lt_nextId⟩
  | stored hoperation =>
    refine ⟨hsession.platform.next fun id client hgrant ↦ ?_, hsession.lt_nextId⟩
    rw [hgrant] at hoperation
    exact Session.actor_of_operation? hoperation rfl ▸ hsession.lt_nextId
  | offered _ _ _ =>
    exact ⟨hsession.platform.withContexts (Nat.le_refl _), hsession.lt_nextId⟩
  | registered _ _ _ =>
    exact ⟨hsession.platform.withContexts (Nat.le_refl _), hsession.lt_nextId⟩

namespace Card

variable {σ : Type} {card after : Card σ} {config : Config}

/-- The contexts of applets have been founded. -/
theorem Coheres.lt_nextId (hcoheres : card.Coheres config) {context : ContextId}
    (hcontext : context ∈ card.registry.tenants.map Prod.fst) :
    context.number < card.platform.contexts.nextId := by
  refine hcoheres.houses.contexts.lt_nextId context ?_
  rw [hcoheres.houses.contexts_eq, List.map_append]
  exact List.mem_append_left _ hcontext

/-- Whatever happens to a card, its arrays are granted only to contexts that have been founded. -/
theorem Course.knowsClients {pieces : List (Piece σ)} (hcourse : Course card pieces after)
    (hcoheres : card.Coheres config) (hknows : card.platform.KnowsClients) :
    after.platform.KnowsClients := by
  -- the factory of an installation starts in the context just founded
  have hfactory : ∀ {card : Card σ} {context : ContextId} {contexts : ContextTable}
      {piece : Piece σ} {params : InstallParams}, card.platform.KnowsClients →
      card.platform.contexts.create = some (context, contexts) →
      piece.start = ⟨⟨context, 0, false⟩, { card.platform with contexts }, card.host,
        some ⟨params, none⟩⟩ →
      (card.resume piece).settle.platform.KnowsClients := by
    intro card context contexts piece params hknows hcreate hstart
    obtain ⟨rfl, rfl⟩ := create_eq_some hcreate
    have hknown : piece.start.Known := by
      rw [hstart]
      exact ⟨hknows.withContexts (Nat.le_succ _), Nat.lt_succ_self _⟩
    exact @Platform.KnowsClients.upkeep _ (Piece.known hknown).platform .abort rfl
  induction hcourse with
  | refl => exact hknows
  | trans hfirst _ ihfirst ihsecond =>
    exact ihsecond (hcoheres.course hfirst) (ihfirst hcoheres hknows)
  | upkeep card hupkeep => exact hknows.upkeep hupkeep
  | told | rearrange => exact hknows
  | @run card entry piece hentry hcontext hplatform hinstall =>
    have hknown : piece.start.Known := by
      refine ⟨hplatform ▸ hknows, ?_⟩
      rw [hplatform, hcontext]
      exact hcoheres.lt_nextId (Registry.mem_tenants.mpr ⟨entry, hentry, rfl⟩)
    exact (Piece.known hknown).platform
  | @abandon card context contexts piece params hcreate hstart =>
    exact (hfactory hknows hcreate hstart).discard context
  | install hcreate hstart _ _ => exact hfactory hknows hcreate hstart
  | @remove card entry _ _ => exact hknows.discard entry.context

/-! ### Every history of a card -/

/-- What holds of the contexts of a card after some operations from power-up. -/
structure FoundsFresh (card : Card σ) (operations : List (Operation σ)) : Prop where
  /-- The contexts founded are numbered from 1 on. -/
  founded_eq : card.founded operations =
    numbered 1 (operations.foldl next card).platform.contexts.nextId
  /-- None is founded twice. -/
  nodup : (card.founded operations).Nodup
  /-- The card's own is not founded. -/
  ne_system : ∀ context ∈ card.founded operations, context ≠ .system
  /-- There are at most 65534. -/
  length_le : (card.founded operations).length ≤ 65534
  /-- An installation that succeeds founds the context that it tells. -/
  installed : ∀ aid data factory context,
    ((operations.foldl next card).install aid data factory).1 = .ok context →
      card.founded (operations ++ [.install aid data factory]) =
        card.founded operations ++ [context]
  /-- Once there are so many no context is founded any more, and no installation succeeds or changes
  anything. -/
  exhausted : (card.founded operations).length = 65534 → ∀ later : List (Operation σ),
    (operations.foldl next card).founded later = [] ∧ ∀ aid data factory,
      ∃ error, (later.foldl next (operations.foldl next card)).install aid data factory =
        (.error (.registry error), later.foldl next (operations.foldl next card)) ∧
        ∀ params, (later.foldl next (operations.foldl next card)).admitInstall aid data =
          .ok params → error = .contextsExhausted
  /-- A context without an applet, after its removal or a failed installation, belongs to nothing
  for good and is not founded again. -/
  gone : ∀ context ∈ card.founded operations,
    (∀ entry ∈ (operations.foldl next card).registry.entries, entry.context ≠ context) →
      ∀ later, (later.foldl next (operations.foldl next card)).Lacks context ∧
        context ∉ (operations.foldl next card).founded later
  /-- No array, with the grants that it has, admits an applet installed later. -/
  ungranted : ∀ id region,
    (operations.foldl next card).platform.store.heap.find? id = some region →
      ∀ later, ∀ context ∈ (operations.foldl next card).founded later,
        region.admits context = false

theorem founded_eq (card : Card σ) (operations : List (Operation σ)) :
    card.founded operations = numbered card.platform.contexts.nextId
      (operations.foldl next card).platform.contexts.nextId :=
  (course_foldl card operations).founds.1

/-- Contexts founded later have numbers that were not given out before. -/
theorem le_of_mem_founded {operations : List (Operation σ)} {context : ContextId}
    (hfounded : context ∈ card.founded operations) :
    card.platform.contexts.nextId ≤ context.number := by
  rw [founded_eq] at hfounded
  exact (bounds_of_mem_numbered hfounded).1

/-- An installation that succeeds founds its context. -/
theorem founded_install (hcoheres : card.Coheres config) {aid : Aid} {data : List UInt8}
    {factory : Factory σ} {context : ContextId}
    (hinstalled : (card.install aid data factory).1 = .ok context) :
    card.founded [.install aid data factory] = [context] := by
  obtain ⟨params, contexts, registered, applet, hadmitted, hcreate, -⟩ :=
    hcoheres.install_eq_ok (Prod.ext hinstalled rfl)
  have hpieces : card.runPieces [.install aid data factory] =
      [card.factoryPiece context contexts params factory] := by
    rw [runPieces, runPieces, List.append_nil, pieces, stages, piecesAlong_singleton, stagePieces,
      installPieces, hadmitted]
    dsimp only
    rw [hcreate]
    rfl
  rw [founded, hpieces]
  rfl

/-- A card whose contexts are used up installs nothing. -/
theorem install_of_exhausted (hnone : card.platform.contexts.create = none) (aid : Aid)
    (data : List UInt8) (factory : Factory σ) :
    ∃ error, card.install aid data factory = (.error (.registry error), card) ∧
      ∀ params, card.admitInstall aid data = .ok params → error = .contextsExhausted := by
  unfold install
  cases hadmitted : card.admitInstall aid data with
  | error error => exact ⟨error, rfl, fun params h ↦ by cases h⟩
  | ok params =>
    dsimp only
    rw [hnone]
    exact ⟨.contextsExhausted, rfl, fun _ _ ↦ rfl⟩

/-- No array, with the grants that it has, admits a context founded later. -/
theorem Coheres.admits_eq_false (hcoheres : card.Coheres config)
    (hknows : card.platform.KnowsClients) (hpositive : 0 < card.platform.contexts.nextId) {id : Nat}
    {region : Region} (hfind : card.platform.store.heap.find? id = some region)
    {context : ContextId} (hfresh : card.platform.contexts.nextId ≤ context.number) :
    region.admits context = false := by
  have hne : ∀ {other : ContextId}, other.number < card.platform.contexts.nextId →
      context ≠ other := by
    rintro other hless rfl
    exact Nat.not_lt_of_le hfresh hless
  have hsystem : context ≠ .system := hne hpositive
  have howner := hne (hcoheres.lt_nextId (hcoheres.houses.owner_mem hfind))
  rw [Region.admits_of_ne hsystem howner, Bool.eq_false_iff]
  intro hgranted
  exact hne (hknows.lt_nextId hfind context (List.contains_iff_mem.mp hgranted)) rfl

/-- A card just powered up has founded no context and granted nothing. -/
theorem knowsClients_ofConfig {host : σ} (hcard : Card.ofConfig config host = .ok card) :
    card.platform.KnowsClients ∧ card.platform.contexts.nextId = 1 := by
  have hstore := (Coheres.ofConfig hcard).houses.store
  obtain ⟨atr, -, rfl⟩ := eq_of_ofConfig hcard
  exact ⟨⟨hstore, fun hfind ↦ by cases hfind⟩, rfl⟩

theorem foundsFresh {host : σ} (hcard : Card.ofConfig config host = .ok card)
    (operations : List (Operation σ)) : card.FoundsFresh operations := by
  obtain ⟨hknows, hstart⟩ := knowsClients_ofConfig hcard
  have hcoheres := Coheres.ofConfig hcard
  have hafter := hcoheres.foldl operations
  have hcourse := course_foldl card operations
  obtain ⟨-, hless, hlimit⟩ := hcourse.founds
  have hfounded := card.founded_eq operations
  rw [hstart] at hless hlimit hfounded
  have hbound : (operations.foldl next card).platform.contexts.nextId ≤ 65535 :=
    hlimit (by decide)
  have hlength : (card.founded operations).length =
      (operations.foldl next card).platform.contexts.nextId - 1 := by
    rw [hfounded, length_numbered]
  have hpositive : ∀ context ∈ card.founded operations, context ≠ .system := by
    rintro context hcontext rfl
    rw [hfounded] at hcontext
    exact Nat.not_succ_le_zero 0 (bounds_of_mem_numbered hcontext).1
  refine ⟨hfounded, ?nodup, hpositive, by omega, ?installed, ?exhausted, ?gone, ?ungranted⟩
  case nodup =>
    rw [hfounded]
    exact nodup_numbered _ _
  case installed =>
    intro aid data factory context hinstalled
    have hone := founded_install hafter hinstalled
    have hmore := (course_foldl (operations.foldl next card)
      [.install aid data factory]).founds.2.1
    rw [founded_eq] at hone ⊢
    rw [List.foldl_append, hfounded, hstart, ← hone, numbered_append hless hmore]
  case exhausted =>
    intro hfull later
    have hlast : (operations.foldl next card).platform.contexts.nextId = 65535 := by omega
    obtain ⟨-, hmore, hstays⟩ := (course_foldl (operations.foldl next card) later).founds
    rw [hlast] at hmore hstays
    have hsame := Nat.le_antisymm (hstays (Nat.le_refl _)) hmore
    refine ⟨?_, fun aid data factory ↦ install_of_exhausted ?_ aid data factory⟩
    · rw [founded_eq, hlast, hsame]
      exact numbered_self 65535
    · exact create_eq_none_iff.mpr hmore
  case gone =>
    intro context hcontext hunregistered later
    have hretired : (operations.foldl next card).Retired context := by
      rw [hfounded] at hcontext
      exact ⟨(bounds_of_mem_numbered hcontext).2, hunregistered⟩
    refine ⟨(hretired.foldl later).lacks (hafter.foldl later) (hpositive context hcontext), ?_⟩
    exact fun hagain ↦ Nat.not_lt_of_le (le_of_mem_founded hagain) hretired.lt_nextId
  case ungranted =>
    intro id region hfind later context hcontext
    exact hafter.admits_eq_false (hcourse.knowsClients hcoheres hknows) hless hfind
      (le_of_mem_founded hcontext)

/-- The identity of a context is never recycled. Whatever is done to a table of contexts, none is
created twice, none takes the place of the card itself, and what a context offered goes with it.
Whatever is installed on a card, fails to be and is removed, every installation has a context of its
own as long as there are any left; and whatever a context was granted that is gone, an applet
installed later is not admitted for it. -/
theorem context_never_recycled {host : σ} (hcard : Card.ofConfig config host = .ok card)
    (operations : List (Operation σ)) (changes : List ContextTable.Operation) :
    ContextTable.KeepsIdentity changes ∧ card.FoundsFresh operations :=
  ⟨ContextTable.keepsIdentity changes, foundsFresh hcard operations⟩

/-- A client that took an array is removed, an installation fails, and then an applet is installed
under the identifier of the client: it has a context of its own, which the array does not admit. -/
theorem context_never_recycled_granted :
    let config : Config := { atr := "3B" }
    let card : Card Unit := {
      config := config
      atr := [0x3B]
      platform := ⟨.empty config.quotas config.commitCapacity, .initial⟩
      registry := .empty config.maxApplets
      channels := .initial config.logicalChannels
      host := () }
    let server : Aid := ⟨[0xA0, 0, 0, 0, 1], by decide, by decide⟩
    let client : Aid := ⟨[0xA0, 0, 0, 0, 2], by decide, by decide⟩
    let offering : Factory Unit := fun _ ↦ do
      Code.register
      let array ← Code.allocate .persistent .byte 2
      Code.offer array 7 none
      return { process := Code.respond [] }
    let taking : Factory Unit := fun _ ↦ do
      Code.register
      let _ ← Code.shared server 7
      return { process := Code.respond [] }
    let failing : Factory Unit := fun _ ↦ Code.refuse .unknown
    let plain : Factory Unit := fun _ ↦ do
      Code.register
      return { process := Code.respond [] }
    let operations : List (Operation Unit) :=
      [.install server [] offering, .install client [] taking, .uninstall client,
        .install client [] failing]
    let changes : List ContextTable.Operation := [.create, .remove ⟨1⟩, .create]
    let region : Region := ⟨⟨1⟩, .persistent, .byte, 2, .zeroed .byte 2, [⟨2⟩]⟩
    Card.ofConfig config () = .ok card ∧ card.founded operations = [⟨1⟩, ⟨2⟩, ⟨3⟩] ∧
      (operations.foldl next card).platform.store.heap.find? 1 = some region ∧
      (operations.foldl next card).founded [.install client [] plain] = [⟨4⟩] ∧
      region.admits ⟨4⟩ = false ∧
      (ContextTable.initial.created changes).Nodup := by
  intro config card server client offering taking failing plain operations changes region
  have hvalid : config.validate = .ok () := by decide
  have hatr : config.readAtr = .ok [0x3B] := by decide
  have hcard : Card.ofConfig config () = .ok card := by rw [Card.ofConfig, hvalid, hatr]
  have hfounded : card.founded operations = [⟨1⟩, ⟨2⟩, ⟨3⟩] := by decide +kernel
  have hfind : (operations.foldl next card).platform.store.heap.find? 1 = some region := by
    decide +kernel
  have hlater : (operations.foldl next card).founded [.install client [] plain] = [⟨4⟩] := by
    decide +kernel
  obtain ⟨htable, hfresh⟩ := context_never_recycled hcard operations changes
  have hmem : ⟨4⟩ ∈ (operations.foldl next card).founded [.install client [] plain] := by
    rw [hlater]
    exact List.mem_singleton_self _
  have hforeign : region.admits ⟨4⟩ = false :=
    hfresh.ungranted 1 region hfind [.install client [] plain] ⟨4⟩ hmem
  exact ⟨hcard, hfounded, hfind, hlater, hforeign, htable.nodup⟩

end Card

end SmartCard
