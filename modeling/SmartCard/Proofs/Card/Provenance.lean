import SmartCard.Applet.Code
import SmartCard.Proofs.Card.Course
import SmartCard.Proofs.Context.Table
import SmartCard.Proofs.Memory.Lineage

/-!
# Where the right to use an array comes from

A context may use the arrays that it owns. To any other array it has come in one way only: the owner
has offered the array under a parameter, to everybody or to the applet with one identifier, and
later the context itself, bound to that identifier, has asked the owner for what it offers under
that parameter and was given the array (`IsShared`).

The history of a platform is the calls that all code has made so far. It backs the platform if every
export has an offer in it and every grant an offer and a later request (`Platform.IsBackedBy`).
Every call keeps this as the history grows by it, and so does everything that the card does by
itself. So in the trace of any run each access to an array is by the card, by the owner, or by a
context that the array was shared with before (`Card.access_of_shared`).
-/

set_option autoImplicit false
set_option relaxedAutoImplicit false

namespace SmartCard

/-! ### What calls do with an array -/

namespace Call

variable {σ : Type}

/-- Whether a context offers an array under a parameter, and the card takes the offer. -/
def Offers (call : Call σ) (server : ContextId) (parameter : UInt8) (id : Nat)
    (client : Option Aid) : Prop :=
  call.session.context = server ∧ ∃ array : ArrayRef, array.id = id ∧
    call.outcome = ⟨.offer array parameter client, .value (.ok ())⟩

/-- Whether a context asks an applet for what it offers under a parameter and is given an array. -/
def Receives (call : Call σ) (client : ContextId) (server : Aid) (parameter : UInt8) (id : Nat) :
    Prop :=
  call.session.context = client ∧ call.service = .shared server parameter ∧
    call.outcome.received? = some id

/-- Whether an array is live under a number when the call is made, but for contents and grants. -/
def Finds (call : Call σ) (id : Nat) (region : Region) : Prop :=
  ∃ former, call.session.platform.store.heap.find? id = some former ∧
    former.original = region.original

/-- Whoever offers an array owns it. -/
theorem Offers.owner_eq {call : Call σ} {server : ContextId} {parameter : UInt8} {id : Nat}
    {client : Option Aid} (hoffers : call.Offers server parameter id client) {region : Region}
    (hfinds : call.Finds id region) : region.owner = server := by
  obtain ⟨rfl, array, rfl, houtcome⟩ := hoffers
  obtain ⟨former, hformer, horiginal⟩ := hfinds
  obtain ⟨howner, -⟩ := Region.eq_of_original_eq horiginal
  obtain ⟨session, service⟩ := call
  obtain ⟨hservice, hanswer⟩ := Sigma.mk.inj houtcome
  dsimp only at hservice
  subst hservice
  have hoffered := Ending.value.inj (eq_of_heq hanswer)
  change (session.offer array parameter client).1 = _ at hoffered
  change session.platform.store.heap.find? array.id = _ at hformer
  rw [Session.offer, Heap.lookup, hformer] at hoffered
  dsimp only at hoffered
  by_contra hforeign
  rw [if_pos fun hown ↦ hforeign (howner.symm.trans hown)] at hoffered
  simp only [reduceCtorEq] at hoffered

/-- Whoever may use a range of an array is admitted to it. -/
private theorem admits_of_access {heap : Heap} {caller : ContextId} {array : ArrayRef}
    {kind : ElementKind} {index count : Nat}
    (haccess : ∃ region, heap.access caller array kind index count = .ok region) :
    ∃ region, heap.find? array.id = some region ∧ region.admits caller = true := by
  obtain ⟨region, haccess⟩ := haccess
  obtain ⟨hfind, hcheck⟩ := Heap.access_eq_ok_iff.mp haccess
  exact ⟨region, hfind, (Region.check_eq_ok_iff.mp hcheck).1⟩

/-- A reading that succeeds has been allowed. -/
private theorem access_of_reading {heap : Heap} {caller : ContextId} {array : ArrayRef}
    {kind : ElementKind} {index count : Nat} {α : Type} {result : Region → α}
    (hread : Outcome.succeeds (.value (((heap.access caller array kind index count).map
      result).mapError CardError.memory)) = true) :
    ∃ region, heap.access caller array kind index count = .ok region := by
  cases haccess : heap.access caller array kind index count with
  | error error =>
    rw [haccess] at hread
    exact Bool.noConfusion hread
  | ok region => exact ⟨region, rfl⟩

/-- A write that succeeds has been allowed. -/
private theorem access_of_put {store : Store} {caller : ContextId} {array : ArrayRef}
    {kind : ElementKind} {index count : Nat} {patch : Unit → Cells}
    (hput : Outcome.succeeds (.value ((store.put caller array kind index count patch).1.mapError
      CardError.memory)) = true) :
    ∃ region, store.heap.access caller array kind index count = .ok region := by
  unfold Store.put at hput
  cases haccess : store.heap.access caller array kind index count with
  | error error =>
    rw [haccess] at hput
    exact Bool.noConfusion hput
  | ok region => exact ⟨region, rfl⟩

/-- Whoever accesses an array is admitted to it. -/
theorem exists_admits {call : Call σ} {id : Nat} (haccess : call.outcome.accessed? = some id) :
    ∃ region, call.session.platform.store.heap.find? id = some region ∧
      region.admits call.session.context = true := by
  obtain ⟨session, service⟩ := call
  have hif : ∀ {succeeded : Bool} {array : ArrayRef},
      (if succeeded = true then some array.id else none) = some id →
        succeeded = true ∧ array.id = id := by
    intro succeeded array hsome
    split at hsome
    · exact ⟨‹_›, Option.some_inj.mp hsome⟩
    · exact nomatch hsome
  cases service with
  | get kind array index =>
    obtain ⟨hanswer, rfl⟩ := hif haccess
    exact admits_of_access (access_of_reading hanswer)
  | read array offset length =>
    obtain ⟨hanswer, rfl⟩ := hif haccess
    exact admits_of_access (access_of_reading hanswer)
  | set kind array index value =>
    obtain ⟨hanswer, rfl⟩ := hif haccess
    exact admits_of_access (access_of_put hanswer)
  | write array offset bytes =>
    obtain ⟨hanswer, rfl⟩ := hif haccess
    exact admits_of_access (access_of_put hanswer)
  | fill array offset length value =>
    obtain ⟨hanswer, rfl⟩ := hif haccess
    exact admits_of_access (access_of_put hanswer)
  | _ => exact nomatch haccess

end Call

/-! ### Sharing in a history -/

section History

variable {σ : Type}

/-- Whether the history of calls holds an offer of an array by a context. -/
def IsOffered (history : List (Call σ)) (server : ContextId) (parameter : UInt8) (id : Nat)
    (client : Option Aid) (region : Region) : Prop :=
  ∃ first offering last, history = first ++ offering :: last ∧
    offering.Offers server parameter id client ∧ offering.Finds id region

/-- Whether in a history of calls the owner of an array has offered it and later a client has asked
for it and was given it: the client that the offer was meant for, by a request to the applet bound
to the owner's context under the parameter of the offer. -/
def IsShared (history : List (Call σ)) (id : Nat) (region : Region) (client : ContextId) : Prop :=
  ∃ first offering middle asking last parameter restriction server,
    history = first ++ offering :: (middle ++ asking :: last) ∧
    offering.Offers region.owner parameter id restriction ∧ offering.Finds id region ∧
    asking.Receives client server parameter id ∧ asking.Finds id region ∧
    asking.session.platform.contexts.aidOf region.owner = some server ∧
    ∀ aid, restriction = some aid → asking.session.platform.contexts.aidOf client = some aid

theorem IsShared.append {history : List (Call σ)} {id : Nat} {region : Region}
    {client : ContextId} (hshared : IsShared history id region client) (more : List (Call σ)) :
    IsShared (history ++ more) id region client := by
  obtain ⟨first, offering, middle, asking, last, parameter, restriction, server, rfl, hrest⟩ :=
    hshared
  refine ⟨first, offering, middle, asking, last ++ more, parameter, restriction, server, ?_, hrest⟩
  simp only [List.append_assoc, List.cons_append]

theorem IsShared.of_original {history : List (Call σ)} {id : Nat} {former region : Region}
    {client : ContextId} (hshared : IsShared history id former client)
    (horiginal : former.original = region.original) : IsShared history id region client := by
  obtain ⟨first, offering, middle, asking, last, parameter, restriction, server, hhistory, hoffers,
    ⟨offered, hoffered, hsame⟩, hreceives, ⟨asked, hasked, hsame'⟩, hserver, hrestriction⟩ :=
    hshared
  obtain ⟨howner, -⟩ := Region.eq_of_original_eq horiginal
  rw [howner] at hoffers hserver
  exact ⟨first, offering, middle, asking, last, parameter, restriction, server, hhistory, hoffers,
    ⟨offered, hoffered, hsame.trans horiginal⟩, hreceives,
    ⟨asked, hasked, hsame'.trans horiginal⟩, hserver, hrestriction⟩

end History

/-- Whether every export of a platform goes back to an offer in the history, every grant to an offer
and a later request, and every access in the history to a right that was there before. -/
structure Platform.IsBackedBy {σ : Type} (platform : Platform) (history : List (Call σ)) :
    Prop where
  store : platform.store.WellFormed
  contexts : platform.contexts.WellFormed
  lt_nextId : ∀ entry ∈ platform.contexts.exports,
    entry.2.array.id < platform.store.heap.nextId
  offered : ∀ entry ∈ platform.contexts.exports, ∀ region,
    platform.store.heap.find? entry.2.array.id = some region →
      IsOffered history entry.1.1 entry.1.2 entry.2.array.id entry.2.client region
  shared : ∀ {id region}, platform.store.heap.find? id = some region →
    ∀ client ∈ region.grants, IsShared history id region client
  allowed : ∀ {before call after}, history = before ++ call :: after → ∀ {id},
    call.outcome.accessed? = some id → ∃ region,
      call.session.platform.store.heap.find? id = some region ∧
      (call.session.context = .system ∨ call.session.context = region.owner ∨
        IsShared before id region call.session.context)

namespace Platform.IsBackedBy

variable {σ : Type} {platform : Platform} {history : List (Call σ)}

/-- An operation on memory that grants an array only if it has been shared. -/
theorem next (hbacked : platform.IsBackedBy history) {operation : Store.Operation}
    (hgrant : ∀ {id client region}, operation = .grant id client →
      platform.store.heap.find? id = some region → IsShared history id region client) :
    IsBackedBy { platform with store := platform.store.next operation } history where
  store := hbacked.store.next operation
  contexts := hbacked.contexts
  lt_nextId := fun entry hentry ↦
    Nat.lt_of_lt_of_le (hbacked.lt_nextId entry hentry) (hbacked.store.nextId_le_next operation)
  offered := by
    intro entry hentry region hfind
    cases Store.lineage_next hbacked.store hfind with
    | kept hformer horiginal _ =>
      obtain ⟨first, offering, last, hhistory, hoffers, former, hfound, hsame⟩ :=
        hbacked.offered entry hentry _ hformer
      exact ⟨first, offering, last, hhistory, hoffers, former, hfound, hsame.trans horiginal⟩
    | made _ hid _ => exact absurd (hbacked.lt_nextId entry hentry) (hid ▸ Nat.lt_irrefl _)
  shared := by
    intro id region hfind client hclient
    cases Store.lineage_next hbacked.store hfind with
    | kept hformer horiginal hgrants =>
      refine IsShared.of_original ?_ horiginal
      rcases hgrants client hclient with hold | hnew
      · exact hbacked.shared hformer client hold
      · exact hgrant hnew hformer
    | made _ _ hregion =>
      rw [hregion] at hclient
      exact nomatch hclient
  allowed := hbacked.allowed

/-- The upkeep of memory grants nothing. -/
theorem upkeep (hbacked : platform.IsBackedBy history) {operation : Store.Operation}
    (hupkeep : operation.isUpkeep = true) :
    IsBackedBy { platform with store := platform.store.next operation } history := by
  refine hbacked.next fun hoperation _ ↦ ?_
  rw [hoperation] at hupkeep
  exact Bool.noConfusion hupkeep

/-- Another table of contexts with no new exports. -/
theorem withContexts (hbacked : platform.IsBackedBy history) {contexts : ContextTable}
    (hcontexts : contexts.WellFormed)
    (hexports : ∀ entry ∈ contexts.exports, entry ∈ platform.contexts.exports) :
    IsBackedBy { platform with contexts } history where
  store := hbacked.store
  contexts := hcontexts
  lt_nextId := fun entry hentry ↦ hbacked.lt_nextId entry (hexports entry hentry)
  offered := fun entry hentry ↦ hbacked.offered entry (hexports entry hentry)
  shared := hbacked.shared
  allowed := hbacked.allowed

/-- A context removed with its arrays. -/
theorem discard (hbacked : platform.IsBackedBy history) (context : ContextId) :
    IsBackedBy
      { store := { platform.store with heap := platform.store.heap.releaseOwnedBy context }
        contexts := platform.contexts.remove context } history := by
  have hreleased : IsBackedBy
      { platform with store := platform.store.next (.releaseOwnedBy context) } history :=
    hbacked.next fun hoperation _ ↦ nomatch hoperation
  refine hreleased.withContexts (hbacked.contexts.remove context) fun entry hentry ↦ ?_
  unfold ContextTable.remove at hentry
  split at hentry
  · exact hentry
  · exact (List.mem_filter.mp hentry).1

end Platform.IsBackedBy

/-! ### A call -/

namespace Call

variable {σ : Type} {call : Call σ} {history : List (Call σ)}

/-- An access is allowed by what backs the platform. -/
theorem allowed_of_accesses (hbacked : call.session.platform.IsBackedBy history) {id : Nat}
    (haccess : call.outcome.accessed? = some id) :
    ∃ region, call.session.platform.store.heap.find? id = some region ∧
      (call.session.context = .system ∨ call.session.context = region.owner ∨
        IsShared history id region call.session.context) := by
  obtain ⟨region, hfind, hadmits⟩ := exists_admits haccess
  refine ⟨region, hfind, ?_⟩
  rw [Region.admits, Bool.or_eq_true, Bool.or_eq_true] at hadmits
  rcases hadmits with (hsystem | howner) | hgranted
  · exact .inl (eq_of_beq hsystem)
  · exact .inr (.inl (eq_of_beq howner))
  · exact .inr (.inr (hbacked.shared hfind _ (List.contains_iff_mem.mp hgranted)))

/-- The history may grow by the call. -/
theorem backed_append (hbacked : call.session.platform.IsBackedBy history) :
    call.session.platform.IsBackedBy (history ++ [call]) where
  store := hbacked.store
  contexts := hbacked.contexts
  lt_nextId := hbacked.lt_nextId
  offered := by
    intro entry hentry region hfind
    obtain ⟨first, offering, last, rfl, hrest⟩ := hbacked.offered entry hentry region hfind
    exact ⟨first, offering, last ++ [call], by simp, hrest⟩
  shared := fun hfind client hclient ↦ (hbacked.shared hfind client hclient).append [call]
  allowed := by
    intro before other after hsplit id haccess
    rcases List.eq_nil_or_concat after with rfl | ⟨rest, final, rfl⟩
    · obtain ⟨rfl, hcall⟩ := List.append_inj' hsplit rfl
      obtain rfl := List.singleton_inj.mp hcall
      exact allowed_of_accesses hbacked haccess
    · rw [List.concat_eq_append, ← List.cons_append, ← List.append_assoc] at hsplit
      obtain ⟨rfl, -⟩ := List.append_inj' hsplit rfl
      exact hbacked.allowed rfl haccess

/-- What a call grants has been offered before, and the call is the request for it. -/
theorem isShared_of_grant (hbacked : call.session.platform.IsBackedBy history) {id : Nat}
    {client : ContextId} {region : Region}
    (hoperation : call.session.operation? call.service = some (.grant id client))
    (hfind : call.session.platform.store.heap.find? id = some region) :
    IsShared (history ++ [call]) id region client := by
  obtain ⟨session, service⟩ := call
  obtain ⟨server, parameter, array, hservice, hoffered, rfl, rfl⟩ :=
    Session.shared_of_operation? hoperation
  dsimp only at hservice
  subst hservice
  obtain ⟨context, hfound, hlookup⟩ := Option.bind_eq_some_iff.mp hoffered
  obtain ⟨restriction, hexport, hrestriction⟩ := ContextTable.mem_of_lookupExport hlookup
  obtain ⟨first, offering, last, rfl, hoffers, hfinds⟩ := hbacked.offered _ hexport region hfind
  have howner := hoffers.owner_eq hfinds
  have hlive : session.platform.store.heap.isLive array.id = true := by
    rw [Heap.isLive, hfind]
    rfl
  refine ⟨first, offering, last, _, [], parameter, restriction, server, ?_, ?_, hfinds,
    ⟨rfl, rfl, Session.received?_shared hoffered hlive⟩, ⟨region, hfind, rfl⟩, ?_, hrestriction⟩
  · rw [List.append_assoc, List.cons_append]
  · rw [howner]
    exact hoffers
  · rw [howner]
    exact hbacked.contexts.aidOf_of_findByAid hfound

/-- Every call is backed by the history with it. -/
theorem backed_after (hbacked : call.session.platform.IsBackedBy history) :
    call.after.platform.IsBackedBy (history ++ [call]) := by
  have hgrown := backed_append hbacked
  obtain ⟨session, service⟩ := call
  have heffect := session.effect_answer service
  unfold after
  dsimp only at hgrown ⊢
  generalize (Session.answer service session).2 = later at heffect
  cases heffect with
  | idle => exact hgrown
  | told => exact hgrown
  | stored hoperation =>
    refine hgrown.next fun hgrant hfind ↦ ?_
    exact isShared_of_grant hbacked (hoperation.trans (congrArg some hgrant)) hfind
  | registered _ _ _ => exact hgrown.withContexts (hgrown.contexts.bind _ _) fun _ hentry ↦ hentry
  | @offered array parameter client region hfind howner hanswer =>
    constructor
    · exact hgrown.store
    · exact hgrown.contexts.offer _ _ _ _
    · intro entry hentry
      rcases List.mem_cons.mp hentry with rfl | hold
      · exact hgrown.store.heap.lt_nextId hfind
      · exact hgrown.lt_nextId entry (List.mem_filter.mp hold).1
    · intro entry hentry found hfound
      rcases List.mem_cons.mp hentry with rfl | hold
      · exact ⟨history, _, [], rfl, ⟨rfl, array, rfl, congrArg (Sigma.mk _) hanswer⟩,
          found, hfound, rfl⟩
      · exact hgrown.offered entry (List.mem_filter.mp hold).1 found hfound
    · exact hgrown.shared
    · exact hgrown.allowed

end Call

/-! ### Whole runs -/

namespace Card

variable {σ : Type} {card after : Card σ} {history : List (Call σ)}

/-- A piece of code is backed by the history with its calls. -/
theorem backed_stop {piece : Piece σ} (hbacked : piece.start.platform.IsBackedBy history) :
    piece.stop.platform.IsBackedBy (history ++ piece.calls) :=
  @Piece.induction σ (fun made session ↦ session.platform.IsBackedBy made)
    (fun _ _ hmade ↦ Call.backed_after hmade) piece history hbacked

/-- The code of an installation, once what it leaves open is undone. -/
theorem backed_installed (hbacked : card.platform.IsBackedBy history) {context : ContextId}
    {contexts : ContextTable} {piece : Piece σ}
    (hcreate : card.platform.contexts.create = some (context, contexts))
    (hstart : piece.start.platform = { card.platform with contexts }) :
    (card.resume piece).settle.platform.IsBackedBy (history ++ piece.calls) := by
  have hcreated : piece.start.platform.IsBackedBy history := by
    rw [hstart]
    refine hbacked.withContexts (hbacked.contexts.create hcreate) fun entry hentry ↦ ?_
    obtain ⟨rfl, rfl⟩ := ContextTable.create_eq_some hcreate
    exact hentry
  exact @Platform.IsBackedBy.upkeep _ _ _ (backed_stop hcreated) .abort rfl

/-- What happens to a card step by step is backed by the history with the calls of its code. -/
theorem Course.backed {pieces : List (Piece σ)} (hcourse : Course card pieces after) :
    ∀ {history}, card.platform.IsBackedBy history →
      after.platform.IsBackedBy (history ++ pieces.flatMap Piece.calls) := by
  have hsingle : ∀ piece : Piece σ, [piece].flatMap Piece.calls = piece.calls :=
    fun piece ↦ List.append_nil piece.calls
  induction hcourse with
  | refl card =>
    intro history hbacked
    rwa [List.flatMap_nil, List.append_nil]
  | trans _ _ ihfirst ihsecond =>
    intro history hbacked
    rw [List.flatMap_append, ← List.append_assoc]
    exact ihsecond (ihfirst hbacked)
  | upkeep card hupkeep =>
    intro history hbacked
    rw [List.flatMap_nil, List.append_nil]
    exact hbacked.upkeep hupkeep
  | told card host =>
    intro history hbacked
    rwa [List.flatMap_nil, List.append_nil]
  | rearrange hchange =>
    intro history hbacked
    rwa [List.flatMap_nil, List.append_nil]
  | run hentry hcontext hplatform hinstall =>
    intro history hbacked
    rw [hsingle]
    exact backed_stop (hplatform ▸ hbacked)
  | abandon hcreate hstart =>
    intro history hbacked
    rw [hsingle]
    exact (backed_installed hbacked hcreate (congrArg Session.platform hstart)).discard _
  | install hcreate hstart hregistered hinsert =>
    intro history hbacked
    rw [hsingle]
    exact backed_installed hbacked hcreate (congrArg Session.platform hstart)
  | remove hentry hidle =>
    intro history hbacked
    rw [List.flatMap_nil, List.append_nil]
    exact hbacked.discard _

/-- A run of operations is backed by the history with its trace. -/
theorem backed_foldl (hbacked : card.platform.IsBackedBy history)
    (operations : List (Operation σ)) :
    (operations.foldl Card.next card).platform.IsBackedBy (history ++ card.trace operations) := by
  induction operations generalizing card history with
  | nil => rwa [trace, List.append_nil]
  | cons operation rest ih =>
    rw [trace, ← List.append_assoc]
    exact ih ((card.course_next operation).backed hbacked)

/-- A card powered up needs no history. -/
theorem backed_ofConfig {config : Config} {host : σ}
    (hcard : Card.ofConfig config host = .ok card) :
    card.platform.IsBackedBy ([] : List (Call σ)) := by
  obtain ⟨atr, -, rfl⟩ := eq_of_ofConfig hcard
  exact ⟨Store.wellFormed_empty _ _, ContextTable.wellFormed_initial, nofun, nofun, nofun,
    fun hsplit ↦
      absurd hsplit.symm (List.append_ne_nil_of_right_ne_nil _ (List.cons_ne_nil _ _))⟩

/-- Every card reached has a history that backs it. -/
theorem Reachable.exists_backed (hreach : card.Reachable) :
    ∃ history : List (Call σ), card.platform.IsBackedBy history := by
  induction hreach with
  | ofConfig hcard => exact ⟨[], backed_ofConfig hcard⟩
  | next _ _ ih =>
    obtain ⟨history, hbacked⟩ := ih
    exact ⟨_, (course_next _ _).backed hbacked⟩

/-- In every run of every card, whoever reads or writes an array is the card itself, or its owner,
or a context that the array has been shared with before. -/
theorem access_of_shared {config : Config} {host : σ} (hcard : Card.ofConfig config host = .ok card)
    {operations : List (Operation σ)} {before after : List (Call σ)} {call : Call σ}
    (htrace : card.trace operations = before ++ call :: after) {id : Nat}
    (haccess : call.outcome.accessed? = some id) :
    ∃ region, call.session.platform.store.heap.find? id = some region ∧
      (call.session.context = .system ∨ call.session.context = region.owner ∨
        IsShared before id region call.session.context) := by
  exact (backed_foldl (backed_ofConfig hcard) operations).allowed htrace haccess

/-- An array offered to one applet, which reads it while it is being installed. -/
theorem access_of_shared_installing :
    let config : Config := { atr := "3B" }
    let card : Card Unit := {
      config := config
      atr := [0x3B]
      platform := ⟨.empty config.quotas config.commitCapacity, .initial⟩
      registry := .empty config.maxApplets
      channels := .initial config.logicalChannels
      host := () }
    let server : Aid := ⟨[0xA0, 0, 0, 0, 1], by decide, by decide⟩
    let client : Aid := ⟨[0xA0, 0, 0, 0, 2], by decide, by decide⟩
    let applet : Applet Unit := { process := Code.refuse .noError }
    let serving : Factory Unit := fun _ ↦ do
      let array ← Code.allocate .persistent .byte 4
      Code.offer array 7 (some client)
      Code.register
      return applet
    let asking : Factory Unit := fun _ ↦ do
      Code.register
      match ← Code.shared server 7 with
      | none => Code.refuse .noError
      | some array =>
        let _ ← Code.getByte array 0
        return applet
    let trace := card.trace [.install server [] serving, .install client [] asking]
    ∃ before call region, (Card.ofConfig config () = .ok card ∧ trace = before ++ [call] ∧
        call.outcome.accessed? = some 1) ∧
      call.session.platform.store.heap.find? 1 = some region ∧
      call.session.context ≠ .system ∧ call.session.context ≠ region.owner ∧
      IsShared before 1 region call.session.context := by
  intro config card server client applet serving asking trace
  have hvalid : config.validate = .ok () := by decide
  have hatr : config.readAtr = .ok [0x3B] := by decide
  have hpowered : Card.ofConfig config () = .ok card := by
    rw [Card.ofConfig, hvalid, hatr]
  have hlast : trace.getLast?.bind (·.outcome.accessed?) = some 1 := by decide +kernel
  have hforeign : trace.getLast?.all (fun call ↦ call.session.context != .system &&
      (call.session.platform.store.heap.find? 1).all (call.session.context != ·.owner)) = true := by
    decide +kernel
  obtain ⟨call, hcall, haccess⟩ := Option.bind_eq_some_iff.mp hlast
  obtain ⟨before, htrace⟩ := List.getLast?_eq_some_iff.mp hcall
  obtain ⟨region, hfind, hright⟩ := access_of_shared hpowered htrace haccess
  rw [hcall, Option.all_some, hfind, Option.all_some, Bool.and_eq_true, bne_iff_ne, bne_iff_ne]
    at hforeign
  obtain ⟨hsystem, howner⟩ := hforeign
  exact ⟨before, call, region, ⟨hpowered, htrace, haccess⟩, hfind, hsystem, howner,
    (hright.resolve_left hsystem).resolve_left howner⟩

end Card

end SmartCard
