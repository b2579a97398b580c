import SmartCard.Proofs.Applet.Transaction
import SmartCard.Proofs.Card.Residence

/-!
# Runs that leave an array to its applet

An applet whose factory has allocated an array, and offered it to nobody, is installed with the
array to itself (`Card.Reachable.exists_furnished`).

An operation permits an applet to do as it likes with an array if it does not remove the applet, and
if code that looks at memory leaves the array alone (`Card.Permits`). Whatever else it does, the
applet is not expelled in its stages, and nothing of the applet's own runs but its hooks for
deselection and selection, and its code for commands that reach it (`Card.overlooks_stages`). So
what an operation does to the array of an applet without such hooks is a matter of its code for
commands alone (`Card.Stage.Overlooks.spares`).
-/

set_option autoImplicit false
set_option relaxedAutoImplicit false

namespace SmartCard.Card

variable {σ : Type} {card : Card σ} {config : Config} {entry : Registration σ} {aid : Aid}
  {stage : Stage σ} {operation : Operation σ} {context : ContextId} {id : Nat}
  {harmless : Command → Bool → Prop}

/-- Whether an operation leaves it to an applet what becomes of an array: it does not remove the
applet, and code that looks at memory comes back and neither writes to the array nor offers it. -/
def Permits (card : Card σ) (aid : Aid) (id : Nat) : Operation σ → Prop
  | .uninstall other => other ≠ aid
  | .inspect other program => card.Returns (.inspect other program) ∧
      ∀ piece ∈ card.inspectPieces other program, ∀ call ∈ piece.calls, call.Leaves id
  | _ => True

/-- Whether all operations of a run do so. -/
def Undisturbed (card : Card σ) (aid : Aid) (id : Nat) : List (Operation σ) → Prop
  | [] => True
  | operation :: rest =>
    card.Permits aid id operation ∧ (card.next operation).Undisturbed aid id rest

theorem Permits.returns {id : Nat} (hpermits : card.Permits aid id operation) :
    card.Returns operation := by
  cases operation with
  | inspect => exact hpermits.1
  | _ => trivial

/-- A card on which an applet has been installed is one that is reached. -/
theorem Reachable.installed {installed : Card σ} {data : List UInt8} {factory : Factory σ}
    {result : Except CardError ContextId} (hreach : card.Reachable)
    (hinstalled : card.install aid data factory = (result, installed)) : installed.Reachable := by
  have hnext := @Reachable.next σ card hreach (.install aid data factory) trivial
  rw [Card.next, hinstalled] at hnext
  exact hnext

/-! ### An applet that is installed with an array -/

/-- Whether code that installs an applet has registered it, ends with nothing open, offers nobody
anything new, and has allocated an array, which is now as given. -/
structure Furnishes (first after : Session σ) (id : Nat) (region : Region) : Prop where
  fresh : first.platform.store.heap.nextId ≤ id
  idle : after.platform.store.transaction.isActive = false
  found : after.platform.store.heap.find? id = some region
  exports_eq : after.platform.contexts.exports = first.platform.contexts.exports
  registered_eq : after.install.bind (·.registered) = first.install.map (·.params.instanceAid)

/-- An applet that has been installed is what its factory has ended with. It has the identifier
asked for if the factory furnishes it with an array, and has the array to itself. -/
theorem Reachable.exists_furnished {installed : Card σ} {data : List UInt8} {factory : Factory σ}
    (hreach : card.Reachable)
    (hinstalled : card.install aid data factory = (.ok context, installed)) :
    ∃ (params : InstallParams) (applet : Applet σ) (first after : Session σ),
      params.appletData = data ∧ first.platform.store = card.platform.store ∧
      first.platform.store.transaction.isActive = false ∧ first.context = context ∧
      first.play (factory params) = (.value (.ok applet), after) ∧
      ∀ {id region}, Furnishes first after id region → ∃ entry ∈ installed.registry.entries,
        entry.aid = aid ∧ entry.context = context ∧ entry.applet = applet ∧
        installed.platform.Keeps id region := by
  obtain ⟨config, hcoheres⟩ := hreach.exists_coheres
  obtain ⟨params, contexts, registered, applet, hadmitted, hcreate, hbuilt, hafter⟩ :=
    hcoheres.install_eq_ok hinstalled
  obtain ⟨-, haid, hdata⟩ := admitInstall_eq_ok hadmitted
  obtain ⟨-, hcontexts⟩ := ContextTable.create_eq_some hcreate
  refine ⟨params, applet, (card.factoryPiece context contexts params factory).start,
    (card.factoryPiece context contexts params factory).stop, hdata, rfl,
    Store.depth_eq_zero_iff.mp hreach.rests.depth_eq, rfl, run_of_build hbuilt,
    fun {id region} hfurnishes ↦
      ⟨⟨registered, context, params, applet⟩, ?_, ?_, rfl, rfl, ?_⟩⟩
  · rw [hafter]
    exact List.mem_append_right _ List.mem_cons_self
  · have hregistered := registered_of_build hbuilt
    rw [hfurnishes.registered_eq] at hregistered
    exact (Option.some.inj hregistered).symm.trans haid
  · have hsettled : installed.platform =
        (card.factoryPiece context contexts params factory).stop.platform := by
      rw [hafter]
      exact congrArg (Platform.mk · _) (Store.settle_of_idle hfurnishes.idle)
    obtain ⟨history, hbacked⟩ := hreach.exists_backed
    refine ⟨(hreach.installed hinstalled).rests.keeps (hsettled ▸ hfurnishes.found), ?_⟩
    -- whatever has been offered so far is older than the array
    intro offered hoffered
    have hold : offered ∈ card.platform.contexts.exports := by
      rw [hsettled, hfurnishes.exports_eq] at hoffered
      subst hcontexts
      exact hoffered
    exact Nat.ne_of_lt (Nat.lt_of_lt_of_le (hbacked.lt_nextId offered hold) hfurnishes.fresh)

/-! ### Stages of a permitted operation -/

/-- Whether a stage does not expel the applet in a context, looks at an array but to read it, and
leaves no command to the applet but harmless ones. -/
def Stage.Overlooks (card : Card σ) (context : ContextId) (id : Nat)
    (harmless : Command → Bool → Prop) : Stage σ → Prop
  | .handle other command selecting => other = context → harmless command selecting
  | .expel other => other.context ≠ context
  | .inspect aid program =>
    ∀ piece ∈ card.inspectPieces aid program, ∀ call ∈ piece.calls, call.Leaves id
  | _ => True

theorem Stage.Overlooks.of_isRouting (hrouting : stage.isRouting = true) :
    stage.Overlooks card context id harmless := by
  cases stage with
  | wait | reserve | shut | leave | enter => trivial
  | _ => cases hrouting

/-- A stage that overlooks an applet with nothing but code for commands spares an array if this code
does wherever a command is harmless. -/
theorem Stage.Overlooks.spares {code : Handler σ Unit} {multiple : Bool} {region : Region}
    (hoverlooks : stage.Overlooks card entry.context id harmless)
    (happlet : entry.applet = { process := code, multiSelectable := multiple })
    (hprocess : ∀ {command selecting}, harmless command selecting → ∀ session bufferSize,
      SparedBy id region
        (.handler session (Exchange.start command bufferSize selecting) code.run)) :
    stage.Spares card entry id region where
  stays := by
    rintro other rfl
    exact hoverlooks
  spares := by
    intro piece hruns hpiece hkeeps
    cases hruns with
    | deselect | select | uninstall =>
      rw [happlet]
      exact hkeeps
    | process command selecting session bufferSize =>
      rw [happlet]
      exact hprocess (hoverlooks rfl) session bufferSize hkeeps
    | inspect aid program session => exact Piece.keeps_stop hkeeps (hoverlooks _ hpiece)

/-- An operation that is permitted, and leaves no command to an applet but harmless ones, goes
through stages that overlook it. -/
theorem overlooks_stages (hentry : entry ∈ card.registry.entries) (hcoheres : card.Coheres config)
    (hpermits : card.Permits entry.aid id operation)
    (hharmless : ∀ {raw command selecting}, operation = .transmit raw →
      Command.parse raw card.config.extendedLength = .ok command →
      (card.route command).1 = .ok (.handled entry.context selecting) →
      harmless command selecting) :
    ∀ scene ∈ along card (card.stages operation),
      scene.2.Overlooks scene.1 entry.context id harmless := by
  rintro ⟨before, stage⟩ hscene
  cases comprises_of_mem (mem_of_mem_along hscene) with
  | routing hrouting => exact .of_isRouting hrouting
  | handle hparse hroute =>
    rintro rfl
    exact hharmless rfl hparse hroute
  | @expel other found hfound =>
    -- contexts are not shared, so an applet expelled in this one has this identifier
    intro hcontext
    have hsame := List.inj_on_of_nodup_map hcoheres.nodup_contexts
      (List.mem_of_find?_eq_some hfound) hentry hcontext
    have hbytes := List.find?_some hfound
    exact hpermits (hsame ▸ Aid.ext_bytes (eq_of_beq hbytes).symm)
  | inspect other program =>
    obtain ⟨rfl, -⟩ := Prod.mk.inj (List.mem_singleton.mp hscene)
    exact hpermits.2
  | install | reset | armTear | disarmTear | setHost => trivial

end SmartCard.Card
