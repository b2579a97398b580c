import SmartCard.Proofs.Applet.Call
import SmartCard.Proofs.Applet.Purse

/-!
# Opening a purse

The code that installs a purse allocates its array, stores the opening balance that stands in the
data of the installation, if one does, and registers. If it succeeds, the array is a new one that
keeps the opening balance, with no payments made, and nobody is offered anything new
(`Purse.play_install`).
-/

set_option autoImplicit false
set_option relaxedAutoImplicit false

namespace SmartCard

/-! ### Allocating and registering -/

namespace Session

variable {σ α β : Type} {session after : Session σ}

/-- Code made of two parts succeeds if both do, one after the other. -/
theorem play_bind_eq_ok {code : Hook σ α} {next : α → Hook σ β} {result : β}
    (hplay : session.play (code >>= next) = (.value (.ok result), after)) :
    ∃ value middle, session.play code = (.value (.ok value), middle) ∧
      middle.play (next value) = (.value (.ok result), after) := by
  rw [play_bind] at hplay
  cases hcode : session.play code with
  | mk ending middle =>
    rw [hcode] at hplay
    obtain (error | value) | text := ending
    · cases hplay
    · exact ⟨value, middle, rfl, hplay⟩
    · cases hplay

/-- An allocation that succeeds gives a fresh array that takes the next number. -/
theorem play_allocate_of_ok {lifetime : Lifetime} {kind : ElementKind} {length : Nat}
    {array : ArrayRef}
    (hplay : session.play (Code.allocate lifetime kind length) = (.value (.ok array), after)) :
    array = ⟨session.platform.store.heap.nextId, session.context⟩ ∧
      after = session.withStore
        (session.platform.store.allocate session.context lifetime kind length).2 ∧
      after.platform.store =
        ⟨session.platform.store.heap.insert (.fresh session.context lifetime kind length),
          session.platform.store.transaction.noteAllocation
            session.platform.store.heap.nextId⟩ := by
  have hanswer : session.play (Code.allocate lifetime kind length) =
      session.allocate lifetime kind length := by
    have hservice : answer (.allocate lifetime kind length) session =
        session.allocate lifetime kind length := rfl
    change @Program.run (services σ) _ _ answer (.call (.allocate lifetime kind length) .done)
      session = _
    rw [Program.run, hservice]
    generalize session.allocate lifetime kind length = outcome
    obtain ⟨_ | _, after⟩ := outcome <;> rfl
  rw [hanswer, allocate, Store.allocate] at hplay
  rw [Store.allocate]
  rcases session.platform.store.heap.allocate_cases session.context lifetime kind length with
    ⟨error, h⟩ | ⟨text, h⟩ | h
  · rw [h] at hplay
    cases hplay
  · rw [h] at hplay
    cases hplay
  · rw [h] at hplay ⊢
    obtain ⟨harray, rfl⟩ := Prod.mk.inj hplay
    exact ⟨(Except.ok.inj (Ending.value.inj harray)).symm, rfl, rfl⟩

/-- Registering under the identifier that the installer gave touches neither memory nor exports. -/
theorem play_register_of_ok {value result : α}
    (hplay : session.play (do Code.register; return value) = (.value (.ok result), after)) :
    result = value ∧ after.platform.store = session.platform.store ∧
      after.platform.contexts.exports = session.platform.contexts.exports ∧
      after.install.bind (·.registered) = session.install.map (·.params.instanceAid) := by
  obtain ⟨registered, middle, hregister, hreturn⟩ := play_bind_eq_ok hplay
  obtain ⟨hdone, hmiddle⟩ : Ending.value session.register.1 = .value (.ok registered) ∧
    session.register.2 = middle := Prod.mk.inj hregister
  have hok : session.register.1 = .ok registered := Ending.value.inj hdone
  cases hreturn
  subst hmiddle
  unfold register at hok ⊢
  cases hinstall : session.install with
  | none =>
    rw [hinstall] at hok
    cases hok
  | some scope =>
    rw [hinstall] at hok
    dsimp only at hok ⊢
    unfold registerAs at hok ⊢
    rw [hinstall] at hok ⊢
    dsimp only at hok ⊢
    split at hok
    · cases hok
    · split at hok
      · cases hok
      · rw [if_neg ‹_›]
        exact ⟨rfl, rfl, rfl, rfl⟩

end Session

namespace Purse

variable {σ : Type} {session after : Session σ} {params : InstallParams} {applet : Applet σ}

/-- The opening balance in the data of an installation: none unless the data are two bytes. -/
def opening : List UInt8 → Int16
  | [high, low] => short high low
  | _ => 0

/-- The purse with the array that a heap will give next. -/
def upcoming (heap : Heap) (context : ContextId) : Purse :=
  ⟨⟨heap.nextId, context⟩⟩

/-- What code that installs a purse has done when it succeeds: there is a new array with the opening
balance, which is not negative, no transaction is open, and nobody is offered anything new. -/
structure Opens (session : Session σ) (params : InstallParams) (applet : Applet σ)
    (after : Session σ) : Prop where
  applet_eq : applet = (upcoming session.platform.store.heap session.context).applet
  opening_nonneg : 0 ≤ (opening params.appletData).toInt
  idle : after.platform.store.transaction.isActive = false
  found : after.platform.store.heap.find? session.platform.store.heap.nextId =
    some (Numbers.region ⟨opening params.appletData, 0, 0⟩ session.context)
  exports_eq : after.platform.contexts.exports = session.platform.contexts.exports
  registered_eq : after.install.bind (·.registered) = session.install.map (·.params.instanceAid)

/-- Storing a balance in a new array. -/
theorem play_setBalance_of_ok {purse : Purse} {balance : Int16}
    (hstore : session.platform.store.WellFormed)
    (hfind : session.platform.store.heap.find? purse.state.id =
      some (Numbers.region ⟨0, 0, 0⟩ session.context))
    (hplay : session.play (Code.setShort purse.state balanceIndex balance) =
      (.value (.ok ()), after)) :
    after = session.withStore after.platform.store ∧
      after.platform.store.transaction.isActive = session.platform.store.transaction.isActive ∧
      after.platform.store.heap.find? purse.state.id =
        some (Numbers.region ⟨balance, 0, 0⟩ session.context) := by
  have hwrite := session.play_write (.element purse.state .short balanceIndex balance)
  obtain ⟨hdone, rfl⟩ := Prod.mk.inj (hwrite.symm.trans hplay)
  refine ⟨rfl, Store.isActive_perform hstore session.context _, ?_⟩
  have hok : (session.platform.store.perform session.context
      (.element purse.state .short balanceIndex balance)).1 = .ok () := by
    generalize (session.platform.store.perform session.context _).1 = result at hdone ⊢
    cases result with
    | error error => cases hdone
    | ok done => rfl
  have haccess : session.platform.store.accessFor session.context
      (.element purse.state .short balanceIndex balance) =
        .ok (Numbers.region ⟨0, 0, 0⟩ session.context) :=
    access_region hfind (by decide : balanceIndex < 3)
  change (session.platform.store.perform session.context _).2.heap.find? _ = _
  rw [Store.heap_perform haccess hok, find?_applied hfind]
  simp only [Numbers.region, Numbers.bytes, shortBytes_eq]
  rfl

/-- Code that installs a purse does just this, if it succeeds. -/
theorem play_install (hstore : session.platform.store.WellFormed)
    (hidle : session.platform.store.transaction.isActive = false)
    (hplay : session.play (Purse.install params) = (.value (.ok applet), after)) :
    Opens session params applet after := by
  obtain ⟨array, allocated, hallocate, hplay⟩ := Session.play_bind_eq_ok hplay
  obtain ⟨rfl, hallocated, hmade⟩ := Session.play_allocate_of_ok hallocate
  have hcontext : allocated.context = session.context := by
    rw [hallocated]
    rfl
  have hactive : allocated.platform.store.transaction.isActive = false := by
    rw [hmade, Transaction.noteAllocation, hidle]
    exact hidle
  have hfresh : allocated.platform.store.heap.find? session.platform.store.heap.nextId =
      some (Numbers.region ⟨0, 0, 0⟩ allocated.context) := by
    rw [hmade, hcontext, region_zero]
    exact (Heap.find?_insert session.platform.store.heap _ _).trans (if_pos rfl)
  -- whether a balance is stored or not, the code goes on by registering
  obtain ⟨stored, hsign, hstored, hstill, hfind, hregister⟩ : ∃ stored : Session σ,
      0 ≤ (opening params.appletData).toInt ∧
      stored = allocated.withStore stored.platform.store ∧
      stored.platform.store.transaction.isActive = false ∧
      stored.platform.store.heap.find? session.platform.store.heap.nextId =
        some (Numbers.region ⟨opening params.appletData, 0, 0⟩ allocated.context) ∧
      stored.play (do
        Code.register
        return (upcoming session.platform.store.heap session.context).applet) =
          (.value (.ok applet), after) := by
    generalize params.appletData = data at hplay ⊢
    obtain _ | ⟨high, _ | ⟨low, _ | ⟨other, rest⟩⟩⟩ := data
    · exact ⟨allocated, Int.le_refl 0, rfl, hactive, hfresh, hplay⟩
    · exact ⟨allocated, Int.le_refl 0, rfl, hactive, hfresh, hplay⟩
    · dsimp only at hplay
      split at hplay
      · cases hplay
      · rename_i hsign
        obtain ⟨done, stored, hset, hregister⟩ := Session.play_bind_eq_ok hplay
        have hwellFormed : allocated.platform.store.WellFormed := by
          rw [hallocated]
          exact hstore.allocate session.context .persistent .short 3
        obtain ⟨hstored, hsame, hfind⟩ := @play_setBalance_of_ok _ allocated stored
          (upcoming session.platform.store.heap session.context) _ hwellFormed hfresh hset
        exact ⟨stored, Int.not_lt.mp hsign, hstored, hsame.trans hactive, hfind, hregister⟩
    · exact ⟨allocated, Int.le_refl 0, rfl, hactive, hfresh, hplay⟩
  obtain ⟨rfl, hsame, hexports, hregistered⟩ := Session.play_register_of_ok hregister
  rw [hstored, hallocated] at hexports hregistered
  constructor
  case applet_eq => rfl
  case opening_nonneg => exact hsign
  case idle => rw [hsame]; exact hstill
  case found => rw [hsame, ← hcontext]; exact hfind
  case exports_eq => exact hexports
  case registered_eq => exact hregistered

end Purse

end SmartCard
