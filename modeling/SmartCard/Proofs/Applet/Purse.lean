import SmartCard.Proofs.Applet.Payment
import SmartCard.Proofs.Applet.Receiving
import SmartCard.Proofs.Memory.Lineage
import SmartCard.Proofs.Memory.Tearing

/-!
# What a purse does with a command

The three numbers of a purse stand in one array (`Purse.Numbers.region`), which its owner can read
(`Purse.shows_region`). `Purse.settle_process` says what becomes of an order, once the card has
undone what the code may have left open: a payment is three writes in a transaction, of which all
come about or none, and so it is one of the cases of `Purse.Answered`. Other commands and selections
change nothing (`Purse.keeps_process`).
-/

set_option autoImplicit false
set_option relaxedAutoImplicit false

namespace SmartCard

/-! ### Arrays that are still what they were -/

/-- A persistent array of a heap is found unchanged in every heap that descends from it and
resembles it. -/
theorem Heap.Resembles.find?_eq {after heap : Heap} (hresembles : after.Resembles heap)
    (hdescends : after.Descends heap) {id : Nat} {region : Region}
    (hfind : heap.find? id = some region) (hlifetime : region.lifetime = .persistent) :
    after.find? id = some region := by
  have hcontents : after.contents? id = some region.cells := by
    rw [hresembles.contents_eq]
    exact Heap.contents?_eq_some_iff.mpr ⟨region, hfind, hlifetime, rfl⟩
  obtain ⟨later, hlater, -, hcells⟩ := Heap.contents?_eq_some_iff.mp hcontents
  obtain ⟨former, hformer, horiginal, hgrants⟩ := hdescends.former hlater
  obtain rfl := Option.some_inj.mp (hformer.symm.trans hfind)
  obtain ⟨howner, hlifetime', hkind, hlength⟩ := Region.eq_of_original_eq horiginal
  rw [hlater]
  congr 1
  cases former
  cases later
  simp only at howner hlifetime' hkind hlength hgrants hcells
  subst howner hlifetime' hkind hlength hgrants hcells
  rfl

namespace Store

/-- Writes leave no arrays but those that there were. -/
theorem WellFormed.descends_performAll {store : Store} (hstore : store.WellFormed)
    (caller : ContextId) (writes : List Write) :
    (performAll caller writes store).2.heap.Descends store.heap := by
  induction writes generalizing store with
  | nil => exact .refl _
  | cons write rest ih =>
    have hafter := hstore.perform caller write
    have hdescends := hstore.descends_perform caller write
    unfold performAll
    generalize store.perform caller write = outcome at hafter hdescends ⊢
    obtain ⟨_ | _, after⟩ := outcome
    · exact hdescends
    · exact (ih hafter).trans hdescends

/-- Writes that are allowed fail for no other reason than the journal or a tear. -/
theorem error_of_performAll {store : Store} {caller : ContextId} {writes : List Write}
    (hallows : ∀ write ∈ writes, store.Allows caller write) {error : MemoryError}
    (herror : (performAll caller writes store).1 = .error error) :
    ∃ reason, error = .journal reason := by
  induction writes generalizing store with
  | nil => cases herror
  | cons write rest ih =>
    obtain ⟨⟨region, haccess⟩, hrest⟩ := List.forall_mem_cons.mp hallows
    unfold performAll at herror
    cases hcounts : store.heap.counts write with
    | false =>
      rw [perform_of_not_counts haccess hcounts] at herror
      exact ih (fun other hother ↦ (hrest other hother).applied rfl store.transaction) herror
    | true =>
      rw [perform_of_counts haccess hcounts] at herror
      generalize store.transaction.prepareWrite _ _ _ _ = prepared at herror
      obtain ⟨reason | _, transaction⟩ := prepared
      · cases herror
        exact ⟨reason, rfl⟩
      · exact ih (fun other hother ↦ (hrest other hother).applied rfl transaction) herror

end Store

namespace Purse

variable {σ : Type}

/-! ### The array -/

/-- The array of a purse that belongs to a context, with six bytes in it. -/
def regionOf (owner : ContextId) (bytes : List UInt8) : Region where
  owner := owner
  lifetime := .persistent
  kind := .short
  length := 3
  cells := .bytes (.ofList bytes)
  grants := []

/-- The bytes of the numbers, in the order in which they stand. -/
def Numbers.bytes (numbers : Numbers) : List UInt8 :=
  shortBytes numbers.balance ++ shortBytes numbers.count ++ shortBytes numbers.last

/-- The array that keeps the numbers. -/
def Numbers.region (numbers : Numbers) (owner : ContextId) : Region :=
  regionOf owner numbers.bytes

/-- The array of a purse, granted to some contexts, with six bytes in it. -/
def sharedRegionOf (owner : ContextId) (grants : List ContextId) (bytes : List UInt8) : Region :=
  { regionOf owner bytes with grants }

/-- The array that keeps the numbers, granted to some contexts. -/
def Numbers.sharedRegion (numbers : Numbers) (owner : ContextId) (grants : List ContextId) :
    Region :=
  sharedRegionOf owner grants numbers.bytes

/-- A fresh array keeps three zeros. -/
theorem region_zero (owner : ContextId) :
    Numbers.region ⟨0, 0, 0⟩ owner = .fresh owner .persistent .short 3 := by
  have hcells : Runs.ofList (Numbers.bytes ⟨0, 0, 0⟩) = Runs.replicate 6 0 := by decide
  exact congrArg (fun cells ↦ Region.mk owner .persistent .short 3 (.bytes cells) []) hcells

theorem shortBytes_eq (value : Int16) :
    shortBytes value = [(value.toUInt16 / 256).toUInt8, value.toUInt16.toUInt8] :=
  Runs.toList_ofList _

variable {purse : Purse} {heap : Heap} {context : ContextId} {grants : List ContextId}
  {numbers updated : Numbers}

/-- The owner may use all three places of the array. -/
theorem access_region
    (hfind : heap.find? purse.state.id = some (numbers.sharedRegion context grants))
    {index : Nat} (hindex : index < 3) :
    heap.access context purse.state .short index 1 = .ok (numbers.sharedRegion context grants) := by
  refine Heap.access_eq_ok_iff.mpr ⟨hfind, Region.check_eq_ok_iff.mpr ⟨?_, rfl, hindex⟩⟩
  have howner : (numbers.sharedRegion context grants).owner = context := rfl
  rw [Region.admits, howner, BEq.rfl, Bool.or_true, Bool.true_or]

/-- Whether a context reads these numbers in the array of a purse. -/
structure Shows (purse : Purse) (heap : Heap) (context : ContextId) (numbers : Numbers) : Prop where
  balance : heap.get .short context purse.state balanceIndex = .ok numbers.balance
  count : heap.get .short context purse.state countIndex = .ok numbers.count
  last : heap.get .short context purse.state lastAmountIndex = .ok numbers.last

/-- The owner reads the numbers that the array keeps. -/
theorem shows_region
    (hfind : heap.find? purse.state.id = some (numbers.sharedRegion context grants)) :
    purse.Shows heap context numbers := by
  have hget : ∀ {index value}, index < 3 →
      ((numbers.sharedRegion context grants).cells.slice (index * 2) 2).toBytes =
        shortBytes value →
      heap.get .short context purse.state index = .ok value := by
    intro index value hindex hbytes
    rw [Heap.get, access_region hfind hindex]
    exact congrArg Except.ok (ElementKind.decode_short_of_toBytes hbytes)
  have hslice : ∀ start, ((numbers.sharedRegion context grants).cells.slice start 2).toBytes =
      segment start 2 numbers.bytes := by
    intro start
    refine (Runs.toList_segment _ start 2).trans ?_
    rw [Runs.toList_ofList]
  refine ⟨hget (by decide) ?_, hget (by decide) ?_, hget (by decide) ?_⟩ <;>
    rw [hslice, Numbers.bytes, shortBytes_eq, shortBytes_eq, shortBytes_eq] <;> rfl

/-- Writing a number replaces its two bytes. -/
theorem find?_applied {bytes : List UInt8}
    (hfind : heap.find? purse.state.id = some (sharedRegionOf context grants bytes)) (index : Nat)
    (value : Int16) :
    (heap.applied (.element purse.state .short index value)).find? purse.state.id =
      some (sharedRegionOf context grants (overwrite (index * 2) (shortBytes value) bytes)) := by
  have hcount : (Write.element purse.state .short index value).count ≠ 0 := Nat.one_ne_zero
  rw [Heap.applied, if_neg hcount]
  refine Heap.find?_written_of_bytes (sharedRegionOf context grants []) hfind ?_
  rw [shortBytes_eq]
  rfl

/-! ### The transaction of a payment -/

/-- The writes that bring other numbers into the array. -/
def changes (purse : Purse) (updated : Numbers) : List Write :=
  [.element purse.state .short balanceIndex updated.balance,
    .element purse.state .short countIndex updated.count,
    .element purse.state .short lastAmountIndex updated.last]

/-- Made directly, they do so. -/
theorem find?_changes
    (hfind : heap.find? purse.state.id = some (numbers.sharedRegion context grants))
    (updated : Numbers) :
    ((purse.changes updated).foldl Heap.applied heap).find? purse.state.id =
      some (updated.sharedRegion context grants) := by
  refine (find?_applied (find?_applied (find?_applied hfind _ _) _ _) _ _).trans ?_
  rw [Numbers.sharedRegion, Numbers.bytes, Numbers.bytes]
  simp only [shortBytes_eq]
  rfl

/-- Whether nothing comes between a payment and its end: the tear injector lets three writes
through, and the commit buffer holds six bytes. -/
def IsSafe (store : Store) : Prop :=
  (∀ writes, store.transaction.tear.remaining = some writes → 3 ≤ writes) ∧
    6 ≤ store.transaction.journal.capacity

/-- Then the transaction of the payment completes. -/
theorem completes_changes {store : Store} (hstore : store.WellFormed)
    (hfind : store.heap.find? purse.state.id = some (numbers.sharedRegion context grants))
    (hsafe : IsSafe store) : store.Completes (purse.changes updated) where
  tear := fun count hcount ↦ Nat.le_trans List.countP_le_length (hsafe.1 count hcount)
  room := by
    have hpersistent : store.heap.isPersistent purse.state.id = true := by
      rw [Heap.isPersistent, Option.isSome_iff_exists]
      exact ⟨_, Heap.contents?_eq_some_iff.mpr ⟨_, hfind, rfl, rfl⟩⟩
    have hcost : store.heap.cellCost purse.state.id = 1 := hstore.heap.cellCost_eq hfind
    -- the three writes touch six cells, and each cell costs a byte of the journal
    have hsubset : store.heap.touched (purse.changes updated) ⊆
        cellRange purse.state.id 0 6 := by
      have hsize : ∀ value : Int16, (ElementKind.short.encode value).size = 2 :=
        ElementKind.size_encode .short
      rintro ⟨id, position⟩ hcell
      simp only [Heap.touched, changes, List.foldr_cons, List.foldr_nil, Write.array, hpersistent,
        if_true, Finset.mem_union, mem_cellRange, Write.start, Write.index, Write.kind,
        Write.patch, hsize, balanceIndex, countIndex, lastAmountIndex, ElementKind.cellWidth,
        Finset.notMem_empty, or_false] at hcell
      rw [mem_cellRange]
      omega
    refine Nat.le_trans (footprintOf_mono _ hsubset) ?_
    rw [footprintOf_cellRange, hcost]
    exact hsafe.2

/-! ### Tears -/

/-- Whether the tear injector tells what became of an order: it has fired once more just if the
order failed on the way, provided that the commit buffer holds six bytes, and it is as it was if it
was disarmed. -/
structure TellsTear (before after : Store) (word : StatusWord) : Prop where
  fired_eq : 6 ≤ before.transaction.journal.capacity →
    after.transaction.tear.fired =
      before.transaction.tear.fired + if word = .unknown then 1 else 0
  disarmed : before.transaction.tear.remaining = none →
    after.transaction.tear = before.transaction.tear

/-- An order that does not get as far as a write is no matter of tears. -/
theorem TellsTear.refl (store : Store) {word : StatusWord} (hword : word ≠ .unknown) :
    TellsTear store store word :=
  ⟨fun _ ↦ by rw [if_neg hword, Nat.add_zero], fun _ ↦ rfl⟩

/-- With room for six bytes in the commit buffer, nothing but a tear stops the writes of a
payment. -/
theorem torn_of_error {store : Store} (hstore : store.WellFormed)
    (hidle : store.transaction.isActive = false)
    (hfind : store.heap.find? purse.state.id = some (numbers.sharedRegion context grants))
    (hroom : 6 ≤ store.transaction.journal.capacity)
    (hallows : ∀ write ∈ purse.changes updated, store.Allows context write) {error : MemoryError}
    (herror : (Store.performAll context (purse.changes updated) store.begin.2).1 = .error error) :
    error = .journal .torn := by
  by_contra huntorn
  -- without an injector the same writes complete, and fail alike
  have hcompletes : (store.withTear .idle).Completes (purse.changes updated) :=
    completes_changes (hstore.withTear .idle) hfind ⟨nofun, hroom⟩
  have hdone := (Store.performAll_begin_eq_ok_iff (hstore.withTear .idle) hidle hallows).mpr
    hcompletes
  have hbegin : (store.withTear .idle).begin.2 = store.begin.2.withTear .idle := by
    rw [Store.begin_of_idle hidle, @Store.begin_of_idle (store.withTear .idle) hidle]
    rfl
  have hsame := @Store.performAll_disarmed store.begin.2 context .idle (purse.changes updated)
    (fun htorn ↦ huntorn (Except.error.inj (herror.symm.trans htorn))) rfl
  rw [hbegin, hsame, herror] at hdone
  cases hdone

/-! ### What becomes of a command -/

/-- The status word that code ends with. -/
def wordOf : Except CardError Unit → StatusWord
  | .ok () => .noError
  | .error error => error.statusWord

section Session

variable {session : Session σ} {command : Command}

section Apply

variable (hfind : session.platform.store.heap.find? purse.state.id =
  some (numbers.sharedRegion session.context grants)) {payment : Payment}

include hfind

/-- A payment that is refused changes nothing. -/
theorem play_apply_of_refused {word : StatusWord} (hrefused : numbers.pay payment = .error word) :
    session.play (purse.apply payment.amount payment.change) =
      (.value (.error (.status word)), session) := by
  unfold Numbers.pay at hrefused
  unfold apply
  rw [Session.play_bind, Session.play_getShort (shows_region hfind).balance]
  dsimp only
  cases hchanged : changed numbers.balance payment.change with
  | error refusal =>
    rw [hchanged] at hrefused
    cases hrefused
    rfl
  | ok balance =>
    rw [hchanged] at hrefused
    cases hrefused

/-- A payment that is not refused is one transaction. -/
theorem play_apply_of_paid (hpaid : numbers.pay payment = .ok updated) :
    session.play (purse.apply payment.amount payment.change) =
      session.play (Code.transactionOf (purse.changes updated)) := by
  unfold Numbers.pay at hpaid
  unfold apply
  rw [Session.play_bind, Session.play_getShort (shows_region hfind).balance]
  dsimp only
  cases hchanged : changed numbers.balance payment.change with
  | error refusal =>
    rw [hchanged] at hpaid
    cases hpaid
  | ok balance =>
    rw [hchanged] at hpaid
    cases hpaid
    dsimp only
    rw [Session.play_bind, Session.play_getShort (shows_region hfind).count]
    refine congrArg session.play ?_
    simp only [Code.transactionOf, changes, Code.writeAll, Write.code, Code.setShort, bind_assoc,
      pure_bind]

omit hfind in
/-- The injector is where the writes have left it. -/
theorem tear_settle_transactionOf (hidle : session.platform.store.transaction.isActive = false)
    (writes : List Write) :
    (session.play (Code.transactionOf writes)).2.platform.settle.store.transaction.tear =
      (Store.performAll session.context writes
        session.platform.store.begin.2).2.transaction.tear := by
  change (session.play _).2.platform.store.settle.transaction.tear = _
  rw [Session.play_transactionOf_eq hidle, Store.settle]
  generalize Store.performAll session.context writes session.platform.store.begin.2 = performed
  obtain ⟨_ | _, last⟩ := performed
  · exact Store.tear_abort last
  · exact (Store.tear_abort last.commit.2).trans (Store.tear_commit last)

/-- The transaction comes about or leaves the numbers as they were, which it does only if it is not
safe. -/
theorem settle_changes (hrests : session.platform.store.Rests) (updated : Numbers) :
    let outcome := session.play (Code.transactionOf (purse.changes updated))
    let settled := outcome.2.platform.settle
    settled.store.Rests ∧ settled.contexts = session.platform.contexts ∧
      (outcome.1 = .value (.ok ()) ∧ TellsTear session.platform.store settled.store .noError ∧
          settled.store.heap.find? purse.state.id =
            some (updated.sharedRegion session.context grants) ∨
        ∃ error : CardError, outcome.1 = .value (.error error) ∧ error.statusWord = .unknown ∧
          ¬ IsSafe session.platform.store ∧
          TellsTear session.platform.store settled.store .unknown ∧
          settled.store.heap.find? purse.state.id =
            some (numbers.sharedRegion session.context grants)) := by
  intro outcome settled
  have hstore := hrests.wellFormed
  have hidle := Store.depth_eq_zero_iff.mp hrests.depth_eq
  have hallows : ∀ write ∈ purse.changes updated,
      session.platform.store.Allows session.context write := by
    intro write hwrite
    simp only [changes, List.mem_cons, List.not_mem_nil, or_false] at hwrite
    rcases hwrite with rfl | rfl | rfl
    · exact ⟨_, access_region hfind (by decide : balanceIndex < 3)⟩
    · exact ⟨_, access_region hfind (by decide : countIndex < 3)⟩
    · exact ⟨_, access_region hfind (by decide : lastAmountIndex < 3)⟩
  have hcontexts : settled.contexts = session.platform.contexts := by
    change (session.play _).2.platform.contexts = _
    rw [Session.play_transactionOf_eq hidle]
    generalize Store.performAll session.context _ _ = performed
    obtain ⟨_ | _, last⟩ := performed <;> rfl
  have hallows' : ∀ write ∈ purse.changes updated,
      session.platform.store.begin.2.Allows session.context write := by
    rw [Store.begin_of_idle hidle]
    exact hallows
  have htear : settled.store.transaction.tear = _ := tear_settle_transactionOf hidle _
  have hfired := Store.fired_performAll session.platform.store.begin.2 session.context
    (purse.changes updated)
  have hdisarmed : session.platform.store.transaction.tear.remaining = none →
      settled.store.transaction.tear = session.platform.store.transaction.tear := by
    intro hnone
    have hbegun := session.platform.store.tear_begin
    rw [htear, Store.tear_performAll_of_disarmed (hbegun.symm ▸ hnone), hbegun]
  rw [Store.tear_begin] at hfired
  rcases hrun : Store.performAll session.context (purse.changes updated)
    session.platform.store.begin.2 with ⟨error | passed, last⟩
  · -- a write has failed, and the card puts back what the others have replaced
    obtain ⟨hvalue, hsettled, hresembles⟩ := Session.settle_of_failure hstore hidle hrun
    refine ⟨hsettled, hcontexts, .inr ⟨_, hvalue, ?_, ?_, ⟨fun hroom ↦ ?_, hdisarmed⟩, ?_⟩⟩
    · obtain ⟨reason, rfl⟩ := Store.error_of_performAll hallows' (congrArg Prod.fst hrun)
      rfl
    · intro hsafe
      have hcompletes : session.platform.store.Completes (purse.changes updated) :=
        completes_changes hstore hfind hsafe
      have hdone := (Store.performAll_begin_eq_ok_iff hstore hidle hallows).mpr hcompletes
      rw [hrun] at hdone
      cases hdone
    · have htorn : error = .journal .torn :=
        torn_of_error hstore hidle hfind hroom hallows (congrArg Prod.fst hrun)
      rw [htear, if_pos rfl]
      refine (hfired.resolve_right fun huntorn ↦ huntorn.1 ?_).2
      rw [hrun, htorn]
    · have hlast := ((Store.retains_begin hstore hidle).performAll session.context
        (purse.changes updated)).wellFormed
      have hdescends := hstore.begin.descends_performAll session.context (purse.changes updated)
      rw [hrun] at hlast hdescends
      rw [Store.heap_begin] at hdescends
      have hsettle : outcome.2.platform.settle.store = last.abort.2 := by
        change (session.play _).2.platform.store.settle = _
        rw [Session.play_transactionOf_eq hidle, hrun]
        rfl
      refine hresembles.find?_eq ?_ hfind rfl
      rw [hsettle]
      exact hlast.descends_abort.trans hdescends
  · obtain ⟨hvalue, hsettled, hheap⟩ := Session.settle_of_success hstore hidle hrun
    refine ⟨hsettled, hcontexts, .inl ⟨hvalue, ⟨fun _ ↦ ?_, hdisarmed⟩, ?_⟩⟩
    · rw [htear, if_neg (by decide)]
      exact (hfired.resolve_left fun htorn ↦ nomatch (congrArg Prod.fst hrun).symm.trans htorn.1).2
    have hmade := Store.heap_performAll hallows' (congrArg Prod.fst hrun)
    rw [hrun, Store.heap_begin] at hmade
    change outcome.2.platform.settle.store.heap.find? _ = _
    rw [hheap, hmade]
    exact find?_changes hfind updated

end Apply

/-- The data of an order are all received before anything is done with them. -/
theorem handle_amount (session : Session σ) (command : Command) (bufferSize : Nat)
    (selecting : Bool) :
    ∃ left : Exchange, left.Receiving command ∧
      session.handle (Exchange.start command bufferSize selecting) Purse.amount =
        (.value ((amountIn command.data).mapError .status), session, left) := by
  obtain ⟨left, hleft, -, hreceived, -⟩ := session.handle_receiveAll command bufferSize selecting
  refine ⟨left, hleft, ?_⟩
  unfold Purse.amount
  rw [Session.handle_bind hreceived]
  generalize command.data = data
  obtain _ | ⟨high, _ | ⟨low, _ | ⟨other, rest⟩⟩⟩ := data
  · rfl
  · rfl
  · unfold amountIn
    dsimp only
    split <;> rfl
  · rfl

/-- An order is received and then carried out. -/
theorem handle_process_of_order (purse : Purse) (session : Session σ) {isCredit : Bool}
    (hinstruction : isCredit? command.instruction = some isCredit) (bufferSize : Nat) :
    session.handle (Exchange.start command bufferSize false) purse.process =
      session.handle (Exchange.start command bufferSize false) (do
        let amount ← Purse.amount
        Code.lift (purse.apply amount (Payment.mk isCredit amount).change)) := by
  have hlook : session.handle (Exchange.start command bufferSize false)
      (Code.look : Handler σ Exchange) = (.value (.ok (Exchange.start command bufferSize false)),
        session, Exchange.start command bufferSize false) := rfl
  have hselecting : ¬(Exchange.start command bufferSize false).selecting = true :=
    Bool.false_ne_true
  have hcommand : (Exchange.start command bufferSize false).command = command := rfl
  unfold process
  rw [Session.handle_bind hlook]
  dsimp only
  rw [if_neg hselecting, hcommand]
  unfold isCredit? at hinstruction
  by_cases hcredit : command.instruction = creditInstruction
  · rw [if_pos hcredit] at hinstruction ⊢
    cases hinstruction
    rfl
  rw [if_neg hcredit] at hinstruction ⊢
  by_cases hdebit : command.instruction = debitInstruction
  · rw [if_pos hdebit] at hinstruction ⊢
    cases hinstruction
    rfl
  · rw [if_neg hdebit] at hinstruction
    cases hinstruction

/-- What becomes of an order, once the card has undone what may have been left open. -/
theorem settle_process (hrests : session.platform.store.Rests)
    (hfind : session.platform.store.heap.find? purse.state.id =
      some (numbers.sharedRegion session.context grants))
    {order : Except StatusWord Payment} (horder : order? command = some order)
    (bufferSize : Nat) :
    ∃ (result : Except CardError Unit) (after : Session σ) (left : Exchange) (updated : Numbers),
      session.handle (Exchange.start command bufferSize false) purse.process =
        (.value result, after, left) ∧
      left.Receiving command ∧
      Answered numbers (IsSafe session.platform.store) order (wordOf result) updated ∧
      after.platform.settle.store.Rests ∧
      after.platform.settle.contexts = session.platform.contexts ∧
      TellsTear session.platform.store after.platform.settle.store (wordOf result) ∧
      after.platform.settle.store.heap.find? purse.state.id =
        some (updated.sharedRegion session.context grants) := by
  obtain ⟨isCredit, hinstruction, rfl⟩ := Option.map_eq_some_iff.mp horder
  obtain ⟨left, hleft, hamount⟩ := handle_amount session command bufferSize false
  have hkept : session.platform.settle = session.platform :=
    congrArg (Platform.mk · session.platform.contexts)
      (Store.settle_of_idle (Store.depth_eq_zero_iff.mp hrests.depth_eq))
  rw [handle_process_of_order purse session hinstruction]
  cases hdata : amountIn command.data with
  | error word =>
    rw [hdata] at hamount
    have hword : word ≠ .unknown := by
      rcases amountIn_eq_error hdata with rfl | rfl <;> decide
    refine ⟨.error (.status word), session, left, numbers, Session.handle_bind_of_error hamount _,
      hleft, .malformed, ?_, ?_, ?_, ?_⟩ <;> rw [hkept]
    · exact hrests
    · exact .refl _ hword
    · exact hfind
  | ok amount =>
    rw [hdata] at hamount
    rw [Session.handle_bind hamount, Session.handle_lift]
    cases hpay : numbers.pay ⟨isCredit, amount⟩ with
    | error word =>
      rw [play_apply_of_refused hfind hpay]
      have hword : word ≠ .unknown := by
        rcases Numbers.pay_eq_error hpay with rfl | rfl <;> decide
      refine ⟨.error (.status word), session, left, numbers, rfl, hleft, .refused hpay, ?_, ?_, ?_,
        ?_⟩ <;> rw [hkept]
      · exact hrests
      · exact .refl _ hword
      · exact hfind
    | ok updated =>
      rw [play_apply_of_paid hfind hpay]
      obtain ⟨hsettled, hcontexts, ⟨hvalue, htells, hfound⟩ |
        ⟨error, hvalue, hword, hexposed, htells, hfound⟩⟩ := settle_changes hfind hrests updated
      · rw [hvalue]
        exact ⟨.ok (), _, left, updated, rfl, hleft, .paid hpay, hsettled, hcontexts, htells,
          hfound⟩
      · rw [hvalue]
        refine ⟨.error error, _, left, numbers, rfl, hleft, ?_, hsettled, hcontexts, ?_, hfound⟩
        · rw [wordOf, hword]
          exact .failed hpay hexposed
        · rw [wordOf, hword]
          exact htells

/-! ### Commands that order nothing -/

/-- Telling a number changes no more than the exchange. -/
theorem keeps_tell (purse : Purse) (session : Session σ) (exchange : Exchange) (index : Nat) :
    (session.handle exchange (purse.tell index)).2.1 = session := by
  refine Session.keeps_bind ?_ fun value left ↦ session.keeps_respond left _
  rw [Session.handle_lift]
  rfl

/-- A selection, and every command that orders nothing, changes no more than the exchange. -/
theorem keeps_process (purse : Purse) (session : Session σ) {selecting : Bool}
    (hother : selecting = true ∨ isCredit? command.instruction = none) (bufferSize : Nat) :
    (session.handle (Exchange.start command bufferSize selecting) purse.process).2.1 =
      session := by
  have hlook : session.handle (Exchange.start command bufferSize selecting)
      (Code.look : Handler σ Exchange) =
        (.value (.ok (Exchange.start command bufferSize selecting)), session,
          Exchange.start command bufferSize selecting) := rfl
  have hcommand : (Exchange.start command bufferSize selecting).command = command := rfl
  have hoccasion : (Exchange.start command bufferSize selecting).selecting = selecting := rfl
  unfold process
  rw [Session.handle_bind hlook]
  dsimp only
  rw [hoccasion, hcommand]
  by_cases hselecting : selecting = true
  · rw [if_pos hselecting]
    rfl
  have hinstruction := hother.resolve_left hselecting
  unfold isCredit? at hinstruction
  split at hinstruction
  · cases hinstruction
  split at hinstruction
  · cases hinstruction
  rw [if_neg hselecting, if_neg ‹_›, if_neg ‹_›]
  split
  · exact keeps_tell purse session _ _
  split
  · exact keeps_tell purse session _ _
  · rfl

end Session

end Purse

end SmartCard
