import SmartCard.Segment

/-!
# Runs

A list kept as its runs of equal elements: memory is mostly blank, and a blank stretch takes one run
however long it is. The runs are maximal, that is, none is empty and neighbours differ. Therefore
there is one way to keep a list, and two of these are equal when their lists are
(`toList_injective`). What an operation does to the list is what the one of the same name on lists
does (`toList_segment`, `toList_overwrite`).
-/

set_option autoImplicit false
set_option relaxedAutoImplicit false

namespace SmartCard

/-- Whether no run is empty and neighbours hold different elements. -/
def Runs.IsMaximal {α : Type} : List (Nat × α) → Prop
  | [] => True
  | [(count, _)] => 0 < count
  | (count, element) :: (next, other) :: rest =>
    0 < count ∧ element ≠ other ∧ IsMaximal ((next, other) :: rest)

/-- What stands behind a maximal run is maximal. -/
theorem Runs.IsMaximal.rest {α : Type} {pair : Nat × α} {rest : List (Nat × α)}
    (hmaximal : IsMaximal (pair :: rest)) : IsMaximal rest := by
  cases rest with
  | nil => trivial
  | cons next rest => exact hmaximal.2.2

/-- No run is empty. -/
theorem Runs.IsMaximal.pos {α : Type} {pair : Nat × α} {rest : List (Nat × α)}
    (hmaximal : IsMaximal (pair :: rest)) : 0 < pair.1 := by
  cases rest with
  | nil => exact hmaximal
  | cons next rest => exact hmaximal.1

structure Runs (α : Type) where
  /-- How often each element stands in a row, in order. -/
  pairs : List (Nat × α)
  maximal : Runs.IsMaximal pairs
  deriving DecidableEq, Repr

namespace Runs

variable {α : Type}

/-! ### The list -/

/-- The elements of some runs. -/
def expand (pairs : List (Nat × α)) : List α :=
  pairs.flatMap fun pair ↦ List.replicate pair.1 pair.2

/-- The list that is kept. -/
def toList (runs : Runs α) : List α :=
  expand runs.pairs

/-- Keeps the empty list. -/
def empty : Runs α :=
  ⟨[], trivial⟩

/-- The number of elements. -/
def length (runs : Runs α) : Nat :=
  runs.pairs.foldl (fun total pair ↦ total + pair.1) 0

/-- The elements of a run and of those behind it. -/
theorem expand_cons (count : Nat) (element : α) (rest : List (Nat × α)) :
    expand ((count, element) :: rest) = List.replicate count element ++ expand rest := rfl

/-- The elements of no runs. -/
theorem expand_nil : expand ([] : List (Nat × α)) = [] := rfl

/-- The elements of runs and of those behind them. -/
theorem expand_append (pairs others : List (Nat × α)) :
    expand (pairs ++ others) = expand pairs ++ expand others :=
  List.flatMap_append

/-- The length of what has been counted and of the runs to come. -/
theorem length_expand (total : Nat) (pairs : List (Nat × α)) :
    pairs.foldl (fun total pair ↦ total + pair.1) total = total + (expand pairs).length := by
  induction pairs generalizing total with
  | nil => rfl
  | cons pair rest ih =>
    rw [List.foldl_cons, ih, expand_cons, List.length_append, List.length_replicate,
      Nat.add_assoc]

/-- The length is that of the list. -/
theorem length_toList (runs : Runs α) : runs.toList.length = runs.length := by
  rw [length, length_expand, Nat.zero_add]
  rfl

/-- The runs of the first elements on top of `above`, the last run first. -/
def lift : (count : Nat) → (above pairs : List (Nat × α)) → List (Nat × α)
  | _, above, [] => above
  | count, above, run :: rest =>
    if count ≤ run.1 then (count, run.2) :: above else lift (count - run.1) (run :: above) rest

/-- Turned round again, the lifted runs hold the first elements. -/
theorem expand_reverse_lift (count : Nat) (above pairs : List (Nat × α)) :
    expand (lift count above pairs).reverse =
      expand above.reverse ++ (expand pairs).take count := by
  induction pairs generalizing count above with
  | nil => rw [lift, expand_nil, List.take_nil, List.append_nil]
  | cons pair rest ih =>
    obtain ⟨size, element⟩ := pair
    rw [expand_cons, List.take_append, List.take_replicate, List.length_replicate]
    by_cases hinside : count ≤ size
    · rw [lift, if_pos hinside, List.reverse_cons, expand_append, expand_cons, expand_nil,
        Nat.min_eq_left hinside, Nat.sub_eq_zero_of_le hinside, List.take_zero]
    · rw [lift, if_neg hinside, ih, List.reverse_cons, expand_append, expand_cons, expand_nil,
        Nat.min_eq_right (Nat.le_of_not_le hinside), List.append_nil, List.append_assoc]

/-! ### One more run -/

variable [DecidableEq α]

/-- A run in front of others. An equal neighbour is joined to it. -/
def join (run : Nat × α) : List (Nat × α) → List (Nat × α)
  | [] => [run]
  | pair :: rest => if run.2 = pair.2 then (run.1 + pair.1, pair.2) :: rest else run :: pair :: rest

/-- A run in front of others, unless it is empty. -/
def prepend (run : Nat × α) (pairs : List (Nat × α)) : List (Nat × α) :=
  if run.1 = 0 then pairs else join run pairs

/-- Its elements stand in front. -/
theorem expand_join (run : Nat × α) (pairs : List (Nat × α)) :
    expand (join run pairs) = List.replicate run.1 run.2 ++ expand pairs := by
  cases pairs with
  | nil => exact expand_cons run.1 run.2 []
  | cons pair rest =>
    by_cases hequal : run.2 = pair.2
    · rw [join, if_pos hequal, expand_cons, expand_cons, hequal, ← List.append_assoc,
        List.replicate_append_replicate]
    · rw [join, if_neg hequal]
      exact expand_cons run.1 run.2 (pair :: rest)

/-- Maximal runs stay maximal with a run in front that is not empty. -/
theorem isMaximal_join {run : Nat × α} {pairs : List (Nat × α)} (hpos : 0 < run.1)
    (hmaximal : IsMaximal pairs) : IsMaximal (join run pairs) := by
  cases pairs with
  | nil => exact hpos
  | cons pair rest =>
    by_cases hequal : run.2 = pair.2
    · rw [join, if_pos hequal]
      cases rest with
      | nil => exact Nat.add_pos_left hpos pair.1
      | cons after rest => exact ⟨Nat.add_pos_left hpos pair.1, hmaximal.2⟩
    · rw [join, if_neg hequal]
      exact ⟨hpos, hequal, hmaximal⟩

/-- The first of maximal runs is what it would be when put in front of the others. -/
theorem join_eq_cons {run : Nat × α} {rest : List (Nat × α)} (hmaximal : IsMaximal (run :: rest)) :
    join run rest = run :: rest := by
  cases rest with
  | nil => rfl
  | cons pair rest => exact if_neg hmaximal.2.1

/-- Equal runs are joined to one. -/
theorem join_join (first second : Nat) (element : α) (pairs : List (Nat × α)) :
    join (first, element) (join (second, element) pairs) =
      join (first + second, element) pairs := by
  cases pairs with
  | nil => exact if_pos rfl
  | cons pair rest =>
    by_cases hequal : element = pair.2
    · simp only [join, if_pos hequal, Nat.add_assoc]
    · simp only [join, if_neg hequal, if_true]

/-- The elements of a run stand in front. -/
theorem expand_prepend (run : Nat × α) (pairs : List (Nat × α)) :
    expand (prepend run pairs) = List.replicate run.1 run.2 ++ expand pairs := by
  by_cases hempty : run.1 = 0
  · rw [prepend, if_pos hempty, hempty]
    rfl
  · rw [prepend, if_neg hempty, expand_join]

/-- Maximal runs stay maximal. -/
theorem isMaximal_prepend (run : Nat × α) {pairs : List (Nat × α)}
    (hmaximal : IsMaximal pairs) : IsMaximal (prepend run pairs) := by
  by_cases hempty : run.1 = 0
  · rw [prepend, if_pos hempty]
    exact hmaximal
  · rw [prepend, if_neg hempty]
    exact isMaximal_join (Nat.pos_of_ne_zero hempty) hmaximal

/-! ### From lists -/

/-- The runs of a list. -/
def compress (list : List α) : List (Nat × α) :=
  list.foldr (fun element pairs ↦ join (1, element) pairs) []

/-- The runs of a list are maximal. -/
theorem isMaximal_compress (list : List α) : IsMaximal (compress list) := by
  induction list with
  | nil => trivial
  | cons element list ih => exact isMaximal_join Nat.one_pos ih

/-- The list is made of its runs. -/
theorem expand_compress (list : List α) : expand (compress list) = list := by
  induction list with
  | nil => rfl
  | cons element list ih =>
    change expand (join (1, element) (compress list)) = element :: list
    rw [expand_join, ih]
    rfl

/-- The runs of a list that starts with equal elements. -/
theorem compress_replicate_append (count : Nat) (element : α) (list : List α) :
    compress (List.replicate (count + 1) element ++ list) =
      join (count + 1, element) (compress list) := by
  induction count with
  | zero => rfl
  | succ count ih =>
    change join (1, element) (compress (List.replicate (count + 1) element ++ list)) = _
    rw [ih, join_join, Nat.add_comm]

/-- Maximal runs are found again in their list. -/
theorem compress_expand {pairs : List (Nat × α)} (hmaximal : IsMaximal pairs) :
    compress (expand pairs) = pairs := by
  induction pairs with
  | nil => rfl
  | cons pair rest ih =>
    have hcount : pair.1 = pair.1 - 1 + 1 := (Nat.sub_add_cancel hmaximal.pos).symm
    rw [expand_cons, hcount, compress_replicate_append, ← hcount, ih hmaximal.rest,
      join_eq_cons hmaximal]

/-- Keeps a list. -/
def ofList (list : List α) : Runs α :=
  ⟨compress list, isMaximal_compress list⟩

/-- A kept list is given back. -/
theorem toList_ofList (list : List α) : (ofList list).toList = list :=
  expand_compress list

/-- Its length is kept. -/
theorem length_ofList (list : List α) : (ofList list).length = list.length := by
  rw [← length_toList, toList_ofList]

/-- There is one way to keep a list. -/
theorem toList_injective {first second : Runs α} (hlist : first.toList = second.toList) :
    first = second := by
  obtain ⟨pairs, hfirst⟩ := first
  obtain ⟨others, hsecond⟩ := second
  have hpairs : pairs = others := by
    rw [← compress_expand hfirst, ← compress_expand hsecond]
    exact congrArg compress hlist
  subst hpairs
  rfl

/-- The same element again and again. -/
def replicate (count : Nat) (element : α) : Runs α :=
  ⟨prepend (count, element) [], isMaximal_prepend (count, element) trivial⟩

/-- Its list. -/
theorem toList_replicate (count : Nat) (element : α) :
    (replicate count element).toList = List.replicate count element := by
  change expand (prepend (count, element) []) = _
  rw [expand_prepend]
  exact List.append_nil _

/-! ### Parts -/

/-- Puts runs in front of others, the first of them nearest. -/
def stack (above pairs : List (Nat × α)) : List (Nat × α) :=
  above.foldl (fun below run ↦ prepend run below) pairs

/-- What is put in front stands there the other way round. -/
theorem expand_stack (above pairs : List (Nat × α)) :
    expand (stack above pairs) = expand above.reverse ++ expand pairs := by
  induction above generalizing pairs with
  | nil => rfl
  | cons pair above ih =>
    change expand (stack above (prepend pair pairs)) = _
    rw [ih, expand_prepend, List.reverse_cons, expand_append, expand_cons, expand_nil,
      List.append_nil, List.append_assoc]

/-- Maximal runs stay maximal with others in front. -/
theorem isMaximal_stack (above : List (Nat × α)) {pairs : List (Nat × α)}
    (hmaximal : IsMaximal pairs) : IsMaximal (stack above pairs) := by
  induction above generalizing pairs with
  | nil => exact hmaximal
  | cons pair above ih => exact ih (isMaximal_prepend pair hmaximal)

/-- The elements behind the first ones of some runs. -/
def dropPairs : (count : Nat) → List (Nat × α) → List (Nat × α)
  | _, [] => []
  | count, (size, element) :: rest =>
    if count < size then prepend (size - count, element) rest
    else dropPairs (count - size) rest

/-- The other elements, in a list. -/
theorem expand_dropPairs (count : Nat) (pairs : List (Nat × α)) :
    expand (dropPairs count pairs) = (expand pairs).drop count := by
  induction pairs generalizing count with
  | nil => exact List.drop_nil.symm
  | cons pair rest ih =>
    obtain ⟨size, element⟩ := pair
    rw [expand_cons, List.drop_append, List.drop_replicate, List.length_replicate]
    by_cases hinside : count < size
    · rw [dropPairs, if_pos hinside, expand_prepend, Nat.sub_eq_zero_of_le (Nat.le_of_lt hinside),
        List.drop_zero]
    · rw [dropPairs, if_neg hinside, ih, Nat.sub_eq_zero_of_le (Nat.le_of_not_lt hinside),
        List.replicate_zero, List.nil_append]

/-- The other elements of maximal runs have maximal runs. -/
theorem isMaximal_dropPairs (count : Nat) {pairs : List (Nat × α)} (hmaximal : IsMaximal pairs) :
    IsMaximal (dropPairs count pairs) := by
  induction pairs generalizing count with
  | nil => trivial
  | cons pair rest ih =>
    rw [dropPairs]
    by_cases hinside : count < pair.1
    · rw [if_pos hinside]
      exact isMaximal_prepend _ hmaximal.rest
    · rw [if_neg hinside]
      exact ih _ hmaximal.rest

/-- All but the first elements. -/
def drop (runs : Runs α) (count : Nat) : Runs α :=
  ⟨dropPairs count runs.pairs, isMaximal_dropPairs count runs.maximal⟩

/-- The first elements, and others behind them. -/
def takeThen (runs : Runs α) (count : Nat) (others : Runs α) : Runs α :=
  ⟨stack (lift count [] runs.pairs) others.pairs, isMaximal_stack _ others.maximal⟩

/-- The `length` elements from `start` on. -/
def segment (runs : Runs α) (start length : Nat) : Runs α :=
  (runs.drop start).takeThen length empty

/-- The runs with the elements from `start` on replaced by those of `patch`. -/
def overwrite (runs : Runs α) (start : Nat) (patch : Runs α) : Runs α :=
  runs.takeThen start (patch.takeThen patch.length (runs.drop (start + patch.length)))

/-- What is left is left of the list. -/
theorem toList_drop (runs : Runs α) (count : Nat) :
    (runs.drop count).toList = runs.toList.drop count :=
  expand_dropPairs count runs.pairs

/-- The first elements are those of the list. -/
theorem toList_takeThen (runs : Runs α) (count : Nat) (others : Runs α) :
    (runs.takeThen count others).toList = runs.toList.take count ++ others.toList := by
  change expand (stack (lift count [] runs.pairs) others.pairs) = _
  rw [expand_stack, expand_reverse_lift]
  rfl

/-- A segment is kept as the segment of the list. -/
theorem toList_segment (runs : Runs α) (start length : Nat) :
    (runs.segment start length).toList = SmartCard.segment start length runs.toList := by
  rw [segment, toList_takeThen, toList_drop]
  exact List.append_nil _

/-- What is written over is the segment of the list. -/
theorem toList_overwrite (runs : Runs α) (start : Nat) (patch : Runs α) :
    (runs.overwrite start patch).toList =
      SmartCard.overwrite start patch.toList runs.toList := by
  rw [overwrite, toList_takeThen, toList_takeThen, toList_drop, SmartCard.overwrite,
    ← length_toList patch, List.take_length, List.append_assoc]

/-- Writing over a run inside keeps the length. -/
theorem length_overwrite {runs patch : Runs α} {start : Nat}
    (hrange : start + patch.length ≤ runs.length) :
    (runs.overwrite start patch).length = runs.length := by
  rw [← length_toList, ← length_toList runs, toList_overwrite, SmartCard.length_overwrite]
  rwa [length_toList, length_toList]

end Runs

end SmartCard
