import SmartCard.Proofs.Journal.Coverage

/-!
# Recording in a journal

What one recording does. The entry for the union of a range and of the entries that meet it
(`IsUnion`) covers exactly these cells and no others (`IsUnion.cells_eq`), and keeps the images
taken before (`IsUnion.cell?_eq`). Two facts about the entries carry this: they are apart, and each
entry met overlaps or touches the range, so that no cell lies between them uncovered.

A recording needs the cost of the cells of its range that are not covered yet (`Journal.needed`). It
succeeds if the journal has that much room (`record_eq_ok`), and otherwise it fails and says how
much it needs (`record_eq_error`).
-/

set_option autoImplicit false
set_option relaxedAutoImplicit false

namespace SmartCard

namespace Journal

/-! ### The entry for a union -/

/-- The least of a value and of the values of some elements. -/
private theorem foldl_min_spec {α β : Type} [LinearOrder β] (value : α → β) (list : List α)
    (initial : β) :
    list.foldl (fun least element ↦ min least (value element)) initial ≤ initial ∧
      (∀ element ∈ list,
        list.foldl (fun least element ↦ min least (value element)) initial ≤ value element) ∧
      (list.foldl (fun least element ↦ min least (value element)) initial = initial ∨
        ∃ element ∈ list,
          list.foldl (fun least element ↦ min least (value element)) initial = value element) := by
  induction list generalizing initial with
  | nil => exact ⟨le_rfl, by simp, Or.inl rfl⟩
  | cons head rest ih =>
    obtain ⟨hinitial, hrest, hattained⟩ := ih (min initial (value head))
    simp only [List.foldl_cons, List.mem_cons, forall_eq_or_imp, exists_eq_or_imp]
    refine ⟨hinitial.trans (min_le_left _ _), ⟨hinitial.trans (min_le_right _ _), hrest⟩, ?_⟩
    rcases hattained with hattained | hattained
    · rcases min_choice initial (value head) with h | h
      · exact Or.inl (hattained.trans h)
      · exact Or.inr (Or.inl (hattained.trans h))
    · exact Or.inr (Or.inr hattained)

/-- The greatest of a number and of the values of some elements. -/
private theorem foldl_max_spec {α : Type} (value : α → Nat) (list : List α) (initial : Nat) :
    initial ≤ list.foldl (fun greatest element ↦ max greatest (value element)) initial ∧
      (∀ element ∈ list,
        value element ≤ list.foldl (fun greatest element ↦ max greatest (value element)) initial) ∧
      (list.foldl (fun greatest element ↦ max greatest (value element)) initial = initial ∨
        ∃ element ∈ list,
          list.foldl (fun greatest element ↦ max greatest (value element)) initial =
            value element) :=
  @foldl_min_spec α Natᵒᵈ _ value list initial

/-- Images laid over some cells, whose first position is `low`, win over these, and where the
entries are apart it does not matter in which order. -/
private theorem overlayAll_spec {region low : Nat} {entries : List JournalEntry} {base : Cells}
    (hapart : entries.Pairwise JournalEntry.Apart)
    (hregion : ∀ entry ∈ entries, entry.region = region)
    (hlow : ∀ entry ∈ entries, low ≤ entry.start)
    (hfits : ∀ entry ∈ entries, entry.image.FitsAt (entry.start - low) base.shape) :
    (entries.foldl (fun image entry ↦ entry.image.overlay (entry.start - low) image) base).shape =
        base.shape ∧
      ∀ position, low ≤ position →
        (entries.foldl (fun image entry ↦ entry.image.overlay (entry.start - low) image) base).cell?
            (position - low) =
          (imageIn entries region position).or (base.cell? (position - low)) := by
  induction entries generalizing base with
  | nil => exact ⟨rfl, fun position _ ↦ rfl⟩
  | cons entry rest ih =>
    have hrotated := imageIn_perm hapart (List.perm_append_singleton entry rest).symm region
    rw [List.pairwise_cons] at hapart
    rw [List.forall_mem_cons] at hregion hlow hfits
    have hshape := Cells.shape_overlay hfits.1
    have hrestFits : ∀ other ∈ rest, other.image.FitsAt (other.start - low)
        (entry.image.overlay (entry.start - low) base).shape := by
      rw [hshape]
      exact hfits.2
    obtain ⟨ihshape, ihcell⟩ := ih hapart.2 hregion.2 hlow.2 hrestFits
    rw [List.foldl_cons]
    constructor
    · exact ihshape.trans hshape
    · intro position hposition
      rw [ihcell position hposition, JournalEntry.cell?_overlay hlow.1 hfits.1 hposition,
        hregion.1, hrotated, imageIn_append, imageIn_cons, imageIn_nil, Option.or_none,
        Option.or_assoc]

end Journal

/-- An entry meets a range of its array when neither ends before the other starts. -/
theorem JournalEntry.meets_iff {entry : JournalEntry} {region start stop : Nat} :
    entry.meets region start stop ↔
      entry.region = region ∧ entry.start ≤ stop ∧ start ≤ entry.stop := by
  simp [meets, and_assoc]

namespace Journal

/-- A range of an array together with entries that meet it, each inside the array. -/
structure IsMergeable (region start stop : Nat) (current : Cells) (met : List JournalEntry) :
    Prop where
  start_le_stop : start ≤ stop
  stop_le_size : stop ≤ current.size
  apart : met.Pairwise JournalEntry.Apart
  meets : ∀ entry ∈ met, entry.meets region start stop
  fits : ∀ entry ∈ met, entry.image.FitsAt entry.start current.shape

/-- Whether an entry is the union of a range and of entries that meet it. It starts and ends with
the range or with an entry met, no later and no earlier than any of these, and its cells are the
images taken and, where there is none, the current cells. -/
structure IsUnion (region start stop : Nat) (current : Cells) (met : List JournalEntry)
    (union : JournalEntry) : Prop extends IsMergeable region start stop current met where
  region_eq : union.region = region
  start_le : union.start ≤ start
  start_le_met : ∀ entry ∈ met, union.start ≤ entry.start
  start_eq : union.start = start ∨ ∃ entry ∈ met, union.start = entry.start
  le_stop : stop ≤ union.stop
  met_le_stop : ∀ entry ∈ met, entry.stop ≤ union.stop
  stop_eq : union.stop = stop ∨ ∃ entry ∈ met, union.stop = entry.stop
  image_fits : union.image.FitsAt union.start current.shape
  cell?_image : ∀ position, union.start ≤ position → position < union.stop →
    union.image.cell? (position - union.start) =
      (imageIn met region position).or (current.cell? position)

section Union

variable {region start stop : Nat} {current : Cells} {met others : List JournalEntry}
  {union second : JournalEntry}

/-- The order of the entries met does not matter. -/
theorem IsMergeable.perm (hmerge : IsMergeable region start stop current met)
    (hperm : met.Perm others) : IsMergeable region start stop current others where
  start_le_stop := hmerge.start_le_stop
  stop_le_size := hmerge.stop_le_size
  apart := hperm.pairwise hmerge.apart fun h ↦ Std.Symm.symm _ _ h
  meets := fun entry hentry ↦ hmerge.meets entry (hperm.mem_iff.mpr hentry)
  fits := fun entry hentry ↦ hmerge.fits entry (hperm.mem_iff.mpr hentry)

/-- Merging makes the union. -/
theorem isUnion_merged (hmerge : IsMergeable region start stop current met) :
    IsUnion region start stop current met (merged region start stop current met) := by
  obtain ⟨hlowStart, hlowMet, hlowEq⟩ := foldl_min_spec JournalEntry.start met start
  obtain ⟨hhighStop, hhighMet, hhighEq⟩ := foldl_max_spec JournalEntry.stop met stop
  unfold merged
  dsimp only
  generalize met.foldl (fun low entry ↦ min low entry.start) start = low at *
  generalize met.foldl (fun high entry ↦ max high entry.stop) stop = high at *
  have horder := hmerge.start_le_stop
  have hinside : high ≤ current.size := by
    rcases hhighEq with h | ⟨entry, hentry, h⟩
    · exact h.trans_le hmerge.stop_le_size
    · exact h.trans_le ((hmerge.fits entry hentry).2.trans_eq current.size_shape)
  have hslice : (current.slice low (high - low)).shape =
      ⟨current.shape.holdsReferences, high - low⟩ := Cells.shape_slice (by omega)
  have hregion : ∀ entry ∈ met, entry.region = region := by
    intro entry hentry
    exact (JournalEntry.meets_iff.mp (hmerge.meets entry hentry)).1
  have hfits : ∀ entry ∈ met,
      entry.image.FitsAt (entry.start - low) (current.slice low (high - low)).shape := by
    intro entry hentry
    have hentryStart := hlowMet entry hentry
    have hentryStop := hhighMet entry hentry
    rw [JournalEntry.stop] at hentryStop
    rw [hslice]
    constructor
    · exact (hmerge.fits entry hentry).1
    · show entry.start - low + entry.image.size ≤ high - low
      omega
  obtain ⟨hshape, hcell⟩ := overlayAll_spec hmerge.apart hregion hlowMet hfits
  generalize met.foldl (fun image entry ↦ entry.image.overlay (entry.start - low) image)
    (current.slice low (high - low)) = image at *
  rw [hslice] at hshape
  have hsize : image.size = high - low := by rw [← Cells.size_shape, hshape]
  have hstop : (JournalEntry.mk region low image).stop = high := by
    change low + image.size = high
    omega
  constructor
  case toIsMergeable => exact hmerge
  case region_eq => rfl
  case start_le => exact hlowStart
  case start_le_met => exact hlowMet
  case start_eq => exact hlowEq
  case le_stop => rwa [hstop]
  case met_le_stop => rwa [hstop]
  case stop_eq => rwa [hstop]
  case image_fits =>
    constructor
    · rw [hshape]
    · rw [hsize, Cells.size_shape]
      show low + (high - low) ≤ current.size
      omega
  case cell?_image =>
    intro position hfirst hlast
    rw [hstop] at hlast
    change low ≤ position at hfirst
    rw [hcell position hfirst, Cells.cell?_slice, if_pos (by omega), Nat.add_sub_cancel' hfirst]

/-- The union covers the range and what the entries met cover, and nothing between them. -/
theorem IsUnion.cells_eq (hunion : IsUnion region start stop current met union) :
    union.cells = cellRange region start (stop - start) ∪ cellsOf met := by
  have horder := hunion.start_le_stop
  have hstart := hunion.start_le
  have hstop := hunion.le_stop
  ext ⟨other, position⟩
  rw [Finset.mem_union, mem_cellRange, JournalEntry.mem_cells, mem_cellsOf, hunion.region_eq]
  constructor
  · rintro ⟨hregion, hfirst, hlast⟩
    by_cases hbefore : position < start
    · -- The union starts with an entry met, which reaches up to the range.
      rcases hunion.start_eq with h | ⟨entry, hentry, h⟩
      · omega
      · have hmeets := JournalEntry.meets_iff.mp (hunion.meets entry hentry)
        exact Or.inr ⟨entry, hentry, JournalEntry.mem_cells.mpr
          ⟨hregion.trans hmeets.1.symm, by omega, by omega⟩⟩
    · by_cases hbehind : stop ≤ position
      · rcases hunion.stop_eq with h | ⟨entry, hentry, h⟩
        · omega
        · have hmeets := JournalEntry.meets_iff.mp (hunion.meets entry hentry)
          exact Or.inr ⟨entry, hentry, JournalEntry.mem_cells.mpr
            ⟨hregion.trans hmeets.1.symm, by omega, by omega⟩⟩
      · exact Or.inl ⟨hregion, by omega, by omega⟩
  · rintro (⟨hregion, hfirst, hlast⟩ | ⟨entry, hentry, hcell⟩)
    · exact ⟨hregion, by omega, by omega⟩
    · have hmeets := JournalEntry.meets_iff.mp (hunion.meets entry hentry)
      have hentryStart := hunion.start_le_met entry hentry
      have hentryStop := hunion.met_le_stop entry hentry
      rw [JournalEntry.mem_cells] at hcell
      exact ⟨hcell.1.trans hmeets.1, by omega, by omega⟩

/-- The union keeps the images taken, and takes the current cells of the range where there was
none. -/
theorem IsUnion.cell?_eq (hunion : IsUnion region start stop current met union)
    (other position : Nat) :
    union.cell? other position = (imageIn met other position).or
      (if (other, position) ∈ cellRange region start (stop - start) then current.cell? position
        else none) := by
  have hcells := hunion.cells_eq
  by_cases hmem : (other, position) ∈ union.cells
  · obtain ⟨hregion, hfirst, hlast⟩ := JournalEntry.mem_cells.mp hmem
    rw [JournalEntry.cell?, if_pos ⟨hregion.symm, hfirst⟩, hunion.cell?_image position hfirst hlast]
    rw [hunion.region_eq] at hregion
    subst hregion
    rw [hcells, Finset.mem_union] at hmem
    by_cases hrange : (other, position) ∈ cellRange other start (stop - start)
    · rw [if_pos hrange]
    · obtain ⟨cell, hcell⟩ := exists_imageIn (hmem.resolve_left hrange)
      rw [hcell, Option.some_or, Option.some_or]
  · rw [JournalEntry.cell?_eq_none hmem]
    rw [hcells, Finset.mem_union, not_or] at hmem
    rw [(imageIn_eq_none_iff met other position).mpr hmem.2, if_neg hmem.1, Option.none_or]

/-- An entry that does not meet the range, and is apart from those that do, is apart from the
union. -/
theorem IsUnion.apart_of_not_meets (hunion : IsUnion region start stop current met union)
    {other : JournalEntry} (hother : ∀ entry ∈ met, other.Apart entry)
    (hmiss : ¬ other.meets region start stop) : other.Apart union := by
  intro hregion
  rw [hunion.region_eq] at hregion
  rw [JournalEntry.meets_iff] at hmiss
  have horder : other.start ≤ other.stop := Nat.le_add_right _ _
  have hmisses : stop < other.start ∨ other.stop < start := by
    by_contra hmeets
    exact hmiss ⟨hregion, by omega, by omega⟩
  have hseparate : ∀ entry ∈ met, (entry.start ≤ stop ∧ start ≤ entry.stop) ∧
      (other.stop < entry.start ∨ entry.stop < other.start) := by
    intro entry hentry
    have hmeets := JournalEntry.meets_iff.mp (hunion.meets entry hentry)
    exact ⟨hmeets.2, hother entry hentry (hregion.trans hmeets.1.symm)⟩
  rcases hmisses with hbehind | hbefore
  · right
    rcases hunion.stop_eq with h | ⟨entry, hentry, h⟩
    · omega
    · have := hseparate entry hentry
      omega
  · left
    rcases hunion.start_eq with h | ⟨entry, hentry, h⟩
    · omega
    · have := hseparate entry hentry
      omega

/-- The images of the union need what those met need and the cost of the cells of the range that
none of these covers. So what is replaced never needs more than what replaces it. -/
theorem IsUnion.footprint_eq (hunion : IsUnion region start stop current met union) :
    union.image.footprint =
      (cellRange region start (stop - start) \ cellsOf met).card * current.shape.cellCost +
        bytesOf met := by
  have hmet : ∀ entry ∈ met, entry.image.shape.cellCost = current.shape.cellCost := by
    intro entry hentry
    exact (hunion.fits entry hentry).cellCost_eq
  calc union.image.footprint
      = footprintOf (fun _ ↦ current.shape.cellCost) union.cells := by
        rw [JournalEntry.cells, footprintOf_cellRange, Cells.footprint_eq,
          hunion.image_fits.cellCost_eq]
    _ = footprintOf (fun _ ↦ current.shape.cellCost)
          (cellRange region start (stop - start) ∪ cellsOf met) := by rw [hunion.cells_eq]
    _ = _ := by
        rw [footprintOf_union, footprintOf_eq_card fun _ _ ↦ rfl,
          footprintOf_cellsOf hunion.apart hmet]

/-- A union with no fewer entries starts no later. -/
theorem IsUnion.start_le_start (hunion : IsUnion region start stop current met union)
    (hsecond : IsUnion region start stop current others second) (hsubset : others ⊆ met) :
    union.start ≤ second.start := by
  rcases hsecond.start_eq with h | ⟨entry, hentry, h⟩
  · exact hunion.start_le.trans_eq h.symm
  · exact (hunion.start_le_met entry (hsubset hentry)).trans_eq h.symm

/-- A union with no fewer entries ends no earlier. -/
theorem IsUnion.stop_le_stop (hunion : IsUnion region start stop current met union)
    (hsecond : IsUnion region start stop current others second) (hsubset : others ⊆ met) :
    second.stop ≤ union.stop := by
  rcases hsecond.stop_eq with h | ⟨entry, hentry, h⟩
  · exact h.trans_le hunion.le_stop
  · exact h.trans_le (hunion.met_le_stop entry (hsubset hentry))

/-- There is one union of a range and of the entries met, whatever their order. -/
theorem IsUnion.unique (hunion : IsUnion region start stop current met union)
    (hsecond : IsUnion region start stop current others second) (hperm : met.Perm others) :
    union = second := by
  have hregion : union.region = second.region := hunion.region_eq.trans hsecond.region_eq.symm
  have hstart : union.start = second.start := le_antisymm
    (hunion.start_le_start hsecond hperm.symm.subset)
    (hsecond.start_le_start hunion hperm.subset)
  have hstop : union.stop = second.stop := le_antisymm
    (hsecond.stop_le_stop hunion hperm.subset)
    (hunion.stop_le_stop hsecond hperm.symm.subset)
  have hsize : union.image.size = second.image.size := by
    rw [JournalEntry.stop, JournalEntry.stop, hstart] at hstop
    omega
  have himage : union.image = second.image := by
    apply Cells.ext_cell?
    · rw [hunion.image_fits.1, hsecond.image_fits.1]
    · intro position
      by_cases hinside : position < union.image.size
      · have hfirst := hunion.cell?_image _ (Nat.le_add_right _ position)
          (Nat.add_lt_add_left hinside _)
        have hlast := hsecond.cell?_image _ (Nat.le_add_right _ position)
          (Nat.add_lt_add_left (hsize ▸ hinside) _)
        rw [Nat.add_sub_cancel_left] at hfirst hlast
        rw [hfirst, hlast, hstart, imageIn_perm hunion.apart hperm]
      · rw [(Cells.cell?_eq_none_iff _ _).mpr (Nat.le_of_not_lt hinside),
          (Cells.cell?_eq_none_iff _ _).mpr (hsize ▸ Nat.le_of_not_lt hinside)]
  cases union
  cases second
  simp_all only

/-- The order in which entries are merged does not matter. -/
theorem merged_perm (hmerge : IsMergeable region start stop current met)
    (hperm : met.Perm others) :
    merged region start stop current met = merged region start stop current others :=
  (isUnion_merged hmerge).unique (isUnion_merged (hmerge.perm hperm)) hperm

end Union

/-! ### One recording -/

/-- What every journal keeps: entries of one array neither overlap nor touch, and their images take
the bytes counted, which are no more than the capacity. -/
structure Sound (journal : Journal) : Prop where
  apart : journal.entries.Pairwise JournalEntry.Apart
  used_eq : journal.used = bytesOf journal.entries
  used_le : journal.used ≤ journal.capacity

/-- A journal with nothing recorded is sound. -/
theorem sound_empty (capacity : Nat) : (empty capacity).Sound where
  apart := .nil
  used_eq := rfl
  used_le := Nat.zero_le capacity

/-- The cells of a range that are not covered yet. -/
def missing (journal : Journal) (region start length : Nat) : Finset (Nat × Nat) :=
  cellRange region start length \ journal.covered

/-- The bytes that recording a range needs: those of its cells that are not covered yet. -/
def needed (journal : Journal) (region start length : Nat) (current : Cells) : Nat :=
  (journal.missing region start length).card * current.shape.cellCost

/-- Whether a range lies inside the cells presented with it, and the entries that there are of the
array fit these cells. -/
structure Admits (journal : Journal) (region start length : Nat) (current : Cells) : Prop where
  inside : start + length ≤ current.size
  fits : ∀ entry ∈ journal.entries, entry.region = region →
    entry.image.FitsAt entry.start current.shape

/-- What a successful recording leaves: the images taken before win, and cells of the range that had
none get their current contents. -/
structure IsRecorded (journal : Journal) (region start length : Nat) (current : Cells)
    (after : Journal) : Prop where
  sound : after.Sound
  fits : ∀ entry ∈ after.entries, entry ∈ journal.entries ∨
    entry.region = region ∧ entry.image.FitsAt entry.start current.shape
  image : ∀ other position, after.image? other position =
    (journal.image? other position).or
      (if (other, position) ∈ cellRange region start length then current.cell? position else none)
  used : after.used = journal.used + journal.needed region start length current
  allocations : after.allocations = journal.allocations
  capacity : after.capacity = journal.capacity

/-- A recording adds the cells of its range to those covered. -/
theorem IsRecorded.covered_eq {journal after : Journal} {region start length : Nat}
    {current : Cells} (hrecorded : journal.IsRecorded region start length current after)
    (hinside : start + length ≤ current.size) :
    after.covered = cellRange region start length ∪ journal.covered := by
  ext ⟨other, position⟩
  rw [Finset.mem_union, covered, covered, ← isSome_imageIn_iff, ← isSome_imageIn_iff]
  have himage := hrecorded.image other position
  unfold image? at himage
  rw [himage, Option.isSome_or, Bool.or_eq_true, or_comm]
  apply or_congr_left
  by_cases hrange : (other, position) ∈ cellRange region start length
  · rw [if_pos hrange, Cells.isSome_cell?_iff]
    refine iff_of_true ?_ hrange
    have hcell := mem_cellRange.mp hrange
    omega
  · simp [hrange]

/-- The bytes of two lots of entries. -/
theorem bytesOf_append (entries others : List JournalEntry) :
    bytesOf (entries ++ others) = bytesOf entries + bytesOf others := by
  induction entries with
  | nil => exact (Nat.zero_add _).symm
  | cons entry rest ih =>
    change entry.image.footprint + bytesOf (rest ++ others) =
      entry.image.footprint + bytesOf rest + bytesOf others
    rw [ih, Nat.add_assoc]

/-- The order of entries does not matter for their bytes. -/
theorem bytesOf_perm {entries others : List JournalEntry} (hperm : entries.Perm others) :
    bytesOf entries = bytesOf others :=
  hperm.foldr_eq' (fun first _ second _ total ↦
    Nat.add_left_comm second.image.footprint first.image.footprint total) 0

section Record

variable {journal : Journal} {region start length : Nat} {current : Cells}

/-- The entries that a range meets can be merged with it. -/
theorem isMergeable_filter (hsound : journal.Sound)
    (hadmits : journal.Admits region start length current) :
    IsMergeable region start (start + length) current
      (journal.entries.filter (·.meets region start (start + length))) where
  start_le_stop := Nat.le_add_right start length
  stop_le_size := hadmits.inside
  apart := hsound.apart.filter _
  meets := fun _ hentry ↦ (List.mem_filter.mp hentry).2
  fits := fun entry hentry ↦ by
    obtain ⟨hmem, hmeets⟩ := List.mem_filter.mp hentry
    exact hadmits.fits entry hmem (JournalEntry.meets_iff.mp hmeets).1

/-- Of the cells of a range, those that are covered are covered by an entry that meets it. -/
theorem missing_eq (journal : Journal) (region start length : Nat) :
    journal.missing region start length = cellRange region start length \
      cellsOf (journal.entries.filter (·.meets region start (start + length))) := by
  ext ⟨other, position⟩
  rw [missing, Finset.mem_sdiff, Finset.mem_sdiff, covered, mem_cellsOf, mem_cellsOf]
  refine and_congr_right fun hrange ↦ not_congr ?_
  rw [mem_cellRange] at hrange
  constructor
  · rintro ⟨entry, hentry, hcell⟩
    have hparts := JournalEntry.mem_cells.mp hcell
    have hmeets : entry.meets region start (start + length) :=
      JournalEntry.meets_iff.mpr ⟨hparts.1.symm.trans hrange.1, by omega, by omega⟩
    exact ⟨entry, List.mem_filter.mpr ⟨hentry, hmeets⟩, hcell⟩
  · rintro ⟨entry, hentry, hcell⟩
    exact ⟨entry, (List.mem_filter.mp hentry).1, hcell⟩

/-- The new entry needs what recording the range needs and what the entries replaced needed. -/
theorem footprint_merged (hsound : journal.Sound)
    (hadmits : journal.Admits region start length current) :
    (merged region start (start + length) current
        (journal.entries.filter (·.meets region start (start + length)))).image.footprint =
      journal.needed region start length current +
        bytesOf (journal.entries.filter (·.meets region start (start + length))) := by
  have hfootprint := (isUnion_merged (isMergeable_filter hsound hadmits)).footprint_eq
  rwa [Nat.add_sub_cancel_left, ← missing_eq] at hfootprint

/-- A range that needs no new entry is covered. -/
theorem subset_covered (hshort : length = 0 ∨ isCovered start (start + length)
      (journal.entries.filter (·.meets region start (start + length)))) :
    cellRange region start length ⊆ journal.covered := by
  rintro ⟨other, position⟩ hcell
  rw [mem_cellRange] at hcell
  rcases hshort with hempty | hcovered
  · omega
  · generalize hmet : journal.entries.filter (·.meets region start (start + length)) = met
      at hcovered
    match met, hcovered with
    | [only], hcovered =>
      have honly : only ∈ journal.entries ∧ only.meets region start (start + length) :=
        List.mem_filter.mp (hmet ▸ List.mem_singleton_self only)
      rw [isCovered, Bool.and_eq_true, decide_eq_true_eq, decide_eq_true_eq] at hcovered
      have hregion := (JournalEntry.meets_iff.mp honly.2).1
      exact mem_cellsOf.mpr ⟨only, honly.1, JournalEntry.mem_cells.mpr
        ⟨hcell.1.trans hregion.symm, by omega, by omega⟩⟩

/-- A covered range needs nothing. -/
theorem needed_of_subset_covered (hcovered : cellRange region start length ⊆ journal.covered) :
    journal.needed region start length current = 0 := by
  rw [needed, missing, Finset.sdiff_eq_empty_iff_subset.mpr hcovered, Finset.card_empty,
    Nat.zero_mul]

/-- Recording a covered range leaves the journal as it is. -/
theorem isRecorded_self (hsound : journal.Sound)
    (hcovered : cellRange region start length ⊆ journal.covered) :
    journal.IsRecorded region start length current journal where
  sound := hsound
  fits := fun _ hentry ↦ Or.inl hentry
  image := fun other position ↦ by
    by_cases hcell : (other, position) ∈ cellRange region start length
    · obtain ⟨cell, himage⟩ := Option.isSome_iff_exists.mp
        ((isSome_imageIn_iff journal.entries other position).mpr (hcovered hcell))
      rw [image?, himage, Option.some_or]
    · rw [if_neg hcell, Option.or_none]
  used := by rw [needed_of_subset_covered hcovered, Nat.add_zero]
  allocations := rfl
  capacity := rfl

/-- The entries once a range is recorded that needs a new one, which replaces those that the range
meets. -/
def replaced (journal : Journal) (region start length : Nat) (current : Cells) :
    List JournalEntry :=
  journal.entries.filter (!·.meets region start (start + length)) ++
    [merged region start (start + length) current
      (journal.entries.filter (·.meets region start (start + length)))]

/-- A range meets some of the entries and misses the others. -/
theorem missed_append_met_perm (journal : Journal) (region start stop : Nat) :
    (journal.entries.filter (!·.meets region start stop) ++
      journal.entries.filter (·.meets region start stop)).Perm journal.entries :=
  List.perm_append_comm.trans
    (List.filter_append_perm (fun entry ↦ entry.meets region start stop) journal.entries)

/-- The entries stay apart. -/
theorem apart_replaced (hsound : journal.Sound)
    (hadmits : journal.Admits region start length current) :
    (journal.replaced region start length current).Pairwise JournalEntry.Apart := by
  have hunion := isUnion_merged (isMergeable_filter hsound hadmits)
  rw [replaced, List.pairwise_append]
  refine ⟨hsound.apart.filter _, List.pairwise_singleton _ _, ?_⟩
  intro other hother entry hentry
  obtain ⟨hmem, hmiss⟩ := List.mem_filter.mp hother
  rw [Bool.not_eq_true', ← Bool.not_eq_true] at hmiss
  rw [List.mem_singleton.mp hentry]
  apply hunion.apart_of_not_meets _ hmiss
  intro met hmet
  obtain ⟨hmetMem, hmeets⟩ := List.mem_filter.mp hmet
  apply hsound.apart.forall hmem hmetMem
  intro hsame
  rw [hsame] at hmiss
  exact hmiss hmeets

/-- The bytes of the images grow by what recording the range needs. -/
theorem bytesOf_replaced (hsound : journal.Sound)
    (hadmits : journal.Admits region start length current) :
    bytesOf (journal.replaced region start length current) =
      bytesOf journal.entries + journal.needed region start length current := by
  have hsingle : ∀ entry : JournalEntry, bytesOf [entry] = entry.image.footprint := by
    intro entry
    exact Nat.add_zero _
  rw [replaced, bytesOf_append, hsingle, footprint_merged hsound hadmits,
    ← bytesOf_perm (journal.missed_append_met_perm region start (start + length)), bytesOf_append]
  omega

/-- The images taken before win, and cells of the range that had none get their current contents. -/
theorem imageIn_replaced (hsound : journal.Sound)
    (hadmits : journal.Admits region start length current) (other position : Nat) :
    imageIn (journal.replaced region start length current) other position =
      (imageIn journal.entries other position).or
        (if (other, position) ∈ cellRange region start length then current.cell? position
          else none) := by
  have hcell := (isUnion_merged (isMergeable_filter hsound hadmits)).cell?_eq other position
  rw [Nat.add_sub_cancel_left] at hcell
  have hperm := (journal.missed_append_met_perm region start (start + length)).symm
  rw [imageIn_perm hsound.apart hperm, replaced, imageIn_append, imageIn_append, imageIn_cons,
    imageIn_nil, hcell, Option.or_none, Option.or_assoc]

/-- What a recording that makes a new entry leaves. -/
theorem isRecorded_replaced (hsound : journal.Sound)
    (hadmits : journal.Admits region start length current)
    (hroom : journal.needed region start length current ≤ journal.remaining) :
    journal.IsRecorded region start length current { journal with
      entries := journal.replaced region start length current
      used := journal.used + journal.needed region start length current } := by
  constructor
  case sound =>
    constructor
    case apart => exact apart_replaced hsound hadmits
    case used_eq =>
      rw [bytesOf_replaced hsound hadmits, hsound.used_eq]
    case used_le =>
      have hle := hsound.used_le
      rw [remaining] at hroom
      show journal.used + journal.needed region start length current ≤ journal.capacity
      omega
  case fits =>
    intro entry hentry
    rcases List.mem_append.mp hentry with hold | hnew
    · exact Or.inl (List.mem_filter.mp hold).1
    · rw [List.mem_singleton.mp hnew]
      exact Or.inr ⟨rfl, (isUnion_merged (isMergeable_filter hsound hadmits)).image_fits⟩
  case image => exact imageIn_replaced hsound hadmits
  case used => rfl
  case allocations => rfl
  case capacity => rfl

/-- A recording succeeds if there is room for the cells not covered yet. -/
theorem record_eq_ok (hsound : journal.Sound)
    (hadmits : journal.Admits region start length current)
    (hroom : journal.needed region start length current ≤ journal.remaining) :
    ∃ after, journal.record region start length current = .ok after ∧
      journal.IsRecorded region start length current after := by
  by_cases hshort : length = 0 ∨ isCovered start (start + length)
      (journal.entries.filter (·.meets region start (start + length)))
  · exact ⟨journal, if_pos hshort, isRecorded_self hsound (subset_covered hshort)⟩
  · refine ⟨_, ?_, isRecorded_replaced hsound hadmits hroom⟩
    rw [record]
    dsimp only
    rw [if_neg hshort, footprint_merged hsound hadmits, Nat.add_sub_cancel]
    exact if_neg (Nat.not_lt.mpr hroom)

/-- A recording for which there is no room says what it needs and what there is. -/
theorem record_eq_error (hsound : journal.Sound)
    (hadmits : journal.Admits region start length current)
    (hfull : journal.remaining < journal.needed region start length current) :
    journal.record region start length current =
      .error (.bufferFull (journal.needed region start length current) journal.remaining) := by
  have hshort : ¬ (length = 0 ∨ isCovered start (start + length)
      (journal.entries.filter (·.meets region start (start + length)))) := by
    intro hshort
    rw [needed_of_subset_covered (subset_covered hshort)] at hfull
    exact Nat.not_lt_zero _ hfull
  rw [record]
  dsimp only
  rw [if_neg hshort, footprint_merged hsound hadmits, Nat.add_sub_cancel]
  exact if_pos hfull

/-- A recording that succeeds leaves what it should. -/
theorem isRecorded_of_ok (hsound : journal.Sound)
    (hadmits : journal.Admits region start length current) {after : Journal}
    (hrecord : journal.record region start length current = .ok after) :
    journal.IsRecorded region start length current after := by
  rcases Nat.lt_or_ge journal.remaining (journal.needed region start length current)
    with hfull | hroom
  · exact nomatch hrecord.symm.trans (record_eq_error hsound hadmits hfull)
  · obtain ⟨found, hfound, hrecorded⟩ := record_eq_ok hsound hadmits hroom
    exact Except.ok.inj (hfound.symm.trans hrecord) ▸ hrecorded

end Record

end Journal

end SmartCard
