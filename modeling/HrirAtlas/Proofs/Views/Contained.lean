import HrirAtlas.Proofs.Import.Outcome
import HrirAtlas.Proofs.Views.Changes

/-
Views stay in their channel and in their field. A slot may come to share the content of another, and
then of one that shares a third, but only ever with slots of rows of one length of its field, because
rows are mirrored from rows of their own length. So a view that is reached from a slot is always a row
of the channel that it is a view for, at the index of such a slot, and no change of the data set
touches any other row of the buffer.
-/

namespace HrirAtlas

open Relation Stage

variable {α : Type}

namespace Views

/-! ## Rows of one length -/

/-- The storage indices of a row. -/
def rowIndices (r : Row α) : List Nat := r.slots.map Slot.index

/-- The storage indices of fields, by field and row. -/
def gridIndices (fields : List (Field α)) : List (List (List Nat)) := fields.map fun f => f.rows.map rowIndices

/-- Two storage indices stand in rows of one length of one field. -/
def Alike (grid : List (List (List Nat))) (i k : Nat) : Prop :=
  ∃ field ∈ grid, ∃ row ∈ field, ∃ other ∈ field, row.length = other.length ∧ i ∈ row ∧ k ∈ other

/-- The items of a list whose images have nothing twice are told apart by a member of their images. -/
theorem eq_of_nodup_flatMap {β γ : Type} {l : List β} {g : β → List γ} (h : (l.flatMap g).Nodup) {a b : β} (ha : a ∈ l)
    (hb : b ∈ l) {x : γ} (hxa : x ∈ g a) (hxb : x ∈ g b) : a = b := by
  by_contra hne
  have hsymm : Std.Symm (Function.onFun List.Disjoint g) := ⟨fun _ _ hdisjoint => hdisjoint.symm⟩
  exact (List.nodup_flatMap.1 h).2.forall ha hb hne hxa hxb

section Alike

variable {grid : List (List (List Nat))} {i j k : Nat}

theorem Alike.symm (h : Alike grid i k) : Alike grid k i := by
  obtain ⟨field, hfield, row, hrow, other, hother, hlength, hi, hk⟩ := h
  exact ⟨field, hfield, other, hother, row, hrow, hlength.symm, hk, hi⟩

theorem Alike.trans (hnodup : (grid.flatMap List.flatten).Nodup) (h : Alike grid i j) (h' : Alike grid j k) :
    Alike grid i k := by
  obtain ⟨field, hfield, row, hrow, other, hother, hlength, hi, hj⟩ := h
  obtain ⟨field', hfield', row', hrow', last, hlast, hlength', hj', hk⟩ := h'
  -- an index stands in one row only, so the two rows that hold `j` are the same
  obtain rfl : field = field' := eq_of_nodup_flatMap hnodup hfield hfield'
    (List.mem_flatten.2 ⟨other, hother, hj⟩) (List.mem_flatten.2 ⟨row', hrow', hj'⟩)
  have hrows : (field.flatMap id).Nodup := by
    rw [List.flatMap_id]
    exact (List.nodup_flatMap.1 hnodup).1 field hfield
  obtain rfl : other = row' := eq_of_nodup_flatMap hrows hother hrow' hj hj'
  exact ⟨field, hfield, row, hrow, last, hlast, hlength.trans hlength', hi, hk⟩

end Alike

theorem flatten_gridIndices (fields : List (Field α)) :
    (gridIndices fields).flatMap List.flatten = (fields.flatMap Field.slots).map Slot.index := by
  unfold gridIndices rowIndices Field.slots
  simp only [List.flatMap_map, List.map_flatMap]
  rfl

/-- Slots of rows of one length of a field have indices alike. -/
theorem alike_of_mem {fields : List (Field α)} {f : Field α} (hf : f ∈ fields) {r other : Row α} (hr : r ∈ f.rows)
    (hother : other ∈ f.rows) (hlength : r.slots.length = other.slots.length) {slot k : Slot α} (hslot : slot ∈ r.slots)
    (hk : k ∈ other.slots) : Alike (gridIndices fields) slot.index k.index := by
  refine ⟨_, List.mem_map_of_mem hf, _, List.mem_map_of_mem hr, _, List.mem_map_of_mem hother, ?_,
    List.mem_map_of_mem hslot, List.mem_map_of_mem hk⟩
  unfold rowIndices
  rw [List.length_map, List.length_map, hlength]

/-- An index that is alike the index of a slot belongs to a slot of a row as long in its field. -/
theorem exists_slot_of_alike {fields : List (Field α)} (hnodup : ((fields.flatMap Field.slots).map Slot.index).Nodup)
    {f : Field α} (hf : f ∈ fields) {r : Row α} (hr : r ∈ f.rows) {slot : Slot α} (hslot : slot ∈ r.slots) {k : Nat}
    (h : Alike (gridIndices fields) slot.index k) :
    ∃ other ∈ f.rows, other.slots.length = r.slots.length ∧ ∃ found ∈ other.slots, found.index = k := by
  rw [List.map_flatMap] at hnodup
  obtain ⟨_, hfield, _, hrow, _, hother, hlength, hi, hk⟩ := h
  obtain ⟨f', hf', rfl⟩ := List.mem_map.1 hfield
  obtain ⟨r', hr', rfl⟩ := List.mem_map.1 hrow
  obtain ⟨last, hlast, rfl⟩ := List.mem_map.1 hother
  have hmem : ∀ {f : Field α} {r : Row α}, r ∈ f.rows → ∀ {i}, i ∈ rowIndices r → i ∈ f.slots.map Slot.index := by
    intro f r hr i hi
    obtain ⟨slot, hslot, rfl⟩ := List.mem_map.1 hi
    exact List.mem_map_of_mem (List.mem_flatMap.2 ⟨r, hr, hslot⟩)
  have hself : slot.index ∈ rowIndices r := List.mem_map_of_mem hslot
  obtain rfl : f = f' := eq_of_nodup_flatMap hnodup hf hf' (hmem hr hself) (hmem hr' hi)
  have hrows : (f.rows.flatMap rowIndices).Nodup := by
    have hfield := (List.nodup_flatMap.1 hnodup).1 f hf
    rwa [Field.slots, List.map_flatMap] at hfield
  obtain rfl : r = r' := eq_of_nodup_flatMap hrows hr hr' hself hi
  unfold rowIndices at hlength
  rw [List.length_map, List.length_map] at hlength
  exact ⟨last, hlast, hlength.symm, List.mem_map.1 hk⟩

/-! ## Mirroring -/

/-- Rows with other contents: the indices stay, and each slot shares the content that a slot of a row of
its length had. -/
structure Shares (rows rows' : List (Row α)) : Prop where
  indices : rows'.map rowIndices = rows.map rowIndices
  contents : ∀ r' ∈ rows', ∀ slot' ∈ r'.slots, ∃ r ∈ rows, r.slots.length = r'.slots.length ∧
    ∃ slot ∈ r.slots, slot'.content = slot.content

theorem Shares.refl (rows : List (Row α)) : Shares rows rows :=
  ⟨rfl, fun r hr slot hslot => ⟨r, hr, rfl, slot, hslot, rfl⟩⟩

theorem Shares.trans {rows rows' rows'' : List (Row α)} (h : Shares rows rows') (h' : Shares rows' rows'') :
    Shares rows rows'' := by
  refine ⟨h'.indices.trans h.indices, fun r'' hr'' slot'' hslot'' => ?_⟩
  obtain ⟨r', hr', hlength', slot', hslot', hcontent'⟩ := h'.contents r'' hr'' slot'' hslot''
  obtain ⟨r, hr, hlength, slot, hslot, hcontent⟩ := h.contents r' hr' slot' hslot'
  exact ⟨r, hr, hlength.trans hlength', slot, hslot, hcontent'.trans hcontent⟩

theorem rowIndices_mirrorRow {target source : Row α} (h : source.slots.length = target.slots.length) :
    rowIndices (Coverage.mirrorRow target source) = rowIndices target := by
  unfold rowIndices Coverage.mirrorRow
  refine List.ext_getElem (by simp [h]) fun i h1 h2 => ?_
  simp

/-- A row may give way to its mirror image. -/
theorem shares_set {rows : List (Row α)} {row : Nat} {target source : Row α} (htarget : rows[row]? = some target)
    (hsource : source ∈ rows) (hlength : source.slots.length = target.slots.length) :
    Shares rows (rows.set row (Coverage.mirrorRow target source)) := by
  have hindices := rowIndices_mirrorRow hlength
  have hlength' : (Coverage.mirrorRow target source).slots.length = target.slots.length := by
    simpa [rowIndices] using congrArg List.length hindices
  refine ⟨?_, fun r' hr' slot' hslot' => ?_⟩
  · rw [List.map_set, hindices]
    obtain ⟨hlt, rfl⟩ := List.getElem?_eq_some_iff.1 htarget
    have hsame := List.set_getElem_self (show row < (rows.map rowIndices).length by rwa [List.length_map])
    rwa [List.getElem_map] at hsame
  · rcases List.mem_or_eq_of_mem_set hr' with hr' | rfl
    · exact ⟨r', hr', rfl, slot', hslot', rfl⟩
    · obtain ⟨slot, hslot, hcontent⟩ := Coverage.content_of_mem_mirrorRow hslot'
      exact ⟨source, hsource, hlength.trans hlength'.symm, slot, hslot, hcontent⟩

theorem shares_coverFields [Scalar α] (d : DataSet α) (index : Nat) (fields : List (Field α)) :
    List.Forall₂ (fun f f' => Shares f.rows f'.rows) fields (Coverage.coverFields d index fields).1 :=
  Coverage.coverFields_steps Shares.refl Shares.trans shares_set d index fields

section Fields

variable {fields fields' : List (Field α)}

theorem gridIndices_of_shares (h : List.Forall₂ (fun f f' => Shares f.rows f'.rows) fields fields') :
    gridIndices fields' = gridIndices fields := by
  induction h with
  | nil => rfl
  | cons hfirst _ ih =>
    unfold gridIndices at ih ⊢
    rw [List.map_cons, List.map_cons, hfirst.indices, ih]

end Fields

/-! ## The invariant -/

/-- Buffers of one shape: as many channels and slots, and rows of the same lengths. -/
structure SameShape (b b' : Buffer α) : Prop where
  channels : b.channels = b'.channels
  slots : b.slots = b'.slots
  size : b.size = b'.size
  rows : b.rows.map Array.size = b'.rows.map Array.size

/-- A data set with a grid of the given indices and a buffer of the given shape, in which contents are
shared and rows are viewed only where the indices are alike. -/
structure Sound (grid : List (List (List Nat))) (b₀ : Buffer α) (d : DataSet α) : Prop where
  indices : gridIndices d.fields = grid
  buffer : ∃ b, d.buffer = some b ∧ SameShape b b₀
  contents : ∀ slot ∈ d.slots, Alike grid slot.index slot.content
  views : ∀ (place : Nat) content, d.contents[place]? = some content → ∀ (channel : Nat) ref,
    content.views[channel]? = some (some ref) → ref.channel = channel ∧ b₀.Holds ref ∧ Alike grid place ref.index

theorem Sound.start [Scalar α] {d : DataSet α} (h : Grid.Allocated d) :
    Sound (gridIndices d.fields) (Buffer.silent d.channels d.irCount d.irSize.toNat) d where
  indices := rfl
  buffer := ⟨_, h.buffer, rfl, rfl, rfl, rfl⟩
  contents slot hslot := by
    obtain ⟨f, hf, hslot'⟩ := List.mem_flatMap.1 hslot
    obtain ⟨r, hr, hslot'⟩ := List.mem_flatMap.1 hslot'
    rw [h.own slot hslot]
    exact alike_of_mem hf hr hr rfl hslot' hslot'
  views place content hcontent channel ref hview := by
    rw [h.contents] at hcontent
    obtain ⟨-, rfl⟩ := Array.mem_replicate.1 (Array.mem_of_getElem? hcontent)
    have hnone := List.mem_of_getElem? hview
    unfold Content.empty at hnone
    cases (List.mem_replicate.1 hnone).2

section Sound

variable {grid : List (List (List Nat))} {b₀ : Buffer α} {d d' : DataSet α} {slot : Slot α}
  {Retimes : DataSet α → Number α → Int → Prop}

theorem getElem?_contents {channel : Nat} {ref : RowRef} (h : (d.contentOf slot).views[channel]? = some (some ref)) :
    d.contents[slot.content]? = some (d.contentOf slot) := by
  have hlt := content_lt_of_views (List.getElem?_eq_some_iff.1 h).choose
  unfold DataSet.contentOf
  rw [Array.getD_eq_getD_getElem?, Array.getElem?_eq_getElem hlt]
  rfl

/-- The view that a slot holds for a channel is a row of that channel, at an index alike its own. -/
theorem Sound.heldView (h : Sound grid b₀ d) (hnodup : (grid.flatMap List.flatten).Nodup) (hslot : slot ∈ d.slots)
    {channel : Nat} {ref : RowRef} (hview : d.heldView slot channel = .ok ref) :
    ref.channel = channel ∧ b₀.Holds ref ∧ Alike grid slot.index ref.index := by
  unfold DataSet.heldView at hview
  split at hview
  · cases hview
  · cases hview
  · rename_i ref' hviews
    cases hview
    obtain ⟨hchannel, hholds, halike⟩ := h.views slot.content _ (getElem?_contents hviews) channel ref hviews
    exact ⟨hchannel, hholds, (h.contents slot hslot).trans hnodup halike⟩

/-- Another content may differ in a view of a row of its channel at an index alike. -/
theorem Sound.setContent (h : Sound grid b₀ d) {content : Content α} (hviews : ∀ (channel : Nat) ref,
      content.views[channel]? = some (some ref) → (d.contentOf slot).views[channel]? = some (some ref) ∨
        ref.channel = channel ∧ b₀.Holds ref ∧ Alike grid slot.content ref.index) :
    Sound grid b₀ (d.setContent slot.content content) := by
  refine ⟨h.indices, h.buffer, h.contents, fun place other hother channel ref hview => ?_⟩
  unfold DataSet.setContent at hother
  rw [Array.getElem?_setIfInBounds] at hother
  split at hother
  · rename_i hplace
    subst hplace
    split at hother
    · cases hother
      rcases hviews channel ref hview with hold | hnew
      · exact h.views slot.content _ (getElem?_contents hold) channel ref hold
      · exact hnew
    · cases hother
  · exact h.views place other hother channel ref hview

theorem map_size_setIfInBounds {rows : Array (Array α)} {place : Nat} {samples : Array α}
    (h : samples.size = (rows.getD place #[]).size) :
    (rows.setIfInBounds place samples).map Array.size = rows.map Array.size := by
  refine Array.ext (by simp) fun i h1 h2 => ?_
  rw [Array.size_map] at h2
  rw [Array.getElem_map, Array.getElem_map, Array.getElem_setIfInBounds h2]
  split
  · rename_i hplace
    subst hplace
    rw [h, Array.getD_eq_getD_getElem?, Array.getElem?_eq_getElem h2]
    rfl
  · rfl

theorem Sound.setRow (h : Sound grid b₀ d) {ref : RowRef} {samples : Array α} (hsize : samples.size = (d.row ref).size) :
    Sound grid b₀ (d.setRow ref samples) := by
  obtain ⟨b, hb, hshape⟩ := h.buffer
  unfold DataSet.row at hsize
  rw [hb] at hsize
  refine ⟨h.indices, ⟨b.setRow ref samples, ?_, hshape.channels, hshape.slots, hshape.size, ?_⟩, h.contents, h.views⟩
  · unfold DataSet.setRow
    rw [hb]
    rfl
  · exact (map_size_setIfInBounds hsize).trans hshape.rows

/-- A view of a channel and an index that are not negative is the row of both. -/
theorem holds_of_view {b : Buffer α} {channel index : Nat} {ref : RowRef} (h : b.view channel index = .ok ref) :
    ref = ⟨channel, index⟩ ∧ b.Holds ref := by
  unfold Buffer.view at h
  split at h
  · cases h
  rename_i hchannel
  obtain rfl := eq_of_wrapIndex?_natCast hchannel
  split at h
  · cases h
  rename_i hindex
  obtain rfl := eq_of_wrapIndex?_natCast hindex
  cases h
  exact ⟨rfl, lt_of_wrapIndex?_natCast hchannel, lt_of_wrapIndex?_natCast hindex⟩

theorem Sound.deposit [Signal α] (h : Sound grid b₀ d) (hdeposit : Deposit Retimes d d') : Sound grid b₀ d' := by
  cases hdeposit with
  | @view slot channel ref hslot hview =>
    obtain ⟨b, hb, hshape⟩ := h.buffer
    unfold DataSet.view at hview
    rw [hb] at hview
    obtain ⟨rfl, hchannel, hindex⟩ := holds_of_view hview
    refine h.setContent fun other ref' hother => ?_
    rw [List.getElem?_set] at hother
    split at hother
    · rename_i hsame
      subst hsame
      split at hother
      · cases hother
        exact .inr ⟨rfl, ⟨hshape.channels ▸ hchannel, hshape.slots ▸ hindex⟩, (h.contents slot hslot).symm⟩
      · cases hother
    · exact .inl hother
  | delay slot channel seconds => exact h.setContent fun _ _ hview => .inl hview
  | samples hslot hview hsamples => exact h.setRow hsamples.size
  | rate _ => exact ⟨h.indices, h.buffer, h.contents, h.views⟩

/-- Coverage shares contents among rows of one length only. -/
theorem Sound.cover [Signal α] (h : Sound grid b₀ d) (hnodup : (grid.flatMap List.flatten).Nodup) :
    Sound grid b₀ { d with fields := (Coverage.coverFields d 0 d.fields).1 } := by
  have hshares := shares_coverFields d 0 d.fields
  refine ⟨(gridIndices_of_shares hshares).trans h.indices, h.buffer, fun slot' hslot' => ?_, h.views⟩
  obtain ⟨f', hf', hslot'⟩ := List.mem_flatMap.1 hslot'
  obtain ⟨r', hr', hslot'⟩ := List.mem_flatMap.1 hslot'
  obtain ⟨f, hf, hfield⟩ := Coverage.exists_of_forall₂ hshares f' hf'
  obtain ⟨r, hr, hlength, slot, hslot, hcontent⟩ := hfield.contents r' hr' slot' hslot'
  have hold : Alike grid slot.index slot.content :=
    h.contents slot (List.mem_flatMap.2 ⟨f, hf, List.mem_flatMap.2 ⟨r, hr, hslot⟩⟩)
  have hboth : Alike grid slot'.index slot.index := by
    rw [← h.indices]
    refine ⟨_, List.mem_map_of_mem hf, rowIndices r', ?_, rowIndices r, List.mem_map_of_mem hr, ?_,
      List.mem_map_of_mem hslot', List.mem_map_of_mem hslot⟩
    · rw [← hfield.indices]
      exact List.mem_map_of_mem hr'
    · unfold rowIndices
      rw [List.length_map, List.length_map, hlength]
  rw [hcontent]
  exact hboth.trans hnodup hold

theorem Sound.change [Signal α] (hnodup : (grid.flatMap List.flatten).Nodup) (d d' : DataSet α) (hchange : Change Retimes d d')
    (h : Sound grid b₀ d) : Sound grid b₀ d' := by
  cases hchange with
  | deposit hdeposit => exact h.deposit hdeposit
  | cover => exact h.cover hnodup

end Sound

/-! ## Every state -/

/-- A data set in which the storage indices and the shape of the buffer are those of an allocated one,
and the view that a slot holds for a channel is a row of the buffer for that channel, at the index of a
slot in a row as long of its own field. -/
structure Contained (d₀ d : DataSet α) : Prop where
  indices : gridIndices d.fields = gridIndices d₀.fields
  buffer : ∃ b₀ b, d₀.buffer = some b₀ ∧ d.buffer = some b ∧ SameShape b b₀
  views : ∀ f ∈ d.fields, ∀ r ∈ f.rows, ∀ slot ∈ r.slots, ∀ (channel : Nat) ref, d.heldView slot channel = .ok ref →
    ref.channel = channel ∧ (∀ b, d.buffer = some b → b.Holds ref ∧ b.place ref < b.rows.size) ∧
      ∃ other ∈ f.rows, other.slots.length = r.slots.length ∧ ∃ found ∈ other.slots, found.index = ref.index

section Allocated

variable [Scalar α] {d₀ d : DataSet α}

theorem nodup_gridIndices (h : Grid.Allocated d₀) : ((gridIndices d₀.fields).flatMap List.flatten).Nodup := by
  rw [flatten_gridIndices, show d₀.fields.flatMap Field.slots = d₀.slots from rfl, h.indices]
  exact List.nodup_range

theorem Sound.contained (h₀ : Grid.Allocated d₀)
    (h : Sound (gridIndices d₀.fields) (Buffer.silent d₀.channels d₀.irCount d₀.irSize.toNat) d) : Contained d₀ d := by
  obtain ⟨b, hb, hshape⟩ := h.buffer
  refine ⟨h.indices, ⟨_, b, h₀.buffer, hb, hshape⟩, fun f hf r hr slot hslot channel ref hview => ?_⟩
  have hmem : slot ∈ d.slots := List.mem_flatMap.2 ⟨f, hf, List.mem_flatMap.2 ⟨r, hr, hslot⟩⟩
  obtain ⟨hchannel, hholds, halike⟩ := h.heldView (nodup_gridIndices h₀) hmem hview
  refine ⟨hchannel, fun b' hb' => ?_, ?_⟩
  · obtain rfl : b = b' := Option.some.inj (hb.symm.trans hb')
    have hheld : b.Holds ref := ⟨hshape.channels ▸ hholds.1, hshape.slots ▸ hholds.2⟩
    have hsize : b.rows.size = b.channels * b.slots := by
      have hcount := congrArg Array.size hshape.rows
      rw [Array.size_map, Array.size_map] at hcount
      rw [hcount, hshape.channels, hshape.slots]
      exact Array.size_replicate
    exact ⟨hheld, hsize ▸ hheld.place_lt⟩
  · have hnodup := nodup_gridIndices h₀
    rw [← h.indices, flatten_gridIndices] at hnodup
    rw [← h.indices] at halike
    exact exists_slot_of_alike hnodup hf hr hslot halike

end Allocated

/-- A change leaves the buffer, or writes the row that a slot views for a channel. -/
def WritesOnlyViews [Signal α] (d d' : DataSet α) : Prop :=
  d'.buffer = d.buffer ∨ ∃ slot ∈ d.slots, ∃ (channel : Nat) (ref : RowRef) (samples : Array α),
    d.heldView slot channel = .ok ref ∧ Written d channel ref samples ∧
      d'.buffer = d.buffer.map fun b => b.setRow ref samples

theorem writesOnlyViews_of_change [Signal α] {Retimes : DataSet α → Number α → Int → Prop} {d d' : DataSet α}
    (h : Change Retimes d d') : WritesOnlyViews d d' := by
  cases h with
  | deposit hdeposit =>
    cases hdeposit with
    | samples hslot hview hsamples => exact .inr ⟨_, hslot, _, _, _, hview, hsamples, rfl⟩
    | view | delay | rate => exact .inl rfl
  | cover => exact .inl rfl

end Views

open Views

variable [Signal α]

/-- Whatever loads, checks of coverage, onsets and magnitudes are asked of an allocated data set, in any
order and however they end, views stay contained. The operations are a chain of changes, so this holds
in the middle of an operation as well, where a change writes to no row of the buffer but one that a slot
views. -/
theorem Views.Operation.runAll_contained {layouts : List (Layout α)} {s s₀ : Session α}
    (h : Grid.allocate layouts s = .ok () s₀) {operations : List (Operation α)}
    (hload : ∀ operation ∈ operations, operation.Loadable) :
    Contained s₀.data (runAll operations s₀).data ∧ ReflTransGen (Change AnyRate) s₀.data (runAll operations s₀).data ∧
      ∀ d, ReflTransGen (Change AnyRate) s₀.data d → Contained s₀.data d ∧ ∀ d', Change AnyRate d d' → WritesOnlyViews d d' := by
  have hallocated := (Grid.allocate_ok h).1
  have hcontained : ∀ d, ReflTransGen (Change AnyRate) s₀.data d → Contained s₀.data d := fun d hd =>
    (kept_of_chain (Sound.change (nodup_gridIndices hallocated)) hd (Sound.start hallocated)).contained hallocated
  have hchain := changes_of_runAll hload s₀
  exact ⟨hcontained _ hchain, hchain, fun d hd => ⟨hcontained d hd, fun d' => writesOnlyViews_of_change⟩⟩

/-- Loading, mirroring, a load that finds its slots filled, a second coverage that starts from the mirrored
row, onsets and magnitudes. -/
def Views.upperOperations : List (Operation ℚ) :=
  [.load MeasurementSet.upperHalf (.int 96000), .cover, .load MeasurementSet.upperHalf .null, .cover, .addOnsets,
    .magnitudes (.int 2)]

/-- A stereo data set before its grid is allocated. -/
def Views.upperSession : Session ℚ where
  data := { DataSet.fresh with stereo := true, irRate := .int 48000, irPoints := 2, irSize := 3, fftSize := .int 4 }

/-- The session after them, from the allocated grid. -/
def Views.upperOutcome : Session ℚ :=
  Operation.runAll upperOperations ((Grid.allocate [Import.upperLayout]).after upperSession)

/-- The slot below the horizon ends up with a view of the row of the slot above. -/
theorem Views.Operation.runAll_contained_upperHalf :
    ∃ s₀, Grid.allocate [Import.upperLayout] upperSession = .ok () s₀ ∧
      (∀ operation ∈ upperOperations, operation.Loadable) ∧ Contained s₀.data (runAll upperOperations s₀).data ∧
      ∃ slot ∈ (runAll upperOperations s₀).data.slots, slot.index = 0 ∧
        (runAll upperOperations s₀).data.heldView slot 1 = .ok ⟨1, 3⟩ := by
  obtain ⟨_, s₀, hallocate⟩ :=
    Stage.exists_ok (x := Grid.allocate [Import.upperLayout]) (s := upperSession) (by decide +kernel)
  have hload : ∀ operation ∈ upperOperations, operation.Loadable := by
    intro operation hoperation
    simp only [upperOperations, List.mem_cons, List.not_mem_nil, or_false] at hoperation
    rcases hoperation with rfl | rfl | rfl | rfl | rfl | rfl <;> trivial
  refine ⟨s₀, hallocate, hload, (runAll_contained hallocate hload).1, ?_⟩
  have hafter : runAll upperOperations s₀ = upperOutcome := by
    unfold upperOutcome after
    rw [hallocate]
  have hmirrored : (upperOutcome.data.slots.any fun slot =>
      slot.index == 0 && (upperOutcome.data.heldView slot 1).toOption == some ⟨1, 3⟩) = true := by decide +kernel
  obtain ⟨slot, hslot, hview⟩ := List.any_eq_true.1 hmirrored
  obtain ⟨hindex, hview⟩ := Bool.and_eq_true_iff.1 hview
  rw [hafter]
  refine ⟨slot, hslot, eq_of_beq hindex, ?_⟩
  cases hheld : upperOutcome.data.heldView slot 1 with
  | ok ref =>
    rw [hheld] at hview
    exact congrArg Except.ok (Option.some.inj (eq_of_beq hview))
  | error cause =>
    rw [hheld] at hview
    cases hview

end HrirAtlas
