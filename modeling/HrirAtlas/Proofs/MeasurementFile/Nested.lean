import HrirAtlas.Proofs.Stage
import HrirAtlas.Proofs.Tensor
import HrirAtlas.Tensor.Nested

/-
Nested lists that make an array fill it. The walk that finds their shape is open until it has come to
the end of its first path, and from then on it only compares: a walk that finds nothing ragged leaves
a settled outline as it is, and every list that it has passed has the length of its axis. So the lists
have as many elements as their shape has places.
-/

namespace HrirAtlas.Nested

variable {α : Type}

/-! ## Lists of a shape -/

/-- Nested lists with as many items on every axis as a shape says, and no lists below the last. -/
def Fits : List Nat → Setting α → Prop
  | [], s => ∀ items, s ≠ .list items
  | length :: shape, s => ∃ items, s = .list items ∧ items.length = length ∧ ∀ item ∈ items, Fits shape item

section Elements

variable [Scalar α]

theorem elements_of_no_list {s : Setting α} (h : ∀ items, s ≠ .list items) :
    elements s = (element s).map ([·]) := by
  unfold elements
  split
  · exact absurd rfl (h _)
  · rfl

theorem length_elementsOfAll {size : Nat} : ∀ {items : List (Setting α)} {values : List α},
    (∀ item ∈ items, ∀ values, elements item = .ok values → values.length = size) →
      elementsOfAll items = .ok values → values.length = items.length * size
  | [], values, _, h => by
    unfold elementsOfAll at h
    cases h
    simp
  | item :: rest, values, hitems, h => by
    unfold elementsOfAll at h
    obtain ⟨first, hfirst, h⟩ := except_bind_ok h
    obtain ⟨later, hlater, h⟩ := except_bind_ok h
    cases h
    have hrest := length_elementsOfAll (fun item hitem => hitems item (List.mem_cons_of_mem _ hitem)) hlater
    rw [List.length_append, hitems item List.mem_cons_self first hfirst, hrest, List.length_cons, Nat.succ_mul,
      Nat.add_comm]

/-- Lists of a shape have as many elements as the shape has places. -/
theorem Fits.length_elements {shape : List Nat} {s : Setting α} {values : List α} (h : Fits shape s)
    (hvalues : elements s = .ok values) : values.length = shape.prod := by
  induction shape generalizing s values with
  | nil =>
    rw [elements_of_no_list h] at hvalues
    obtain ⟨x, -, rfl⟩ := except_map_ok hvalues
    rfl
  | cons length shape ih =>
    obtain ⟨items, rfl, rfl, hitems⟩ := h
    unfold elements at hvalues
    rw [length_elementsOfAll (fun item hitem values => ih (hitems item hitem)) hvalues, List.prod_cons]

end Elements

/-! ## The walk -/

/-- An outline after a first path: every length is that of an axis, and only the last axis is empty. -/
structure Outline.Settled (o : Outline) : Prop where
  settled : o.settled = true
  axes : o.axes = o.lengths.length
  empty : ∀ depth, o.lengths[depth]? = some 0 → o.axes = depth + 1

/-- An outline on a first path, so many lists down. -/
structure Outline.Open (o : Outline) (depth : Nat) : Prop where
  settled : o.settled = false
  lengths : o.lengths.length = depth
  pos : ∀ length ∈ o.lengths, length ≠ 0

/-- The outline inside a list, whose length is new to it on a first path only. -/
def Outline.enter (o : Outline) (length : Nat) : Outline :=
  if o.settled then o else { o with lengths := o.lengths ++ [length] }

section Steps

variable {depth : Nat} {o : Outline}

theorem ragged_of_value (h : (o.value depth).ragged = false) : o.ragged = false := by
  unfold Outline.value at h
  split at h
  · exact h
  · exact (Bool.or_eq_false_iff.1 h).1

/-- A list is walked where there is an axis for it and its length does not contradict another one. -/
theorem survey_list {items : List (Setting α)} (h : (survey depth o (.list items)).ragged = false) :
    (o.settled = true → o.axes ≠ depth ∧ o.lengths[depth]? = some items.length) ∧
      survey depth o (.list items) =
        if items.isEmpty then (o.enter items.length).close depth
        else surveyAll (depth + 1) (o.enter items.length) items := by
  unfold survey at h ⊢
  split at h
  · cases h
  rename_i haxes
  split at h
  · cases h
  rename_i hlength
  rw [if_neg haxes, if_neg hlength]
  refine ⟨fun hsettled => ⟨haxes, ?_⟩, rfl⟩
  by_contra hne
  exact hlength ⟨hsettled, hne⟩

theorem Outline.Settled.enter (h : o.Settled) (length : Nat) : o.enter length = o := if_pos h.settled

theorem Outline.Open.enter (h : o.Open depth) (length : Nat) :
    o.enter length = { o with lengths := o.lengths ++ [length] } := by
  unfold Outline.enter
  rw [h.settled]
  rfl

/-- A value that is no list ends a first path. -/
theorem Outline.Open.value (h : o.Open depth) : (o.value depth).Settled ∧ (o.value depth).lengths = o.lengths := by
  have hempty : ∀ k, o.lengths[k]? ≠ some 0 := fun k hk => h.pos 0 (List.mem_of_getElem? hk) rfl
  unfold Outline.value
  split
  · rename_i haxes
    exact ⟨⟨rfl, haxes.trans h.lengths.symm, fun k hk => absurd hk (hempty k)⟩, rfl⟩
  · exact ⟨⟨rfl, h.lengths.symm, fun k hk => absurd hk (hempty k)⟩, rfl⟩

/-- So does an empty list. -/
theorem Outline.Open.close (h : o.Open depth) : ((o.enter 0).close depth).Settled ∧
    ((o.enter 0).close depth).lengths = o.lengths ++ [0] := by
  rw [h.enter]
  refine ⟨⟨rfl, ?_, fun k hk => ?_⟩, rfl⟩
  · rw [Outline.close, List.length_append, h.lengths]
    rfl
  · rw [Outline.close, List.getElem?_append] at hk
    split at hk
    · exact absurd rfl (h.pos 0 (List.mem_of_getElem? hk))
    · rename_i hlt
      have hk' : k - o.lengths.length < 1 := (List.getElem?_eq_some_iff.1 hk).choose
      have hlast : k = depth := by rw [← h.lengths]; omega
      rw [hlast, Outline.close]

theorem Outline.Open.deeper (h : o.Open depth) {length : Nat} (hpos : length ≠ 0) :
    (o.enter length).Open (depth + 1) := by
  rw [h.enter]
  refine ⟨h.settled, by rw [List.length_append, h.lengths]; rfl, fun n hn => ?_⟩
  rcases List.mem_append.1 hn with hn | hn
  · exact h.pos n hn
  · rwa [List.mem_singleton.1 hn]

/-- A settled outline takes a value that is no list below its last axis only. -/
theorem Outline.Settled.value (h : o.Settled) (hragged : (o.value depth).ragged = false) :
    o.value depth = o ∧ o.lengths.drop depth = [] := by
  unfold Outline.value at hragged ⊢
  split at hragged
  · rename_i haxes
    rw [if_pos haxes]
    refine ⟨?_, List.drop_eq_nil_of_le (by rw [← h.axes, haxes])⟩
    rw [← h.settled]
  · rw [h.settled, Bool.or_true] at hragged
    cases hragged

theorem Outline.Settled.close (h : o.Settled) (hlength : o.lengths[depth]? = some 0) : o.close depth = o := by
  unfold Outline.close
  rw [← h.empty depth hlength, ← h.settled]

end Steps

mutual

/-- What is ragged stays ragged. -/
theorem ragged_of_survey {depth : Nat} {o : Outline} : ∀ {s : Setting α},
    (survey depth o s).ragged = false → o.ragged = false
  | .list items, h => by
    have hlist := (survey_list h).2
    have henter : (o.enter items.length).ragged = o.ragged := by unfold Outline.enter; split <;> rfl
    rw [hlist] at h
    split at h
    · exact henter ▸ h
    · exact henter ▸ ragged_of_surveyAll h
  | .null, h | .number _, h | .text _, h | .map _, h | .date _, h | .instant _, h | .bytes _, h | .set _, h
  | .pair _ _, h => ragged_of_value (by unfold survey at h; exact h)

theorem ragged_of_surveyAll {depth : Nat} {o : Outline} : ∀ {items : List (Setting α)},
    (surveyAll depth o items).ragged = false → o.ragged = false
  | [], h => h
  | item :: rest, h => by
    unfold surveyAll at h
    exact ragged_of_survey (ragged_of_surveyAll h)

end

mutual

/-- A settled outline stays, and what is walked fits its axes from there on. -/
theorem Outline.Settled.survey {depth : Nat} {o : Outline} (h : o.Settled) : ∀ {s : Setting α},
    (survey depth o s).ragged = false → Nested.survey depth o s = o ∧ Fits (o.lengths.drop depth) s
  | .list items, hragged => by
    obtain ⟨hsame, hlist⟩ := survey_list hragged
    obtain ⟨-, hlength⟩ := hsame h.settled
    obtain ⟨hdepth, hitems⟩ := List.getElem?_eq_some_iff.1 hlength
    rw [List.drop_eq_getElem_cons hdepth, hitems]
    rw [hlist] at hragged ⊢
    rw [h.enter] at hragged ⊢
    split at hragged
    · rename_i hempty
      rw [List.isEmpty_iff] at hempty
      subst hempty
      exact ⟨h.close hlength, [], rfl, rfl, nofun⟩
    · rename_i hempty
      obtain ⟨hsame, hfits⟩ := h.surveyAll hragged
      rw [if_neg hempty]
      exact ⟨hsame, items, rfl, rfl, hfits⟩
  | .null, hragged | .number _, hragged | .text _, hragged | .map _, hragged | .date _, hragged | .instant _, hragged
  | .bytes _, hragged | .set _, hragged | .pair _ _, hragged => by
    unfold Nested.survey at hragged ⊢
    obtain ⟨hsame, hdrop⟩ := h.value hragged
    rw [hdrop]
    exact ⟨hsame, nofun⟩

theorem Outline.Settled.surveyAll {depth : Nat} {o : Outline} (h : o.Settled) : ∀ {items : List (Setting α)},
    (surveyAll depth o items).ragged = false →
      Nested.surveyAll depth o items = o ∧ ∀ item ∈ items, Fits (o.lengths.drop depth) item
  | [], _ => ⟨by unfold Nested.surveyAll; rfl, nofun⟩
  | item :: rest, hragged => by
    unfold Nested.surveyAll at hragged ⊢
    obtain ⟨hsame, hfirst⟩ := h.survey (ragged_of_surveyAll hragged)
    rw [hsame] at hragged ⊢
    obtain ⟨hlast, hrest⟩ := h.surveyAll hragged
    exact ⟨hlast, List.forall_mem_cons.2 ⟨hfirst, hrest⟩⟩

end

/-- An open outline is settled by what is walked, which fits the axes that are found on the way. -/
theorem Outline.Open.survey {depth : Nat} {o : Outline} (h : o.Open depth) : ∀ {s : Setting α},
    (survey depth o s).ragged = false → (Nested.survey depth o s).Settled ∧
      ∃ shape, (Nested.survey depth o s).lengths = o.lengths ++ shape ∧ Fits shape s
  | .list [], hragged => by
    rw [(survey_list hragged).2]
    obtain ⟨hsettled, hlengths⟩ := h.close
    exact ⟨hsettled, [0], hlengths, [], rfl, rfl, nofun⟩
  | .list (item :: rest), hragged => by
    have hlist := (survey_list hragged).2
    rw [List.isEmpty_cons, if_neg nofun] at hlist
    unfold Nested.surveyAll at hlist
    rw [hlist] at hragged ⊢
    have hopen : (o.enter (item :: rest).length).Open (depth + 1) := h.deeper nofun
    obtain ⟨hsettled, shape, hlengths, hfirst⟩ := hopen.survey (ragged_of_surveyAll hragged)
    obtain ⟨hsame, hrest⟩ := hsettled.surveyAll hragged
    rw [hlengths, ← hopen.lengths, List.drop_left] at hrest
    rw [hsame]
    refine ⟨hsettled, (item :: rest).length :: shape, ?_, item :: rest, rfl, rfl, List.forall_mem_cons.2 ⟨hfirst, hrest⟩⟩
    rw [hlengths, h.enter, List.append_assoc]
    rfl
  | .null, hragged | .number _, hragged | .text _, hragged | .map _, hragged | .date _, hragged | .instant _, hragged
  | .bytes _, hragged | .set _, hragged | .pair _ _, hragged => by
    unfold Nested.survey
    obtain ⟨hsettled, hlengths⟩ := h.value
    exact ⟨hsettled, [], by rw [hlengths, List.append_nil], nofun⟩

/-- Nested lists that have a shape are of that shape. -/
theorem fits_of_shape? {s : Setting α} {shape : List Nat} (h : shape? s = .ok shape) : Fits shape s := by
  unfold shape? at h
  simp only at h
  split at h
  · rename_i hragged
    cases h
    have hopen : ({} : Outline).Open 0 := ⟨rfl, rfl, nofun⟩
    obtain ⟨hsettled, shape, hlengths, hfits⟩ := hopen.survey (by simpa using hragged)
    unfold Outline.shape
    rwa [hsettled.axes, List.take_length, hlengths]
  · split at h <;> cases h

/-- The array that nested lists stand for has a value for every place. -/
theorem full_of_tensor [Scalar α] {s : Setting α} {t : Tensor α} (h : tensor s = .ok t) : t.Full := by
  unfold tensor at h
  obtain ⟨shape, hshape, h⟩ := except_bind_ok h
  obtain ⟨values, hvalues, h⟩ := except_bind_ok h
  cases h
  exact (fits_of_shape? (except_mapError_ok hshape)).length_elements hvalues

end HrirAtlas.Nested
