import HrirAtlas.Proofs.Load.Fill

/-
Which measurement fills which slot. The loop over the measurements ends well exactly when every
position can be looked up and no two measurements have the same slot. What it leaves is then a
function of who owns which storage index, and nothing else of the order or of the way there.
-/

namespace HrirAtlas.Load

variable {α : Type} [Signal α]

/-! ## Owners -/

/-- Who owns each storage index among the measurements placed so far: the measurement whose position
has the slot of that index. No two of them have the same slot. -/
structure Assigned (fields : List (Field α)) (positions : List (Spherical α)) (placed : List Nat)
    (owner : Nat → Option Nat) : Prop where
  found : ∀ measurement ∈ placed, ∃ p slot?, positions[measurement]? = some p ∧
    Grid.resolve? fields p = .ok slot? ∧ ∀ slot, slot? = some slot → owner slot.index = some measurement
  owned : ∀ index measurement, owner index = some measurement → measurement ∈ placed ∧
    ∃ p slot, positions[measurement]? = some p ∧ Grid.resolve? fields p = .ok (some slot) ∧ slot.index = index

/-- The contents with those of the measurements that own storage indices. -/
def ownedContent (m : MeasurementSet α) (d : DataSet α) (owner : Nat → Option Nat) (place : Nat) : Content α :=
  match owner place with
  | none => Content.empty d.channels
  | some measurement => storedContent m d.irRate.toScalar d.channels place measurement

/-- The rows with those of the measurements that own storage indices. -/
def ownedRow (m : MeasurementSet α) (r : Option (Resampler α)) (d : DataSet α) (owner : Nat → Option Nat)
    (ref : RowRef) : Array α :=
  match owner ref.index with
  | none => Array.replicate d.irSize.toNat 0.0
  | some measurement => storedRow m r d.irSize.toNat measurement ref.channel

theorem ownedContent_none {m : MeasurementSet α} {d : DataSet α} {owner : Nat → Option Nat} {place : Nat}
    (h : owner place = none) : ownedContent m d owner place = Content.empty d.channels := by
  unfold ownedContent; rw [h]

theorem ownedContent_some {m : MeasurementSet α} {d : DataSet α} {owner : Nat → Option Nat} {place measurement : Nat}
    (h : owner place = some measurement) :
    ownedContent m d owner place = storedContent m d.irRate.toScalar d.channels place measurement := by
  unfold ownedContent; rw [h]

theorem ownedRow_none {m : MeasurementSet α} {r : Option (Resampler α)} {d : DataSet α} {owner : Nat → Option Nat}
    {ref : RowRef} (h : owner ref.index = none) : ownedRow m r d owner ref = Array.replicate d.irSize.toNat 0.0 := by
  unfold ownedRow; rw [h]

theorem ownedRow_some {m : MeasurementSet α} {r : Option (Resampler α)} {d : DataSet α} {owner : Nat → Option Nat}
    {ref : RowRef} {measurement : Nat} (h : owner ref.index = some measurement) :
    ownedRow m r d owner ref = storedRow m r d.irSize.toNat measurement ref.channel := by
  unfold ownedRow; rw [h]

/-- The data set with the measurements that own storage indices stored there. -/
def loaded (m : MeasurementSet α) (r : Option (Resampler α)) (d : DataSet α) (owner : Nat → Option Nat) : DataSet α :=
  d.assembled (ownedContent m d owner) (ownedRow m r d owner)

/-- A set of measurements and an empty grid with a receiver for each channel and room in each row. -/
structure Ready (m : MeasurementSet α) (receivers points : Nat) (d : DataSet α) : Prop where
  shaped : m.Shaped receivers points
  allocated : Grid.Allocated d
  ears : d.channels ≤ receivers
  room : points ≤ d.irSize.toNat

section Owners

variable {fields : List (Field α)} {positions : List (Spherical α)} {placed : List Nat} {owner : Nat → Option Nat}

theorem Assigned.nobody : Assigned fields positions [] fun _ => none := ⟨nofun, nofun⟩

/-- A measurement owns one storage index at most. -/
theorem Assigned.inj (h : Assigned fields positions placed owner) {index index' measurement : Nat}
    (hi : owner index = some measurement) (hi' : owner index' = some measurement) : index = index' := by
  obtain ⟨-, p, slot, hp, hslot, rfl⟩ := h.owned index measurement hi
  obtain ⟨-, p', slot', hp', hslot', rfl⟩ := h.owned index' measurement hi'
  rw [hp] at hp'
  obtain rfl := Option.some.inj hp'
  rw [hslot] at hslot'
  cases hslot'
  rfl

theorem Assigned.push_none (h : Assigned fields positions placed owner) {measurement : Nat} {p : Spherical α}
    (hp : positions[measurement]? = some p) (hr : Grid.resolve? fields p = .ok none) :
    Assigned fields positions (placed ++ [measurement]) owner := by
  refine ⟨fun k hk => ?_, fun index k hk => ?_⟩
  · rcases List.mem_append.1 hk with hk | hk
    · exact h.found k hk
    · obtain rfl := List.mem_singleton.1 hk
      exact ⟨p, none, hp, hr, nofun⟩
  · exact ⟨List.mem_append_left _ (h.owned index k hk).1, (h.owned index k hk).2⟩

theorem Assigned.push_some (h : Assigned fields positions placed owner) {measurement : Nat} {p : Spherical α}
    {slot : Slot α} (hp : positions[measurement]? = some p) (hr : Grid.resolve? fields p = .ok (some slot))
    (hfree : owner slot.index = none) :
    Assigned fields positions (placed ++ [measurement]) (Function.update owner slot.index (some measurement)) := by
  refine ⟨fun k hk => ?_, fun index k hk => ?_⟩
  · rcases List.mem_append.1 hk with hk | hk
    · obtain ⟨q, slot?, hq, hslot?, hown⟩ := h.found k hk
      refine ⟨q, slot?, hq, hslot?, fun other hother => ?_⟩
      have hown' := hown other hother
      have hne : other.index ≠ slot.index := fun he => by rw [he, hfree] at hown'; cases hown'
      rw [Function.update_of_ne hne]
      exact hown'
    · obtain rfl := List.mem_singleton.1 hk
      refine ⟨p, some slot, hp, hr, fun other hother => ?_⟩
      obtain rfl := Option.some.inj hother
      exact Function.update_self ..
  · by_cases hi : index = slot.index
    · subst hi
      rw [Function.update_self] at hk
      obtain rfl := Option.some.inj hk
      exact ⟨List.mem_append_right _ List.mem_cons_self, p, slot, hp, hr, rfl⟩
    · rw [Function.update_of_ne hi] at hk
      exact ⟨List.mem_append_left _ (h.owned index k hk).1, (h.owned index k hk).2⟩

end Owners

/-! ## One measurement -/

section Place

variable {m : MeasurementSet α} {receivers points : Nat} {r : Option (Resampler α)} {d : DataSet α}
  {owner : Nat → Option Nat} {s t : Session α}

theorem loaded_nobody (h : Grid.Allocated d) : loaded m r d (fun _ => none) = d := h.eq_assembled.symm

theorem populated_loaded (h : Grid.Allocated d) {slot : Slot α} (hslot : slot ∈ d.slots) :
    (loaded m r d owner).populated slot = (owner slot.index).isSome := by
  have hindex := h.index_lt hslot
  have hown := h.own slot hslot
  obtain ⟨k, hk⟩ : ∃ k, d.channels = k + 1 := ⟨d.channels - 1, by have := d.channels_pos; omega⟩
  unfold DataSet.populated loaded
  rw [DataSet.contentOf_assembled (by rw [hown]; exact hindex), hown]
  cases howner : owner slot.index with
  | none =>
    rw [ownedContent_none howner]
    simp only [Content.populated, Content.empty, hk, List.replicate_succ, Option.isSome_none]
  | some measurement =>
    rw [ownedContent_some howner]
    simp only [Content.populated, storedContent, hk, List.range_succ_eq_map, List.map_cons, Option.isSome_some]

theorem fill_loaded (h : Ready m receivers points d) {measurement : Nat} (hmeas : measurement < m.positions.length)
    {slot : Slot α} (hslot : slot ∈ d.slots) (hs : s.data = loaded m r d owner) (hfree : owner slot.index = none) :
    fill m r measurement slot s =
      .ok () { s with data := loaded m r d (Function.update owner slot.index (some measurement)) } := by
  have hindex := h.allocated.index_lt hslot
  have hown := h.allocated.own slot hslot
  rw [fill_eq h.shaped hmeas hs hindex (by rw [hown]; exact hindex) h.ears h.room
    (by rw [hown]; exact ownedContent_none hfree) fun channel => ownedRow_none hfree]
  -- the owner changes at one index only, which is the one that was written
  refine congrArg (fun data => EStateM.Result.ok () { s with data })
    (DataSet.assembled_congr (fun place _ => ?_) fun ref _ _ => ?_)
  · rw [hown]
    by_cases hp : place = slot.index
    · subst hp
      rw [Function.update_self, ownedContent_some (Function.update_self ..)]
    · rw [Function.update_of_ne hp]
      unfold ownedContent
      rw [Function.update_of_ne hp]
  · by_cases hp : ref.index = slot.index
    · have howner : Function.update owner slot.index (some measurement) ref.index = some measurement := by
        rw [hp, Function.update_self]
      rw [if_pos hp, ownedRow_some howner]
    · rw [if_neg hp]
      unfold ownedRow
      rw [Function.update_of_ne hp]

/-- A measurement without a slot is passed over. -/
theorem place_none {positions : List (Spherical α)} {measurement : Nat} {p : Spherical α}
    (hs : s.data = loaded m r d owner) (hp : positions[measurement]? = some p)
    (hr : Grid.resolve? d.fields p = .ok none) :
    place m positions r measurement s = .ok () { s with count := s.count + 1 } := by
  have hr' : Grid.resolve? (loaded m r d owner).fields p = .ok none := hr
  unfold place
  rw [Stage.tick_bind, hp]
  simp only
  rw [Stage.data_bind, hs, Stage.bind_of_ok (Stage.ofArithmetic_of_ok hr')]
  rfl

theorem place_free (h : Ready m receivers points d) {positions : List (Spherical α)}
    (hpositions : positions.length = m.positions.length) {measurement : Nat} {p : Spherical α} {slot : Slot α}
    (hs : s.data = loaded m r d owner) (hp : positions[measurement]? = some p)
    (hr : Grid.resolve? d.fields p = .ok (some slot)) (hfree : owner slot.index = none) :
    place m positions r measurement s = .ok ()
      { s with
        data := loaded m r d (Function.update owner slot.index (some measurement))
        count := s.count + 1 } := by
  have hmeas : measurement < m.positions.length := by
    rw [← hpositions]; exact (List.getElem?_eq_some_iff.1 hp).choose
  have hslot : slot ∈ d.slots := Grid.resolve?_mem hr
  have hr' : Grid.resolve? (loaded m r d owner).fields p = .ok (some slot) := hr
  have hempty : (loaded m r d owner).populated slot = false := by rw [populated_loaded h.allocated hslot, hfree]; rfl
  unfold place
  rw [Stage.tick_bind, hp]
  simp only
  rw [Stage.data_bind, hs, Stage.bind_of_ok (Stage.ofArithmetic_of_ok hr')]
  simp only [hempty]
  exact fill_loaded h hmeas hslot rfl hfree

/-- A measurement that is placed without a fault has a position that can be looked up, and its slot,
if there is one, was free. -/
theorem place_ok (h : Ready m receivers points d) {positions : List (Spherical α)} {measurement : Nat}
    (hs : s.data = loaded m r d owner) (hok : place m positions r measurement s = .ok () t) :
    ∃ p slot?, positions[measurement]? = some p ∧ Grid.resolve? d.fields p = .ok slot? ∧
      ∀ slot, slot? = some slot → owner slot.index = none := by
  unfold place at hok
  rw [Stage.tick_bind] at hok
  cases hp : positions[measurement]? with
  | none => rw [hp] at hok; cases hok
  | some p =>
    rw [hp] at hok
    simp only at hok
    rw [Stage.data_bind, hs] at hok
    obtain ⟨slot?, u, hresolve, hok⟩ := Stage.bind_ok hok
    obtain ⟨hr, -⟩ := Stage.ofArithmetic_ok hresolve
    refine ⟨p, slot?, rfl, hr, fun slot hslot => ?_⟩
    subst hslot
    cases hf : owner slot.index with
    | none => rfl
    | some other =>
      -- a slot that is owned is populated, and the second measurement for it is refused
      have htaken : (loaded m r d owner).populated slot = true := by
        rw [populated_loaded h.allocated (Grid.resolve?_mem hr), hf]; rfl
      simp only [htaken, if_true] at hok
      cases hok

end Place

/-! ## All measurements -/

section Loop

variable {m : MeasurementSet α} {receivers points : Nat} {r : Option (Resampler α)} {d : DataSet α}
  {positions : List (Spherical α)}

/-- A loop that ends well has assigned every measurement, and stored exactly the owners. -/
theorem forM_place_ok (h : Ready m receivers points d) (hpositions : positions.length = m.positions.length) :
    ∀ (todo placed : List Nat) (owner : Nat → Option Nat) (s t : Session α),
      Assigned d.fields positions placed owner → s.data = loaded m r d owner →
      todo.forM (place m positions r) s = .ok () t →
      ∃ owner', Assigned d.fields positions (placed ++ todo) owner' ∧
        t = { s with data := loaded m r d owner', count := s.count + todo.length }
  | [], placed, owner, s, t, hassigned, hs, hok => by
    cases hok
    exact ⟨owner, by rw [List.append_nil]; exact hassigned, by rw [← hs]; rfl⟩
  | measurement :: todo, placed, owner, s, t, hassigned, hs, hok => by
    obtain ⟨_, u, hplace, hok⟩ := Stage.bind_ok (x := place m positions r measurement) hok
    obtain ⟨p, slot?, hp, hr, hfree⟩ := place_ok h hs hplace
    have hcount : s.count + 1 + todo.length = s.count + (measurement :: todo).length := by
      rw [List.length_cons]; omega
    rw [List.append_cons, ← hcount]
    cases slot? with
    | none =>
      rw [place_none hs hp hr] at hplace
      cases hplace
      exact forM_place_ok h hpositions todo _ owner { s with count := s.count + 1 } t (hassigned.push_none hp hr)
        hs hok
    | some slot =>
      rw [place_free h hpositions hs hp hr (hfree slot rfl)] at hplace
      cases hplace
      exact forM_place_ok h hpositions todo _ _ _ t (hassigned.push_some hp hr (hfree slot rfl)) rfl hok

/-- The owners among the measurements placed so far. -/
def among (owner : Nat → Option Nat) (placed : List Nat) (index : Nat) : Option Nat :=
  (owner index).filter fun measurement => decide (measurement ∈ placed)

theorem among_push_of_ne {owner : Nat → Option Nat} {placed : List Nat} {measurement index : Nat}
    (hne : owner index ≠ some measurement) :
    among owner (placed ++ [measurement]) index = among owner placed index := by
  unfold among
  cases ho : owner index with
  | none => rfl
  | some k =>
    have hk : k ≠ measurement := fun he => hne (by rw [ho, he])
    simp [Option.filter_some, hk]

/-- Where owners can be assigned at all, the loop ends well. -/
theorem forM_place_of_assigned (h : Ready m receivers points d) (hpositions : positions.length = m.positions.length)
    {owner : Nat → Option Nat} : ∀ (todo placed : List Nat) (s : Session α),
      Assigned d.fields positions (placed ++ todo) owner → (placed ++ todo).Nodup →
      s.data = loaded m r d (among owner placed) →
      todo.forM (place m positions r) s =
        .ok () { s with data := loaded m r d (among owner (placed ++ todo)), count := s.count + todo.length }
  | [], placed, s, hassigned, hnodup, hs => by
    rw [List.append_nil, ← hs]
    rfl
  | measurement :: todo, placed, s, hassigned, hnodup, hs => by
    have hcount : s.count + 1 + todo.length = s.count + (measurement :: todo).length := by
      rw [List.length_cons]; omega
    obtain ⟨p, slot?, hp, hr, hown⟩ := hassigned.found measurement (List.mem_append_right _ List.mem_cons_self)
    rw [List.append_cons] at hassigned hnodup ⊢
    show (do place m positions r measurement; todo.forM (place m positions r)) s = _
    rw [← hcount]
    -- the owner of an index is found among the placed ones or is the next one
    have hnext : ∀ index, owner index = some measurement → ∃ slot, slot? = some slot ∧ slot.index = index := by
      intro index hi
      obtain ⟨-, q, slot, hq, hslot, rfl⟩ := hassigned.owned index measurement hi
      rw [hp] at hq
      obtain rfl := Option.some.inj hq
      rw [hr] at hslot
      exact ⟨slot, Except.ok.inj hslot, rfl⟩
    cases slot? with
    | none =>
      have hsame : among owner placed = among owner (placed ++ [measurement]) := by
        funext index
        refine (among_push_of_ne fun hi => ?_).symm
        obtain ⟨slot, hslot, -⟩ := hnext index hi
        cases hslot
      rw [Stage.bind_of_ok (place_none hs hp hr)]
      exact forM_place_of_assigned h hpositions todo _ _ hassigned hnodup (by rw [← hsame]; exact hs)
    | some slot =>
      have hslotOwner := hown slot rfl
      have hnotin : measurement ∉ placed := fun hin =>
        (List.nodup_append.1 (List.nodup_append.1 hnodup).1).2.2 measurement hin measurement List.mem_cons_self rfl
      have hfree : among owner placed slot.index = none := by
        unfold among; rw [hslotOwner]; simp [hnotin]
      have hupdate : Function.update (among owner placed) slot.index (some measurement) =
          among owner (placed ++ [measurement]) := by
        funext index
        by_cases hi : index = slot.index
        · subst hi
          rw [Function.update_self]
          unfold among
          rw [hslotOwner]
          simp [Option.filter_some]
        · rw [Function.update_of_ne hi]
          refine (among_push_of_ne fun ho => ?_).symm
          obtain ⟨other, hother, hindex⟩ := hnext index ho
          obtain rfl := Option.some.inj hother
          exact hi hindex.symm
      rw [Stage.bind_of_ok (place_free h hpositions hs hp hr hfree), hupdate]
      exact forM_place_of_assigned h hpositions todo _ _ hassigned hnodup rfl

/-- The loop over all measurements ends well exactly when owners can be assigned, with these stored. -/
theorem forM_place_iff (h : Ready m receivers points d) (hpositions : positions.length = m.positions.length)
    {s t : Session α} (hs : s.data = d) (count : Nat) :
    (List.range count).forM (place m positions r) s = .ok () t ↔
      ∃ owner, Assigned d.fields positions (List.range count) owner ∧
        t = { s with data := loaded m r d owner, count := s.count + count } := by
  have hstart : s.data = loaded m r d fun _ => none := by rw [loaded_nobody h.allocated, hs]
  constructor
  · intro hok
    obtain ⟨owner, hassigned, ht⟩ := forM_place_ok h hpositions (List.range count) [] _ s t .nobody hstart hok
    rw [List.length_range] at ht
    exact ⟨owner, hassigned, ht⟩
  · rintro ⟨owner, hassigned, rfl⟩
    have hnone : among owner [] = fun _ => none := by
      funext index; unfold among; cases owner index <;> simp
    have hall : among owner (List.range count) = owner := by
      funext index
      unfold among
      cases ho : owner index with
      | none => rfl
      | some k => simp [List.mem_range.1 (hassigned.owned index k ho).1]
    have hloop := forM_place_of_assigned (r := r) h hpositions (List.range count) [] s hassigned List.nodup_range
      (by rw [hnone]; exact hstart)
    rw [List.nil_append, hall, List.length_range] at hloop
    exact hloop

end Loop

end HrirAtlas.Load
