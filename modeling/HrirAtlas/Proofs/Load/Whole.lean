import HrirAtlas.Proofs.Load.Mapping

/-
What loading leaves where nothing is known of the shapes of the measurements. A slot is filled for all
of its channels or not at all, with the rows of the buffer that have its own storage index, and the
delays keep their count; so a load that ends well leaves contents that later stages can rely on. Of
the rows it leaves what every row that is stored has, and silence; and the rows of a slot that is filled
are those that the responses of a measurement leave.
-/

namespace HrirAtlas

/-- The content has a place for every channel, and once it holds anything it views, for every channel,
the row of the given storage index. -/
structure Content.Whole {α : Type} (channels index : Nat) (c : Content α) : Prop where
  places : c.views.length = channels
  delays : c.delays.length = channels
  views : c.populated = true → ∀ channel < channels, c.views[channel]? = some (some ⟨channel, index⟩)

theorem Content.whole_empty {α : Type} [Scalar α] (channels index : Nat) :
    (Content.empty channels : Content α).Whole channels index := by
  constructor
  · exact List.length_replicate
  · exact List.length_replicate
  · intro hpopulated
    rw [Content.populated_empty] at hpopulated
    cases hpopulated

namespace Load

variable {α : Type} [Signal α]

/-- The row that is left when the response of a measurement at a receiver is stored over a row. -/
inductive Stores (m : MeasurementSet α) (measurement channel : Nat) : Option (Resampler α) → Array α → Array α → Prop
  | direct {points : Nat} {response : Tensor α} {before after : Array α}
    (given : m.response measurement channel = .ok response) (count : m.points = .ok points)
    (written : Signal.writeHead before points response = .ok after) : Stores m measurement channel none before after
  | converted {r : Resampler α} {points : Nat} {response : Tensor α} {signal before : Array α}
    (given : m.response measurement channel = .ok response) (count : m.points = .ok points)
    (spread : response.spread points = .ok signal) :
    Stores m measurement channel (some r) before (r.process signal before)

/-- The rows of an index for the first channels, so many of them, are what the responses of a measurement
leave over rows of a kind. -/
def FirstStored (m : MeasurementSet α) (r : Option (Resampler α)) (P : Array α → Prop) (measurement index channels : Nat)
    (row : RowRef → Array α) : Prop :=
  ∀ channel < channels, ∃ before, P before ∧ Stores m measurement channel r before (row ⟨channel, index⟩)

/-- The data set is one with whole contents and with rows of a kind, and otherwise the given one. An index
with a content has the rows of a measurement that takes its slot. -/
def Underway (m : MeasurementSet α) (r : Option (Resampler α)) (d : DataSet α) (P : Array α → Prop) (data : DataSet α) :
    Prop :=
  ∃ content row, data = d.assembled content row ∧ (∀ index, (content index).Whole d.channels index) ∧
    (∀ ref, P (row ref)) ∧ ∀ index, (content index).populated = true → ∃ measurement slot,
      Takes m d.fields measurement slot ∧ slot.index = index ∧ FirstStored m r P measurement index d.channels row

section Slot

variable {m : MeasurementSet α} {r : Option (Resampler α)} {d : DataSet α} {measurement : Nat} {slot : Slot α}
  {content : Nat → Content α} {row : RowRef → Array α} {s t : Session α}

/-- What storing a response changes: the row of the channel, and the view of it. -/
theorem storeResponse_ok {channel : Nat} (hs : s.data = d.assembled content row) (hindex : slot.index < d.irCount)
    (hown : slot.content = slot.index) (hchannel : channel < d.channels)
    (hplaces : (content slot.index).views.length = d.channels)
    (hok : storeResponse m r measurement slot channel s = .ok () t) :
    ∃ after, Stores m measurement channel r (row ⟨channel, slot.index⟩) after ∧
      t.data = d.assembled
        (Function.update content slot.index
          { content slot.index with
            views := (content slot.index).views.set channel (some ⟨channel, slot.index⟩) })
        (Function.update row ⟨channel, slot.index⟩ after) := by
  unfold storeResponse at hok
  rw [Stage.bind_of_ok (assignView_eq hs hindex (by rw [hown]; exact hindex) hchannel (by rw [hown]; exact hplaces)),
    hown] at hok
  obtain ⟨response, u, hresponse, hok⟩ := Stage.bind_ok hok
  obtain ⟨hgiven, rfl⟩ := Stage.ofShape_ok hresponse
  obtain ⟨points, u, hpoints, hok⟩ := Stage.bind_ok hok
  obtain ⟨hcount, rfl⟩ := Stage.ofShape_ok hpoints
  have hrow : ∀ content', (d.assembled content' row).row ⟨channel, slot.index⟩ = row ⟨channel, slot.index⟩ :=
    fun content' => DataSet.row_assembled hchannel hindex
  rw [Stage.data_bind] at hok
  simp only [hrow] at hok
  cases r with
  | none =>
    obtain ⟨after, u, hafter, hok⟩ := Stage.bind_ok hok
    obtain ⟨hwritten, rfl⟩ := Stage.ofShape_ok hafter
    rw [DataSet.setRow_assembled hchannel hindex] at hok
    cases hok
    exact ⟨after, .direct hgiven hcount hwritten, rfl⟩
  | some r =>
    obtain ⟨signal, u, hsignal, hok⟩ := Stage.bind_ok hok
    obtain ⟨hspread, rfl⟩ := Stage.ofShape_ok hsignal
    rw [DataSet.setRow_assembled hchannel hindex] at hok
    cases hok
    exact ⟨_, .converted hgiven hcount hspread, rfl⟩

/-- What storing a delay changes: a delay of the slot, if anything. -/
theorem storeDelay_ok {channel : Nat} (hs : s.data = d.assembled content row) (hindex : slot.index < d.irCount)
    (hown : slot.content = slot.index) (hok : storeDelay m measurement slot channel s = .ok () t) :
    ∃ delays, delays.length = (content slot.index).delays.length ∧
      t.data = d.assembled (Function.update content slot.index { content slot.index with delays }) row := by
  unfold storeDelay at hok
  obtain ⟨delay?, u, hdelay, hok⟩ := Stage.bind_ok hok
  obtain ⟨-, rfl⟩ := Stage.ofShape_ok hdelay
  cases delay? with
  | none =>
    cases hok
    exact ⟨(content slot.index).delays, rfl, hs.trans DataSet.assembled_restored.symm⟩
  | some delay =>
    simp only at hok
    rw [Stage.data_bind] at hok
    simp only [hs, DataSet.contentOf_assembled (show slot.content < d.irCount by rw [hown]; exact hindex)] at hok
    split at hok
    · rw [DataSet.setContent_assembled, hown] at hok
      cases hok
      exact ⟨_, List.length_set, rfl⟩
    · cases hok

variable {P : Array α → Prop}

theorem FirstStored.update {index channels : Nat} (h : FirstStored m r P measurement index channels row)
    (hrow : P (row ⟨channels, index⟩)) {after : Array α} (hafter : Stores m measurement channels r (row ⟨channels, index⟩) after) :
    FirstStored m r P measurement index (channels + 1) (Function.update row ⟨channels, index⟩ after) := by
  intro channel hchannel
  rcases Nat.lt_succ_iff_lt_or_eq.1 hchannel with hlt | rfl
  · rw [Function.update_of_ne fun he => hlt.ne (RowRef.mk.inj he).1]
    exact h channel hlt
  · rw [Function.update_self]
    exact ⟨_, hrow, hafter⟩

/-- The channels from one on: each of them views its row afterwards, which is then stored, and the ones
before still do. The rows of other slots stay. -/
theorem storeResponses_ok (hindex : slot.index < d.irCount) (hown : slot.content = slot.index)
    (hP : ∀ measurement channel before after, P before → Stores m measurement channel r before after → P after) :
    ∀ (n first : Nat) (content : Nat → Content α) (row : RowRef → Array α) (s t : Session α), first + n = d.channels →
      s.data = d.assembled content row → (content slot.index).views.length = d.channels →
      (∀ channel < first, (content slot.index).views[channel]? = some (some ⟨channel, slot.index⟩)) →
      (∀ ref, P (row ref)) → FirstStored m r P measurement slot.index first row →
      (List.range' first n).forM (storeResponse m r measurement slot) s = .ok () t →
      ∃ views row', t.data = d.assembled
          (Function.update content slot.index { content slot.index with views }) row' ∧
        views.length = d.channels ∧ (∀ channel < d.channels, views[channel]? = some (some ⟨channel, slot.index⟩)) ∧
        (∀ ref, P (row' ref)) ∧ FirstStored m r P measurement slot.index d.channels row' ∧
        ∀ ref : RowRef, ref.index ≠ slot.index → row' ref = row ref
  | 0, first, content, row, s, t, hfirst, hs, hplaces, hviews, hrows, hstored, hok => by
    cases hok
    rw [Nat.add_zero] at hfirst
    rw [hfirst] at hviews hstored
    exact ⟨(content slot.index).views, row, hs.trans DataSet.assembled_restored.symm, hplaces, hviews, hrows, hstored,
      fun _ _ => rfl⟩
  | n + 1, first, content, row, s, t, hfirst, hs, hplaces, hviews, hrows, hstored, hok => by
    obtain ⟨_, u, hstore, hrest⟩ := Stage.bind_ok (x := storeResponse m r measurement slot first) hok
    obtain ⟨after, hafter, hu⟩ := storeResponse_ok hs hindex hown (by omega) hplaces hstore
    have hrows' : ∀ ref, P (Function.update row ⟨first, slot.index⟩ after ref) := by
      intro ref
      by_cases href : ref = ⟨first, slot.index⟩
      · rw [href, Function.update_self]
        exact hP _ _ _ _ (hrows _) hafter
      · rw [Function.update_of_ne href]
        exact hrows ref
    obtain ⟨views, row', ht, hlength, hall, hkept, hstored', hothers⟩ := storeResponses_ok hindex hown hP n (first + 1) _ _ u t
      (by omega) hu (by rw [Function.update_self, List.length_set, hplaces])
      (fun channel hchannel => by
        rw [Function.update_self, List.getElem?_set]
        by_cases hsame : first = channel
        · rw [if_pos hsame, if_pos (by omega), hsame]
        · rw [if_neg hsame]
          exact hviews channel (by omega)) hrows' (hstored.update (hrows _) hafter) hrest
    refine ⟨views, row', ?_, hlength, hall, hkept, hstored', fun ref href => ?_⟩
    · rw [ht, Function.update_idem, Function.update_self]
    · rw [hothers ref href, Function.update_of_ne fun he => href (congrArg RowRef.index he)]

theorem storeDelays_ok (hindex : slot.index < d.irCount) (hown : slot.content = slot.index) :
    ∀ (channels : List Nat) (content : Nat → Content α) (s t : Session α), s.data = d.assembled content row →
      channels.forM (storeDelay m measurement slot) s = .ok () t →
      ∃ delays, delays.length = (content slot.index).delays.length ∧
        t.data = d.assembled (Function.update content slot.index { content slot.index with delays }) row
  | [], content, s, t, hs, hok => by
    cases hok
    exact ⟨(content slot.index).delays, rfl, hs.trans DataSet.assembled_restored.symm⟩
  | channel :: channels, content, s, t, hs, hok => by
    obtain ⟨_, u, hstore, hrest⟩ := Stage.bind_ok (x := storeDelay m measurement slot channel) hok
    obtain ⟨delays, hlength, hu⟩ := storeDelay_ok hs hindex hown hstore
    obtain ⟨delays', hlength', ht⟩ := storeDelays_ok hindex hown channels _ u t hu hrest
    rw [Function.update_self] at hlength' ht
    refine ⟨delays', hlength'.trans hlength, ?_⟩
    rw [ht, Function.update_idem]

/-- A slot is filled as a whole, by a measurement that takes it. -/
theorem Underway.fill (hindex : slot.index < d.irCount) (hown : slot.content = slot.index)
    (hP : ∀ measurement channel before after, P before → Stores m measurement channel r before after → P after)
    (htakes : Takes m d.fields measurement slot) (h : Underway m r d P s.data)
    (hok : Load.fill m r measurement slot s = .ok () t) : Underway m r d P t.data := by
  obtain ⟨content, row, hs, hwhole, hrows, hstored⟩ := h
  have hchannels : s.data.channels = d.channels := by rw [hs]; rfl
  unfold Load.fill at hok
  rw [Stage.data_bind, hchannels] at hok
  obtain ⟨_, u, hresponses, hdelays⟩ := Stage.bind_ok hok
  rw [List.range_eq_range'] at hresponses
  obtain ⟨views, row', hu, hplaces, hviews, hrows', hfilled, hothers⟩ := storeResponses_ok hindex hown hP d.channels 0 content
    row s u (by omega) hs (hwhole slot.index).places (fun channel hchannel => by omega) hrows nofun hresponses
  obtain ⟨delays, hlength, ht⟩ := storeDelays_ok hindex hown _ _ u t hu hdelays
  rw [Function.update_self] at hlength ht
  rw [Function.update_idem] at ht
  refine ⟨_, row', ht, fun index => ?_, hrows', fun index hpopulated => ?_⟩
  · by_cases hsame : index = slot.index
    · subst hsame
      rw [Function.update_self]
      exact ⟨hplaces, hlength.trans (hwhole _).delays, fun _ => hviews⟩
    · rw [Function.update_of_ne hsame]
      exact hwhole index
  · by_cases hsame : index = slot.index
    · subst hsame
      exact ⟨measurement, slot, htakes, rfl, hfilled⟩
    · rw [Function.update_of_ne hsame] at hpopulated
      obtain ⟨measurement', slot', htakes', hindex', hrow⟩ := hstored index hpopulated
      refine ⟨measurement', slot', htakes', hindex', fun channel hchannel => ?_⟩
      rw [hothers ⟨channel, index⟩ hsame]
      exact hrow channel hchannel

end Slot

/-! ## All measurements -/

section Loop

variable {m : MeasurementSet α} {r : Option (Resampler α)} {d : DataSet α} {P : Array α → Prop} {s t : Session α}

theorem Underway.place (hd : Grid.Allocated d)
    (hP : ∀ measurement channel before after, P before → Stores m measurement channel r before after → P after)
    {measurement : Nat} (h : Underway m r d P s.data) (hok : Load.place m (sphericals m) r measurement s = .ok () t) :
    Underway m r d P t.data := by
  unfold Load.place at hok
  rw [Stage.tick_bind] at hok
  cases hposition : (sphericals m)[measurement]? with
  | none => rw [hposition] at hok; cases hok
  | some position =>
    rw [hposition] at hok
    simp only at hok
    rw [Stage.data_bind] at hok
    obtain ⟨slot?, u, hfound, hok⟩ := Stage.bind_ok hok
    obtain ⟨hresolve, rfl⟩ := Stage.ofArithmetic_ok hfound
    cases slot? with
    | none =>
      cases hok
      exact h
    | some slot =>
      have hfields : s.data.fields = d.fields := by
        obtain ⟨content, row, hs, -⟩ := h
        rw [hs]
        rfl
      have htakes : Takes m d.fields measurement slot := ⟨position, hposition, by rw [← hfields]; exact hresolve⟩
      simp only at hok
      split at hok
      · cases hok
      · exact Underway.fill (s := { s with count := s.count + 1 }) (hd.index_lt htakes.mem) (hd.own slot htakes.mem) hP
          htakes h hok

theorem Underway.forM_place (hd : Grid.Allocated d)
    (hP : ∀ measurement channel before after, P before → Stores m measurement channel r before after → P after) :
    ∀ (todo : List Nat) (s t : Session α), Underway m r d P s.data →
      todo.forM (Load.place m (sphericals m) r) s = .ok () t → Underway m r d P t.data
  | [], s, t, h, hok => by
    cases hok
    exact h
  | measurement :: todo, s, t, h, hok => by
    obtain ⟨_, u, hplace, hrest⟩ := Stage.bind_ok (x := Load.place m (sphericals m) r measurement) hok
    exact Underway.forM_place hd hP todo u t (h.place hd hP hplace) hrest

theorem underway_allocated (hd : Grid.Allocated d) (hsilent : P (Array.replicate d.irSize.toNat 0.0)) :
    Underway m r d P d := by
  refine ⟨_, _, hd.eq_assembled, fun index => Content.whole_empty d.channels index, fun _ => hsilent, ?_⟩
  intro index hpopulated
  rw [Content.populated_empty] at hpopulated
  cases hpopulated

/-- A slot that has a content has the rows of the measurement that takes it. -/
theorem Underway.filled (hd : Grid.Allocated d) {data : DataSet α} (h : Underway m r d P data) {slot : Slot α}
    (hslot : slot ∈ d.slots) (hpopulated : data.populated slot = true) : ∃ measurement, Takes m d.fields measurement slot ∧
      FirstStored m r P measurement slot.index d.channels data.row := by
  obtain ⟨content, row, rfl, -, -, hstored⟩ := h
  have hindex := hd.index_lt hslot
  have hown := hd.own slot hslot
  have hcontent : (d.assembled content row).contentOf slot = content slot.index := by
    rw [DataSet.contentOf_assembled (by rw [hown]; exact hindex), hown]
  unfold DataSet.populated at hpopulated
  rw [hcontent] at hpopulated
  obtain ⟨measurement, slot', htakes, hsame, hfirst⟩ := hstored slot.index hpopulated
  obtain rfl := hd.eq_of_index_eq hslot htakes.mem hsame.symm
  refine ⟨measurement, htakes, fun channel hchannel => ?_⟩
  rw [DataSet.row_assembled hchannel hindex]
  exact hfirst channel hchannel

/-- The parts of a load that ended well. -/
theorem responses_parts {target : Setting α} (hok : responses m target s = .ok () t) :
    ∃ r u v count, converter? s.data.irRate target s = .ok r u ∧
      (List.range count).forM (Load.place m (sphericals m) r) u = .ok () v ∧ finish target r v = .ok () t := by
  unfold responses at hok
  rw [Stage.data_bind] at hok
  obtain ⟨r, u, hconverter, hok⟩ := Stage.bind_ok hok
  have hrest : (do
      let count ← Stage.ofShape m.measurements
      (List.range count).forM (Load.place m (sphericals m) r)
      finish target r : Stage α Unit) u = .ok () t := by
    cases r with
    | none => exact hok
    | some r =>
      obtain ⟨_, u', hknown, hrest⟩ := Stage.bind_ok hok
      obtain ⟨points, hpoints⟩ := Stage.discard_ok hknown
      rwa [(Stage.ofShape_ok hpoints).2] at hrest
  obtain ⟨count, v, hcount, hplaced⟩ := Stage.bind_ok hrest
  rw [(Stage.ofShape_ok hcount).2] at hplaced
  obtain ⟨_, w, hloop, hfinish⟩ := Stage.bind_ok hplaced
  exact ⟨r, u, w, count, hconverter, hloop, hfinish⟩

/-- A load into a fresh grid that ends well leaves whole contents, whatever the measurements are. -/
theorem underway_of_responses {target : Setting α} (hd : Grid.Allocated s.data)
    (hok : responses m target s = .ok () t) :
    ∃ r data irRate irPoints, Underway m r s.data (fun _ => True) data ∧ t.data = { data with irRate, irPoints } := by
  obtain ⟨r, u, v, count, hconverter, hloop, hfinish⟩ := responses_parts hok
  have hu : u.data = s.data := by rw [(converter?_ok hconverter).1]
  have hunderway : Underway m r s.data (fun _ => True) u.data := by
    rw [hu]
    exact underway_allocated hd trivial
  obtain ⟨irRate, irPoints, ht⟩ := finish_ok hfinish
  refine ⟨r, v.data, irRate, irPoints, Underway.forM_place hd (fun _ _ _ _ _ _ => trivial) _ u v hunderway hloop, ?_⟩
  rw [ht]

end Loop

end Load

end HrirAtlas
