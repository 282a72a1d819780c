import HrirAtlas.Coverage
import HrirAtlas.Onset
import HrirAtlas.Proofs.Load.Responses
import HrirAtlas.Proofs.Magnitude.Rows

/-
The changes of a data set once its grid is allocated. Loading, coverage, onsets and magnitudes may be
asked for in any order and again after a fault; each is a chain of small changes, whether it ends well
or stops: a slot is made to view its own row, a delay is stored, a row that a slot views gets samples of
the same length, the rate follows a conversion, or fields are covered. Only coverage changes the grid.
-/

namespace HrirAtlas

open Relation Stage

variable {α : Type}

namespace Views

/-! ## Contents and their views -/

section Contents

variable {d : DataSet α} {slot : Slot α}

theorem contentOf_setContent {content : Content α} (h : slot.content < d.contents.size) :
    (d.setContent slot.content content).contentOf slot = content := by
  unfold DataSet.contentOf DataSet.setContent
  rw [Array.getD_eq_getD_getElem?, Array.getElem?_setIfInBounds_self_of_lt h]
  rfl

theorem content_lt_of_views {channel : Nat} (h : channel < (d.contentOf slot).views.length) :
    slot.content < d.contents.size := by
  by_contra hout
  unfold DataSet.contentOf at h
  rw [Array.getD_eq_getD_getElem?, Array.getElem?_eq_none (not_lt.1 hout)] at h
  exact absurd h (Nat.not_lt_zero _)

/-- Where a view is assigned it is the one that the slot holds. -/
theorem heldView_of_assignView {s t : Session α} {channel : Nat} {ref : RowRef}
    (h : Load.assignView slot channel s = .ok ref t) : t.data.heldView slot channel = .ok ref := by
  unfold Load.assignView at h
  rw [data_bind] at h
  obtain ⟨ref', u, hview, h⟩ := bind_ok h
  obtain ⟨-, rfl⟩ := ofShape_ok hview
  dsimp only at h
  split at h
  · rename_i hchannel
    rw [setData_bind] at h
    cases h
    unfold DataSet.heldView
    rw [contentOf_setContent (content_lt_of_views hchannel)]
    simp only [List.getElem?_set_self hchannel]
  · cases h

end Contents

variable [Signal α]

/-! ## Changes -/

/-- What is written to a row for a channel: a response at the receiver of that channel, as it is or
converted, or the magnitudes of what the row holds. -/
inductive Written (d : DataSet α) (channel : Nat) (ref : RowRef) : Array α → Prop
  | response {m : MeasurementSet α} {measurement points : Nat} {response : Tensor α} {samples : Array α}
    (hm : m.responses.Full) (hresponse : m.response measurement channel = .ok response)
    (hsamples : Signal.writeHead (d.row ref) points response = .ok samples) : Written d channel ref samples
  | converted {m : MeasurementSet α} {measurement points : Nat} {response : Tensor α} {signal : Array α} (r : Resampler α)
    (hresponse : m.response measurement channel = .ok response) (hsignal : response.spread points = .ok signal) :
    Written d channel ref (r.process signal (d.row ref))
  | magnitudes {points : Int} {scratch : Array (Complex α)} {samples : Array α}
    (hsamples : (Magnitude.replaceHead points scratch (d.row ref)).2 = .ok samples) : Written d channel ref samples

/-- A change that leaves the grid as it is. The rate and the samples in use may change as `Retimes` says. -/
inductive Deposit (Retimes : DataSet α → Number α → Int → Prop) : DataSet α → DataSet α → Prop
  /-- A slot views the row of its index for a channel. -/
  | view {d : DataSet α} {slot : Slot α} {channel : Nat} {ref : RowRef} (hslot : slot ∈ d.slots)
    (hview : d.view channel slot.index = .ok ref) : Deposit Retimes d (d.setContent slot.content
      { d.contentOf slot with views := (d.contentOf slot).views.set channel (some ref) })
  | delay (d : DataSet α) (slot : Slot α) (channel : Nat) (seconds : α) : Deposit Retimes d (d.setContent slot.content
      { d.contentOf slot with delays := (d.contentOf slot).delays.set channel seconds })
  /-- The row that a slot views for a channel is written. -/
  | samples {d : DataSet α} {slot : Slot α} {channel : Nat} {ref : RowRef} {samples : Array α} (hslot : slot ∈ d.slots)
    (hview : d.heldView slot channel = .ok ref) (hsamples : Written d channel ref samples) :
    Deposit Retimes d (d.setRow ref samples)
  | rate {d : DataSet α} {irRate : Number α} {irPoints : Int} (h : Retimes d irRate irPoints) :
    Deposit Retimes d { d with irRate, irPoints }

/-- A change of a data set. -/
inductive Change (Retimes : DataSet α → Number α → Int → Prop) : DataSet α → DataSet α → Prop
  | deposit {d d' : DataSet α} (h : Deposit Retimes d d') : Change Retimes d d'
  | cover (d : DataSet α) : Change Retimes d { d with fields := (Coverage.coverFields d 0 d.fields).1 }

/-- Any rate and any number of samples in use. -/
def AnyRate (_ : DataSet α) (_ : Number α) (_ : Int) : Prop := True

/-- No other rate, and no other number of samples in use. -/
def SameRate (_ : DataSet α) (_ : Number α) (_ : Int) : Prop := False

variable {Retimes Retimes' : DataSet α → Number α → Int → Prop}

section Deposits

variable {d d' : DataSet α} {slot : Slot α} {channel : Nat}

/-- What is written is as long as what was there. -/
theorem Written.size {ref : RowRef} {samples : Array α} (h : Written d channel ref samples) :
    samples.size = (d.row ref).size := by
  cases h with
  | response hm hresponse hsamples => exact Signal.size_of_writeFull (hm.part hresponse) hsamples
  | converted r hresponse hsignal => rw [Resampler.process_eq, Signal.size_fitted]
  | magnitudes hsamples => exact Magnitude.size_of_replaceHead hsamples

theorem Deposit.mono (hle : ∀ d irRate irPoints, Retimes d irRate irPoints → Retimes' d irRate irPoints)
    (d d' : DataSet α) (h : Deposit Retimes d d') : Deposit Retimes' d d' := by
  cases h with
  | view hslot hview => exact .view hslot hview
  | delay slot channel seconds => exact .delay d slot channel seconds
  | samples hslot hview hsamples => exact .samples hslot hview hsamples
  | rate h => exact .rate (hle _ _ _ h)

theorem Deposit.fields (h : Deposit Retimes d d') : d'.fields = d.fields := by
  cases h <;> rfl

theorem Deposit.irRate (rate : Number α) (d d' : DataSet α) (h : Deposit SameRate d d') (hrate : d.irRate = rate) :
    d'.irRate = rate := by
  cases h with
  | view | delay | samples => exact hrate
  | rate h => exact h.elim

theorem Deposit.mem_slots (slot : Slot α) (d d' : DataSet α) (h : Deposit Retimes d d') (hslot : slot ∈ d.slots) :
    slot ∈ d'.slots := by
  unfold DataSet.slots at hslot ⊢
  rwa [h.fields]

/-- Rows that are reworked one after another make a chain of data sets. -/
theorem deposits_of_reworks {b : Buffer α} (hbuffer : d.buffer = some b) {work : List (Option Nat)}
    (hwork : Magnitude.workList d b = .ok work) {rows : Array (Array α)}
    (h : ReflTransGen (Magnitude.Pool.Reworks d.irPoints work) b.rows rows) :
    ReflTransGen (Deposit Retimes) d { d with buffer := some { b with rows } } := by
  induction h with
  | refl =>
    have hsame : ({ d with buffer := some b } : DataSet α) = d := by rw [← hbuffer]
    rw [show ({ b with rows := b.rows } : Buffer α) = b from rfl, hsame]
  | @tail rows _ _ hlast ih =>
    obtain ⟨hplace, hsamples⟩ := hlast
    obtain ⟨slot, hslot, channel, ref, hview, rfl⟩ := Magnitude.heldView_of_mem_workList hwork hplace
    let d' : DataSet α := { d with buffer := some { b with rows } }
    exact ih.tail (Deposit.samples (d := d') hslot hview (.magnitudes hsamples))

/-- A stage goes on from the rows that some workers leave. -/
theorem follows_reworked {s : Session α} {work : List (Option Nat)} {rows : Array (Array α)} {rest : Stage α Unit}
    (hwork : Magnitude.workList s.data (s.data.buffer.getD ⟨0, 0, 0, #[]⟩) = .ok work)
    (hrows : ReflTransGen (Magnitude.Pool.Reworks s.data.irPoints work) (s.data.buffer.getD ⟨0, 0, 0, #[]⟩).rows rows)
    (hrest : ∀ u, Follows (Deposit Retimes) rest u) : Follows (Deposit Retimes) (do
      Stage.setData { s.data with buffer := s.data.buffer.map fun b => { b with rows } }
      rest) s := by
  refine Follows.bind (x := Stage.setData _) ?_ fun _ u _ => hrest u
  show ReflTransGen (Deposit Retimes) s.data { s.data with buffer := s.data.buffer.map fun b => { b with rows } }
  cases hbuffer : s.data.buffer with
  | none =>
    have hsame : ({ s.data with buffer := none } : DataSet α) = s.data := by rw [← hbuffer]
    rw [Option.map_none, hsame]
  | some b =>
    rw [hbuffer] at hwork hrows
    exact deposits_of_reworks hbuffer hwork hrows

end Deposits

variable {s : Session α} {slot : Slot α} {channel : Nat}

/-! ## Loading -/

theorem follows_assignView (channel : Nat) (hslot : slot ∈ s.data.slots) :
    Follows (Deposit Retimes) (Load.assignView slot channel) s := by
  unfold Load.assignView
  refine follows_data_bind (follows_ofShape_bind fun ref hview => ?_)
  dsimp only
  split
  · exact follows_setData_bind (.view hslot hview) (follows_pure _)
  · exact follows_fail _

section Load

variable {m : MeasurementSet α}

theorem follows_storeResponse (hm : m.responses.Full) (r : Option (Resampler α)) (measurement channel : Nat)
    (hslot : slot ∈ s.data.slots) : Follows (Deposit Retimes) (Load.storeResponse m r measurement slot channel) s := by
  unfold Load.storeResponse
  have hassign : Follows (Deposit Retimes) (Load.assignView slot channel) s := follows_assignView channel hslot
  refine hassign.bind fun ref u hu => ?_
  have hslot' : slot ∈ u.data.slots := kept_of_chain (Deposit.mem_slots slot) (hassign.of_ok hu) hslot
  have hheld := heldView_of_assignView hu
  refine follows_ofShape_bind fun response hresponse => follows_ofShape_bind fun points _ => follows_data_bind ?_
  cases r with
  | none =>
    exact follows_ofShape_bind fun samples hsamples =>
      follows_setData (.samples hslot' hheld (.response hm hresponse hsamples))
  | some r =>
    exact follows_ofShape_bind fun signal hsignal =>
      follows_setData (.samples hslot' hheld (.converted r hresponse hsignal))

theorem follows_storeDelay (measurement channel : Nat) :
    Follows (Deposit Retimes) (Load.storeDelay m measurement slot channel) s := by
  unfold Load.storeDelay
  refine follows_ofShape_bind fun delay _ => ?_
  cases delay with
  | none => exact follows_pure _
  | some delay =>
    refine follows_data_bind ?_
    dsimp only
    split
    · exact follows_setData (.delay ..)
    · exact follows_fail _

theorem follows_fill (hm : m.responses.Full) (r : Option (Resampler α)) (measurement : Nat)
    (hslot : slot ∈ s.data.slots) : Follows (Deposit Retimes) (Load.fill m r measurement slot) s := by
  unfold Load.fill
  refine follows_data_bind (Follows.bind ?_ fun _ u _ => follows_forM _ u fun channel _ _ => follows_storeDelay _ channel)
  exact follows_forM_keeping (Deposit.mem_slots slot) _ s hslot fun channel _ _ hslot =>
    follows_storeResponse hm r measurement channel hslot

theorem follows_place (hm : m.responses.Full) (positions : List (Spherical α)) (r : Option (Resampler α))
    (measurement : Nat) (s : Session α) : Follows (Deposit Retimes) (Load.place m positions r measurement) s := by
  unfold Load.place
  refine follows_modify_bind rfl ?_
  cases positions[measurement]? with
  | none => exact follows_fail _
  | some position =>
    refine follows_data_bind (follows_ofArithmetic_bind fun slot hresolve => ?_)
    cases slot with
    | none => exact follows_pure _
    | some slot =>
      have hslot : slot ∈ s.data.slots := Grid.resolve?_mem hresolve
      dsimp only
      split
      · exact (follows_fail _).bind fun _ u hu => by cases hu
      · exact follows_fill hm r measurement hslot

theorem follows_converter? {R : DataSet α → DataSet α → Prop} (rate : Number α) (target : Setting α) (s : Session α) :
    Follows R (Load.converter? rate target) s := by
  unfold Load.converter?
  split
  · exact follows_ofExcept_bind fun r _ => follows_modify_bind rfl (follows_pure _)
  · exact follows_pure _

/-- The rate is the target's first, and then the samples in use follow it. -/
theorem follows_retime {target : Setting α} {s : Session α}
    (hrate : ∀ rate, target = .number rate → Retimes s.data rate s.data.irPoints)
    (hpoints : ∀ rate points, target = .number rate →
      Scalar.ceil (Scalar.ofInt s.data.irPoints * (rate.toScalar / s.data.irRate.toScalar)) = .ok points →
      Retimes { s.data with irRate := rate } rate (min points s.data.irSize)) :
    Follows (Deposit Retimes) (Load.retime target) s := by
  unfold Load.retime
  refine follows_data_bind ?_
  cases target with
  | number rate =>
    refine follows_setData_bind (.rate (hrate rate rfl)) (follows_ofArithmetic_bind fun points hceil => ?_)
    exact follows_setData (Deposit.rate (d := { s.data with irRate := rate }) (hpoints rate points rfl hceil))
  | _ => exact follows_fail _

/-- Storing does not touch the rate, so the conversion is from the rate at the start. -/
theorem follows_responses (hm : m.responses.Full) {target : Setting α} {s : Session α}
    (hretime : ∀ r u, Resampler.set (.number s.data.irRate) target = .ok r → u.data.irRate = s.data.irRate →
      Follows (Deposit Retimes) (Load.retime target) u) : Follows (Deposit Retimes) (Load.responses m target) s := by
  unfold Load.responses
  refine follows_data_bind ((follows_converter? _ _ s).bind fun r u hu => ?_)
  obtain ⟨hu, -, hset⟩ := Load.converter?_ok hu
  have hdata : u.data = s.data := by rw [hu]
  have hplaced : ∀ v, v.data = s.data → Follows (Deposit Retimes) (do
      let count ← ofShape m.measurements
      (List.range count).forM (Load.place m (Load.sphericals m) r)
      Load.finish target r) v := by
    intro v hv
    refine follows_ofShape_bind fun count _ => ?_
    have hloop : Follows (Deposit SameRate) ((List.range count).forM (Load.place m (Load.sphericals m) r)) v :=
      follows_forM _ v fun measurement _ => follows_place hm _ r measurement
    refine (hloop.mono (Deposit.mono fun _ _ _ => False.elim)).bind fun _ w hw => ?_
    have hrate : w.data.irRate = s.data.irRate :=
      kept_of_chain (Deposit.irRate s.data.irRate) (hloop.of_ok hw) (congrArg DataSet.irRate hv)
    unfold Load.finish
    cases r with
    | none => exact follows_pure _
    | some r => exact hretime r w (hset r rfl) hrate
  cases r with
  | none => exact hplaced u hdata
  | some r =>
    refine (Follows.discard (follows_ofExcept _)).bind fun _ v hv => hplaced v ?_
    obtain ⟨_, hv⟩ := discard_ok hv
    rw [(ofExcept_ok hv).2, hdata]

end Load

/-! ## Coverage and onsets -/

theorem follows_check (s : Session α) : Follows (Change Retimes) Coverage.check s := by
  unfold Coverage.check
  refine follows_data_bind ?_
  dsimp only
  refine follows_setData_bind (.cover s.data) (follows_modify_bind rfl ?_)
  cases (Coverage.coverFields s.data 0 s.data.fields).2.2 with
  | some cause => exact follows_fail _
  | none => exact follows_pure _

theorem follows_addTo (r : Resampler α) (fine : Array α) (slot : Slot α) (channel : Nat) (s : Session α) :
    Follows (Deposit Retimes) (Onset.addTo r fine slot channel) s := by
  unfold Onset.addTo
  refine follows_modify_bind rfl (follows_data_bind ?_)
  dsimp only
  split
  · exact follows_fail _
  · exact follows_ofShape_bind fun ref _ => follows_ofExcept_bind fun answer _ =>
      follows_setData_bind (.delay ..) (follows_pure _)

theorem follows_addAll (s : Session α) : Follows (Deposit Retimes) Onset.addAll s := by
  unfold Onset.addAll
  refine follows_data_bind (follows_ofShape_bind fun _ _ => follows_ofExcept_bind fun r _ =>
    follows_modify_bind rfl (Follows.discard ?_))
  exact follows_foldlM (fun fine slot u =>
    follows_foldlM (fun fine channel => follows_addTo r fine slot channel) _ fine u) _ _ _

/-! ## Magnitudes -/

/-- The magnitude stage with its workers left off after some of their turns. -/
def magnitudesAlong (count : Nat) (schedule : List Nat) : Stage α Unit := do
  let d ← Stage.data
  let buffer := d.buffer.getD ⟨0, 0, 0, #[]⟩
  let work ← Stage.ofShape (Magnitude.workList d buffer)
  match Magnitude.transformSize d.fftSize with
  | .error cause => Stage.fail (.setting cause)
  | .ok fftSize =>
    let pool : Magnitude.Pool α := { rows := buffer.rows, work, fftSize, points := d.irPoints }
    let (pool, _) := pool.interleave (List.replicate count {}) schedule
    Stage.setData { d with buffer := d.buffer.map fun b => { b with rows := pool.rows } }

theorem follows_magnitudesAlong (count : Nat) (schedule : List Nat) (s : Session α) :
    Follows (Deposit Retimes) (magnitudesAlong count schedule) s := by
  unfold magnitudesAlong
  refine follows_data_bind (follows_ofShape_bind fun work hwork => ?_)
  cases Magnitude.transformSize s.data.fftSize with
  | error cause => exact follows_fail _
  | ok fftSize =>
    let pool : Magnitude.Pool α :=
      { rows := (s.data.buffer.getD ⟨0, 0, 0, #[]⟩).rows, work, fftSize, points := s.data.irPoints }
    exact follows_reworked hwork (Magnitude.Pool.reworks_interleave schedule (p := pool)) fun u => follows_pure ()

theorem follows_all (threads : Setting α) (s : Session α) : Follows (Deposit Retimes) (Magnitude.all threads) s := by
  unfold Magnitude.all
  refine follows_data_bind (follows_ofShape_bind fun work hwork => follows_ofExcept_bind fun count _ => ?_)
  cases Magnitude.transformSize s.data.fftSize with
  | error cause => exact follows_modify_bind rfl (follows_fail _)
  | ok fftSize =>
    let pool : Magnitude.Pool α :=
      { rows := (s.data.buffer.getD ⟨0, 0, 0, #[]⟩).rows, work, fftSize, points := s.data.irPoints }
    refine follows_reworked hwork (Magnitude.Pool.reworks_runWorkers count pool) fun u => follows_modify_bind rfl ?_
    split
    · exact follows_fail _
    · exact follows_pure _

/-! ## Operations -/

/-- What may be asked for once a grid is allocated. -/
inductive Operation (α : Type) where
  | load (m : MeasurementSet α) (target : Setting α)
  | cover
  | addOnsets
  | magnitudes (threads : Setting α)
  /-- Magnitudes by so many workers that take turns, left off after the turns of a schedule. -/
  | magnitudesAlong (count : Nat) (schedule : List Nat)

namespace Operation

def stage : Operation α → Stage α Unit
  | load m target => Load.responses m target
  | cover => Coverage.check
  | addOnsets => Onset.addAll
  | magnitudes threads => Magnitude.all threads
  | magnitudesAlong count schedule => Views.magnitudesAlong count schedule

/-- The session after operations, of which each may end well or stop. -/
def runAll (operations : List (Operation α)) (s : Session α) : Session α :=
  operations.foldl (fun s operation => operation.stage.after s) s

/-- The responses that an operation loads have a value for every place. -/
def Loadable : Operation α → Prop
  | load m _ => m.responses.Full
  | _ => True

theorem follows_stage {operation : Operation α} (h : operation.Loadable) (s : Session α) :
    Follows (Change AnyRate) operation.stage s := by
  cases operation with
  | load m target =>
    exact (follows_responses h fun _ _ _ _ => follows_retime (fun _ _ => trivial) fun _ _ _ _ => trivial).mono fun _ _ => .deposit
  | cover => exact follows_check s
  | addOnsets => exact (follows_addAll s).mono fun _ _ => .deposit
  | magnitudes threads => exact (follows_all threads s).mono fun _ _ => .deposit
  | magnitudesAlong count schedule => exact (follows_magnitudesAlong count schedule s).mono fun _ _ => .deposit

/-- Operations in any order are a chain of changes. -/
theorem changes_of_runAll {operations : List (Operation α)} (h : ∀ operation ∈ operations, operation.Loadable)
    (s : Session α) : ReflTransGen (Change AnyRate) s.data (runAll operations s).data := by
  induction operations generalizing s with
  | nil => exact .refl
  | cons operation rest ih =>
    obtain ⟨hfirst, hrest⟩ := List.forall_mem_cons.1 h
    exact (follows_stage hfirst s).trans (ih hrest _)

end Operation

end Views

end HrirAtlas
