import HrirAtlas.Proofs.Import.Start
import HrirAtlas.Proofs.Views.Changes

/-
The writes of an import. Once its sizes are set, a data set changes by few kinds of writes: the grid
is allocated, and what follows are the changes of an allocated data set, with the rate and the samples
in use going the way of the one conversion that is asked for. Every stage is a chain of these, whether
it ends well or stops, so what they all keep holds at every moment of an import.
-/

namespace HrirAtlas.Import

open Relation Stage Views

variable {α : Type} [Signal α]

/-- How the rate and the samples in use change in an import. -/
inductive Retimes (m : MeasurementSet α) (o : ImportOptions α) (d : DataSet α) : Number α → Int → Prop
  | rate {rate : Number α} (hrate : o.outRate = .number rate) : Retimes m o d rate d.irPoints
  /-- The samples in use, as long after the conversion as before, as far as a row can hold them. -/
  | points {source points : Int} {r : Resampler α} (hsource : Scalar.round m.sampleRate = .ok source)
      (hset : Resampler.set (.int source) (.number d.irRate) = .ok r) (hrate : o.outRate = .number d.irRate)
      (hpoints : Scalar.ceil (Scalar.ofInt d.irPoints * (d.irRate.toScalar / Scalar.ofInt source)) = .ok points) :
      Retimes m o d d.irRate (min points d.irSize)

/-- The writes of an import after its sizes are set. -/
inductive Write (m : MeasurementSet α) (o : ImportOptions α) : DataSet α → DataSet α → Prop
  /-- The fields of layouts, with empty contents. -/
  | fields (d : DataSet α) (layouts : List (Layout α)) : Write m o d { d with
      fields := (Grid.newFields 0 layouts).1
      contents := Array.replicate (Grid.newFields 0 layouts).2.1 (Content.empty d.channels) }
  | irCount (d : DataSet α) (irCount : Nat) : Write m o d { d with irCount }
  /-- The buffer, silent. -/
  | buffer (d : DataSet α) :
      Write m o d { d with buffer := some (Buffer.silent d.channels d.irCount d.irSize.toNat) }
  | change {d d' : DataSet α} (h : Change (Retimes m o) d d') : Write m o d d'

variable {m : MeasurementSet α} {o : ImportOptions α} {receivers points : Nat} {s : Session α}

theorem Write.deposit (d d' : DataSet α) (h : Deposit (Retimes m o) d d') : Write m o d d' := .change (.deposit h)

/-! ## The grid -/

theorem follows_survey {R : DataSet α → DataSet α → Prop} (positions : List (Spherical α)) (s : Session α) :
    Follows R (Grid.survey positions) s := by
  unfold Grid.survey
  refine follows_modify_bind rfl ?_
  dsimp only
  refine follows_modify_bind rfl (follows_ofExcept_bind fun layouts _ => follows_modify_bind rfl ?_)
  exact follows_pure _

theorem follows_allocate (layouts : List (Layout α)) (s : Session α) :
    Follows (Write m o) (Grid.allocate layouts) s := by
  unfold Grid.allocate
  refine follows_data_bind ?_
  dsimp only
  refine follows_setData_bind (.fields s.data layouts) ?_
  cases (Grid.newFields 0 layouts).2.2 with
  | some cause => exact follows_fail _
  | none =>
    refine follows_setData_bind (.irCount ..) (follows_ofShape_bind fun _ _ => follows_setData_bind (.buffer _) ?_)
    exact follows_modify rfl

theorem follows_gridPrepare (positions : List (Spherical α)) (s : Session α) :
    Follows (Write m o) (Grid.prepare positions) s :=
  (follows_survey positions s).bind fun layouts u _ => follows_allocate layouts u

theorem irRate_of_gridPrepare {positions : List (Spherical α)} {u : Session α}
    (h : Grid.prepare positions s = .ok () u) : u.data.irRate = s.data.irRate := by
  obtain ⟨layouts, v, hsurvey, hallocate⟩ := Stage.bind_ok h
  obtain ⟨-, fields, contents, irCount, buffer, -, hu⟩ := Grid.allocate_ok hallocate
  rw [hu, (Grid.survey_ok hsurvey).2]

/-! ## Loading -/

/-- The conversion is from the rounded rate of the measurements, which the data set has until then. -/
theorem follows_loading (hm : m.Shaped receivers points) {source : Int}
    (hsource : Scalar.round m.sampleRate = .ok source) (hrate : s.data.irRate = .int source) :
    Follows (Write m o) (loading m o) s := by
  unfold loading
  refine follows_ofShape_bind fun count _ => follows_withProgress ?_
  refine (follows_responses hm.full fun r u hset hu => ?_).mono Write.deposit
  rw [show ({ s with count := 0 } : Session α).data.irRate = .int source from hrate] at hset hu
  refine follows_retime (fun rate => .rate) fun rate points hout hpoints => ?_
  rw [hu] at hpoints
  rw [hout] at hset
  exact .points (d := { u.data with irRate := rate }) hsource hset hout hpoints

/-! ## All stages -/

theorem setUp_of_start {d : DataSet α} {n : Int} (hstart : start m o = .ok (d, .int n)) (s : Session α) :
    setUp m o s = Grid.prepare (m.positions.map Cartesian.toSpherical) { s with data := { d with irSize := n } } := by
  unfold setUp
  rw [Stage.bind_of_ok (show ofExcept (start m o) s = .ok (d, .int n) s by rw [hstart]; rfl)]
  rfl

/-- The import after its size checks. -/
def staged (m : MeasurementSet α) (o : ImportOptions α) : Stage α Unit := do
  Grid.prepare (m.positions.map Cartesian.toSpherical)
  loading m o
  analyse o.threads

theorem run_of_start {d : DataSet α} {n : Int} (hstart : start m o = .ok (d, .int n)) (s : Session α) :
    run m o s = staged m o { s with data := { d with irSize := n } } := by
  rw [run_eq]
  unfold staged
  rw [bind_run, bind_run, setUp_of_start hstart]

/-- The stage that adds the onsets. -/
def timing : Stage α Unit := do
  let d ← Stage.data
  Stage.withProgress "Calculating HRIR onsets" (d.measuredSlots.length * d.channels) Onset.addAll

/-- The stages of an import after its size checks, in order. -/
def stages (m : MeasurementSet α) (o : ImportOptions α) : List (Stage α Unit) :=
  [Grid.prepare (m.positions.map Cartesian.toSpherical), loading m o, Coverage.check, timing, Magnitude.all o.threads]

theorem staged_eq (m : MeasurementSet α) (o : ImportOptions α) : staged m o = (stages m o).forM id := by
  simp only [staged, stages, analyse, timing, List.forM, id, bind_assoc, bind_pure_unit]

/-- From a data set with the rounded rate of the measurements, every stage is a chain of writes. -/
theorem followsAll_stages (hm : m.Shaped receivers points) {source : Int}
    (hsource : Scalar.round m.sampleRate = .ok source) (hrate : s.data.irRate = .int source) :
    FollowsAll (Write m o) (stages m o) s := by
  refine ⟨follows_gridPrepare _ s, fun t ht => ⟨?_, fun u _ => ⟨?_, fun v _ => ⟨?_, fun w _ => ⟨?_, fun _ _ => trivial⟩⟩⟩⟩⟩
  · exact follows_loading hm hsource ((irRate_of_gridPrepare ht).trans hrate)
  · exact (follows_check u).mono fun _ _ => .change
  · exact follows_data_bind (follows_withProgress ((follows_addAll _).mono Write.deposit))
  · exact (follows_all o.threads w).mono Write.deposit

/-- An import whose size checks are passed has gone along a chain of writes from the data set with its
sizes, after each of its stages and when it stops. -/
theorem writes_of_run (hm : m.Shaped receivers points) {d : DataSet α} {n : Int} (hstart : start m o = .ok (d, .int n))
    (s : Session α) {done : List (Stage α Unit)} (hdone : done <+: stages m o) :
    ReflTransGen (Write m o) { d with irSize := n } ((done.forM id).after { s with data := { d with irSize := n } }).data := by
  obtain ⟨_, source, -, -, hsource, -, hd⟩ := start_ok hm hstart
  have hrate : d.irRate = .int source := by rw [hd]
  exact (followsAll_stages (s := { s with data := { d with irSize := n } }) hm hsource hrate).forM hdone

end HrirAtlas.Import
