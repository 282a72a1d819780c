import HrirAtlas.Proofs.Load.Assignment
import HrirAtlas.Proofs.Signal.Rate

/-
Loading as a whole. The converter is chosen before any measurement is looked at, and the rate of the
data set follows it at the end; in between stand the measurements that own storage indices. With
whole rates, what is stored is at the rate that the data set has in the end.
-/

namespace HrirAtlas.Load

variable {α : Type} [Signal α]

/-- The spherical positions of the measurements. -/
def sphericals (m : MeasurementSet α) : List (Spherical α) := m.positions.map Cartesian.toSpherical

theorem length_sphericals (m : MeasurementSet α) : (sphericals m).length = m.positions.length := List.length_map ..

theorem converter?_ok {rate : Number α} {target : Setting α} {s u : Session α} {r : Option (Resampler α)}
    (h : converter? rate target s = .ok r u) :
    u = { s with journal := u.journal } ∧ (r.isSome = true ↔ isConversion rate target = true) ∧
      ∀ r', r = some r' → Resampler.set (.number rate) target = .ok r' := by
  unfold converter? at h
  cases hc : isConversion rate target with
  | true =>
    rw [hc, if_pos rfl] at h
    obtain ⟨r', v, hset, hreport⟩ := Stage.bind_ok h
    obtain ⟨hset, hv⟩ := Stage.ofExcept_ok hset
    rw [Stage.reportAll_bind, hv] at hreport
    cases hreport
    exact ⟨rfl, by simp, fun _ hr => by cases hr; exact hset⟩
  | false =>
    rw [hc] at h
    cases h
    exact ⟨rfl, by simp, nofun⟩

/-- What is left to do when all measurements are placed. -/
def finish (target : Setting α) (r : Option (Resampler α)) : Stage α Unit :=
  if r.isSome then retime target else pure ()

section Responses

variable {m : MeasurementSet α} {receivers points : Nat} {d : DataSet α} {target : Setting α} {s t : Session α}

theorem responses_eq (h : m.Shaped receivers points) (target : Setting α) (s : Session α) :
    responses m target s = (do
      let r ← converter? s.data.irRate target
      (List.range m.positions.length).forM (place m (sphericals m) r)
      finish target r : Stage α Unit) s := by
  unfold responses
  rw [Stage.data_bind, Stage.bind_run, Stage.bind_run]
  cases converter? s.data.irRate target s with
  | error cause u => rfl
  | ok r u =>
    simp only [h.measurements_eq, h.points_eq]
    cases r <;> rfl

/-- Loading ends well exactly when there is a converter, if one is needed, owners can be assigned,
and the rate can follow; the outcome is known from these. -/
theorem responses_ok_iff (h : Ready m receivers points d) (hs : s.data = d) :
    responses m target s = .ok () t ↔ ∃ r u owner, converter? d.irRate target s = .ok r u ∧
      Assigned d.fields (sphericals m) (List.range m.positions.length) owner ∧
      finish target r { u with data := loaded m r d owner, count := u.count + m.positions.length } = .ok () t := by
  rw [responses_eq h.shaped, hs]
  constructor
  · intro hok
    obtain ⟨r, u, hconverter, hloop⟩ := Stage.bind_ok hok
    obtain ⟨_, v, hloop, hfinish⟩ := Stage.bind_ok hloop
    have hu : u.data = d := (congrArg Session.data (converter?_ok hconverter).1).trans hs
    obtain ⟨owner, hassigned, hv⟩ := (forM_place_iff h (length_sphericals m) hu _).1 hloop
    exact ⟨r, u, owner, hconverter, hassigned, by rw [← hv]; exact hfinish⟩
  · rintro ⟨r, u, owner, hconverter, hassigned, hfinish⟩
    have hu : u.data = d := (congrArg Session.data (converter?_ok hconverter).1).trans hs
    have hloop := (forM_place_iff (r := r) h (length_sphericals m) hu _).2 ⟨owner, hassigned, rfl⟩
    rw [Stage.bind_of_ok hconverter, Stage.bind_of_ok hloop]
    exact hfinish

theorem retime_ok {rate : Number α} (h : retime (.number rate) s = .ok () t) :
    ∃ irPoints, irPoints ≤ s.data.irSize ∧ t = { s with data := { s.data with irRate := rate, irPoints } } := by
  unfold retime at h
  rw [Stage.data_bind] at h
  simp only at h
  rw [Stage.setData_bind] at h
  obtain ⟨points, u, hpoints, hrest⟩ := Stage.bind_ok h
  obtain ⟨-, hu⟩ := Stage.ofArithmetic_ok hpoints
  rw [hu] at hrest
  cases hrest
  exact ⟨min points s.data.irSize, min_le_right _ _, rfl⟩

/-- The rate and the samples in use may follow at the end, and nothing else. -/
theorem finish_ok {r : Option (Resampler α)} (h : finish target r s = .ok () t) :
    ∃ irRate irPoints, t = { s with data := { s.data with irRate, irPoints } } := by
  cases r with
  | none =>
    cases h
    exact ⟨s.data.irRate, s.data.irPoints, rfl⟩
  | some r =>
    have hretime : retime target s = .ok () t := h
    cases target with
    | number rate =>
      obtain ⟨irPoints, -, ht⟩ := retime_ok hretime
      exact ⟨rate, irPoints, ht⟩
    | _ => cases hretime

end Responses

/-! ## Whole rates -/

/-- The rate after loading: the target, unless it is zero. -/
def finalRate (source target : Int) : Int := if target = 0 then source else target

theorem isConversion_int (source target : Int) :
    isConversion (.int source : Number α) (.int target) = decide (target ≠ 0 ∧ target ≠ source) := by
  show ((Number.int target : Number α).isGiven && !(Number.int target : Number α).same (.int source)) = _
  rw [Number.isGiven_int, Number.same_int, Bool.decide_and]
  simp only [decide_not, beq_eq_decide]

section Rates

variable {m : MeasurementSet α} {receivers points : Nat} {d : DataSet α} {source target : Int} {s t : Session α}

theorem finalRate_of_no_conversion (h : ¬ (target ≠ 0 ∧ target ≠ source)) : finalRate source target = source := by
  unfold finalRate
  split
  · rfl
  · rename_i h0
    by_contra hne
    exact h ⟨h0, hne⟩

/-- What loading leaves with a whole target rate. -/
theorem responses_ok (h : Ready m receivers points d) (hs : s.data = d) (hrate : d.irRate = .int source)
    (hle : d.irPoints ≤ d.irSize) (hok : responses m (.int target) s = .ok () t) :
    ∃ r owner irPoints, Assigned d.fields (sphericals m) (List.range m.positions.length) owner ∧ irPoints ≤ d.irSize ∧
      t.data = { loaded m r d owner with irRate := .int (finalRate source target), irPoints } ∧
      (0 < finalRate source target → 0 < source) ∧
      ∀ signal, converted r signal = Resampler.atRate source.toNat (finalRate source target).toNat signal := by
  obtain ⟨r, u, owner, hconverter, hassigned, hfinish⟩ := (responses_ok_iff h hs).1 hok
  rw [hrate] at hconverter
  obtain ⟨-, hsome, hset⟩ := converter?_ok hconverter
  rw [isConversion_int, decide_eq_true_eq] at hsome
  cases r with
  | none =>
    -- without a converter the rate stays, and it is the final one: the target is zero or the same
    cases hfinish
    have hfinal : finalRate source target = source := finalRate_of_no_conversion fun hc => by cases hsome.2 hc
    refine ⟨none, owner, d.irPoints, hassigned, hle, ?_, fun hpos => by rwa [hfinal] at hpos, fun signal => ?_⟩
    · rw [hfinal, ← hrate]
      rfl
    · rw [hfinal]
      exact (if_pos rfl).symm
  | some r =>
    have hfinal : finalRate source target = target := if_neg (hsome.1 rfl).1
    obtain ⟨hsource, -, hresampled⟩ := Resampler.resampled_of_set (hset r rfl)
    have hretime : retime (.number (.int target)) { u with data := _, count := _ } = .ok () t := hfinish
    obtain ⟨irPoints, hpoints, ht⟩ := retime_ok hretime
    refine ⟨some r, owner, irPoints, hassigned, hpoints, ?_, fun _ => hsource, fun signal => ?_⟩
    · rw [ht, hfinal]
    · rw [hfinal]
      exact hresampled signal

end Rates

end HrirAtlas.Load
