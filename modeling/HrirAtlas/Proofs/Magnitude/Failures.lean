import Mathlib.Data.List.ReduceOption
import HrirAtlas.Proofs.Magnitude.Balance

/-
Failing work. A worker whose work fails ends and loses nothing but that work: the other workers go on,
and as long as one of them is left the work is drained. The stage that has started the workers waits
for all of them, also when one has failed early, and then stops for the first that failed, if any did.
-/

namespace HrirAtlas.Magnitude

variable {α : Type}

/-! ## The caller -/

/-- Where the stage stands that has started the workers: it polls until none of them runs, then asks
them in the order in which they were started, and stops for the first that failed. -/
inductive Caller where
  | polling
  /-- Asking for the outcome of a worker. -/
  | asking (turn : Nat)
  | returned
  | stopped (cause : ShapeFault)
deriving Repr, DecidableEq

namespace Caller

def ended : Caller → Bool
  | returned | stopped _ => true
  | _ => false

/-- A turn of the caller. A worker that has not ended is waited for. -/
def step (workers : List (Worker α)) : Caller → Caller
  | polling => if workers.all fun w => w.phase.ended then asking 0 else polling
  | asking turn =>
    match workers[turn]? with
    | none => returned
    | some w =>
      match w.phase with
      | .failed cause => stopped cause
      | .returned => asking (turn + 1)
      | _ => asking turn
  | caller => caller

/-- Why a worker has failed, if it has. -/
def fault? (w : Worker α) : Option ShapeFault :=
  match w.phase with
  | .failed cause => some cause
  | _ => none

/-- The end of a caller, by the cause that it has to stop for. -/
def ending : Option ShapeFault → Caller
  | some cause => stopped cause
  | none => returned

theorem fault?_isSome_iff {w : Worker α} : (fault? w).isSome = true ↔ ∃ cause, w.phase = .failed cause := by
  unfold fault?
  cases w.phase <;> simp

theorem ending_eq_stopped_iff {cause? : Option ShapeFault} :
    (∃ cause, ending cause? = stopped cause) ↔ cause?.isSome = true := by
  cases cause? <;> simp [ending]

section Turns

variable {workers : List (Worker α)}

theorem step_of_ended {caller : Caller} (h : caller.ended = true) : caller.step workers = caller := by
  cases caller with
  | polling | asking _ => cases h
  | returned | stopped _ => rfl

theorem iterate_of_ended {caller : Caller} (h : caller.ended = true) (turns : Nat) :
    (step workers)^[turns] caller = caller :=
  Function.iterate_fixed (step_of_ended h) turns

theorem ending_ended (cause? : Option ShapeFault) : (ending cause?).ended = true := by
  cases cause? <;> rfl

/-- Asking workers that have ended takes a turn for each of them and one at the end. -/
theorem iterate_asking (hended : ∀ w ∈ workers, w.phase.ended = true) (turns : Nat) {turn : Nat}
    (hturn : turn ≤ workers.length) (hturns : workers.length < turn + turns) :
    (step workers)^[turns] (asking turn) = ending ((workers.drop turn).findSome? fault?) := by
  induction turns generalizing turn with
  | zero => omega
  | succ turns ih =>
    rw [Function.iterate_succ_apply]
    cases hw : workers[turn]? with
    | none =>
      have hstep : (asking turn).step workers = returned := by unfold step; simp only [hw]
      rw [hstep, iterate_of_ended rfl, List.drop_eq_nil_of_le (List.getElem?_eq_none_iff.1 hw)]
      rfl
    | some w =>
      obtain ⟨hlt, rfl⟩ := List.getElem?_eq_some_iff.1 hw
      rw [List.drop_eq_getElem_cons hlt, List.findSome?_cons]
      cases hp : workers[turn].phase with
      | failed cause =>
        have hstep : (asking turn).step workers = stopped cause := by unfold step; simp only [hw, hp]
        rw [hstep, iterate_of_ended rfl, show fault? workers[turn] = some cause by unfold fault?; rw [hp]]
        rfl
      | returned =>
        have hstep : (asking turn).step workers = asking (turn + 1) := by unfold step; simp only [hw, hp]
        rw [hstep, show fault? workers[turn] = none by unfold fault?; rw [hp]]
        exact ih hlt (by omega)
      | starting | reading | claiming _ | computing _ | counting =>
        have := hended _ (List.getElem_mem hlt)
        rw [hp] at this
        cases this

/-- A caller that no longer polls has seen all workers end, and has been asking them since. -/
def Knows (workers : List (Worker α)) (caller : Caller) : Prop :=
  caller = polling ∨
    (∀ w ∈ workers, w.phase.ended = true) ∧ ∃ turns, caller = (step workers)^[turns] (asking 0)

theorem Knows.step {caller : Caller} (h : Knows workers caller) : Knows workers (caller.step workers) := by
  rcases h with rfl | ⟨hended, turns, rfl⟩
  · by_cases hall : (workers.all fun w => w.phase.ended) = true
    · exact .inr ⟨List.all_eq_true.1 hall, 0, if_pos hall⟩
    · exact .inl (if_neg hall)
  · exact .inr ⟨hended, turns + 1, (Function.iterate_succ_apply' _ _ _).symm⟩

/-- A caller ends after all its workers, and as their faults say. -/
theorem Knows.ending {caller : Caller} (h : Knows workers caller) (hcaller : caller.ended = true) :
    (∀ w ∈ workers, w.phase.ended = true) ∧ caller = ending (workers.findSome? fault?) := by
  rcases h with rfl | ⟨hended, turns, rfl⟩
  · cases hcaller
  · refine ⟨hended, ?_⟩
    have hlate := iterate_asking hended (workers.length + 1 + turns) (Nat.zero_le _) (by omega)
    rw [Function.iterate_add_apply, iterate_of_ended hcaller, List.drop_zero] at hlate
    exact hlate

/-- Once its workers have ended, a caller ends within a turn for each of them and two more. -/
theorem Knows.ends {caller : Caller} (h : Knows workers caller) (hended : ∀ w ∈ workers, w.phase.ended = true)
    {turns : Nat} (hturns : workers.length + 2 ≤ turns) : ((Caller.step workers)^[turns] caller).ended = true := by
  obtain ⟨rest, rfl⟩ : ∃ rest, turns = rest + 1 := ⟨turns - 1, by omega⟩
  rcases h with rfl | ⟨-, asked, rfl⟩
  · have hstep : polling.step workers = asking 0 := if_pos (List.all_eq_true.2 hended)
    rw [Function.iterate_succ_apply, hstep, iterate_asking hended rest (Nat.zero_le _) (by omega)]
    exact ending_ended _
  · rw [← Function.iterate_add_apply, iterate_asking hended _ (Nat.zero_le _) (by omega)]
    exact ending_ended _

end Turns

end Caller

namespace Pool

variable [Signal α]

/-! ## Turns of the caller and of the workers -/

/-- The pool, its workers and the caller after a schedule in which the turns that name no worker are
the caller's. -/
def watch (p : Pool α) (workers : List (Worker α)) (caller : Caller) :
    List (Option Nat) → Pool α × List (Worker α) × Caller
  | [] => (p, workers, caller)
  | none :: rest => watch p workers (caller.step workers) rest
  | some turn :: rest => watch (p.interleave workers [turn]).1 (p.interleave workers [turn]).2 caller rest

section Watch

variable {p : Pool α} {workers : List (Worker α)} {caller : Caller}

theorem interleave_append (first second : List Nat) : p.interleave workers (first ++ second) =
    (p.interleave workers first).1.interleave (p.interleave workers first).2 second := by
  induction first generalizing p workers with
  | nil => rfl
  | cons turn rest ih =>
    rw [List.cons_append]
    cases hw : workers[turn]? with
    | none => rw [interleave_cons_none _ hw, interleave_cons_none _ hw, ih]
    | some w => rw [interleave_cons_some _ hw, interleave_cons_some _ hw, ih]

theorem watch_append (first second : List (Option Nat)) : p.watch workers caller (first ++ second) =
    (p.watch workers caller first).1.watch (p.watch workers caller first).2.1 (p.watch workers caller first).2.2
      second := by
  induction first generalizing p workers caller with
  | nil => rfl
  | cons turn rest ih => cases turn <;> exact ih

/-- The caller leaves pool and workers to the workers' own turns. -/
theorem watch_workers (p : Pool α) (workers : List (Worker α)) (caller : Caller) (schedule : List (Option Nat)) :
    (p.watch workers caller schedule).1 = (p.interleave workers schedule.reduceOption).1 ∧
      (p.watch workers caller schedule).2.1 = (p.interleave workers schedule.reduceOption).2 := by
  induction schedule generalizing p workers caller with
  | nil => exact ⟨rfl, rfl⟩
  | cons turn rest ih =>
    cases turn with
    | none => rw [List.reduceOption_cons_of_none]; exact ih p workers _
    | some turn =>
      have hrest : p.interleave workers (turn :: rest.reduceOption) = _ := interleave_append [turn] rest.reduceOption
      rw [List.reduceOption_cons_of_some, hrest]
      exact ih _ _ caller

theorem watch_caller (turns : Nat) : p.watch workers caller (List.replicate turns none) =
    (p, workers, (Caller.step workers)^[turns] caller) := by
  induction turns generalizing caller with
  | zero => rfl
  | succ turns ih => exact ih

/-- Turns of workers that have ended change nothing. -/
theorem interleave_of_ended (hended : ∀ w ∈ workers, w.phase.ended = true) (schedule : List Nat) :
    p.interleave workers schedule = (p, workers) := by
  induction schedule with
  | nil => rfl
  | cons turn rest ih =>
    cases hw : workers[turn]? with
    | none => rw [interleave_cons_none _ hw, ih]
    | some w => rw [interleave_cons_some _ hw, step_ended (hended w (List.mem_of_getElem? hw)), set_same hw, ih]

theorem watch_knows (p : Pool α) (schedule : List (Option Nat)) (h : Caller.Knows workers caller) :
    Caller.Knows (p.watch workers caller schedule).2.1 (p.watch workers caller schedule).2.2 := by
  induction schedule generalizing p workers caller with
  | nil => exact h
  | cons turn rest ih =>
    cases turn with
    | none => exact ih p h.step
    | some turn =>
      refine ih _ ?_
      rcases h with rfl | ⟨hended, asked⟩
      · exact .inl rfl
      · rw [interleave_of_ended hended]
        exact .inr ⟨hended, asked⟩

end Watch

/-- Workers that run one after another are watched like any others. -/
theorem runWorkers_eq_interleave (count : Nat) (p : Pool α) (before : List (Worker α)) :
    ∃ schedule after, p.interleave (before ++ List.replicate count ({} : Worker α)) schedule =
        ((runWorkers count p).1, before ++ after) ∧
      (∀ w ∈ after, w.phase.ended = true) ∧ after.findSome? Caller.fault? = (runWorkers count p).2 := by
  induction count generalizing p before with
  | zero => exact ⟨[], [], rfl, nofun, rfl⟩
  | succ count ih =>
    obtain ⟨schedule, after, hrun, hended, hfault⟩ := ih p.runWorker.1 (before ++ [p.runWorker.2])
    refine ⟨List.replicate p.stepBound before.length ++ schedule, p.runWorker.2 :: after, ?_, ?_, ?_⟩
    · rw [List.append_assoc, List.append_assoc] at hrun
      rw [List.replicate_succ, interleave_append, alone_eq_interleave_among]
      exact hrun
    · exact List.forall_mem_cons.2 ⟨runWorker_ended p, hended⟩
    · rw [List.findSome?_cons, hfault, runWorkers_succ]
      unfold Caller.fault?
      cases p.runWorker.2.phase <;> rfl

theorem runWorkers_eq_watch (count : Nat) (p : Pool α) : ∃ schedule after,
    p.watch (List.replicate count {}) .polling schedule =
      ((runWorkers count p).1, after, .ending (runWorkers count p).2) := by
  obtain ⟨turns, after, hrun, hended, hfault⟩ := runWorkers_eq_interleave count p []
  rw [List.nil_append, List.nil_append] at hrun
  obtain ⟨caller, hturns⟩ : ∃ caller, p.watch (List.replicate count {}) .polling (turns.map some) =
      ((runWorkers count p).1, after, caller) := by
    have hworkers := watch_workers p (List.replicate count {}) .polling (turns.map some)
    rw [show (turns.map some).reduceOption = turns by simp [List.reduceOption], hrun] at hworkers
    exact ⟨_, Prod.ext hworkers.1 (Prod.ext hworkers.2 rfl)⟩
  have hwatch : p.watch (List.replicate count {}) .polling (turns.map some ++ List.replicate (after.length + 2) none) =
      ((runWorkers count p).1, after, (Caller.step after)^[after.length + 2] caller) := by
    rw [watch_append, hturns, watch_caller]
  have hknows : Caller.Knows after caller := by
    have := watch_knows p (turns.map some) (.inl rfl : Caller.Knows (List.replicate count {}) .polling)
    rwa [hturns] at this
  have hlast : Caller.Knows after ((Caller.step after)^[after.length + 2] caller) := by
    have := watch_knows (runWorkers count p).1 (List.replicate (after.length + 2) none) hknows
    rwa [watch_caller] at this
  refine ⟨_, after, hwatch.trans ?_⟩
  rw [(hlast.ending (hknows.ends hended le_rfl)).2, hfault]

/-! ## The stage -/

/-- The magnitude stage of a session has the work of the pool, and starts so many workers on it once it
knows the points of their transform. -/
structure Starts (threads : Setting α) (s : Session α) (count : Nat) (p : Pool α) : Prop where
  count : workerCount threads = .ok count
  rows : (s.data.buffer.getD ⟨0, 0, 0, #[]⟩).rows = p.rows
  work : workList s.data (s.data.buffer.getD ⟨0, 0, 0, #[]⟩) = .ok p.work
  points : s.data.irPoints = p.points

section Starts

variable {threads : Setting α} {s : Session α} {count : Nat} {p : Pool α}

/-- Without points of a transform there are no scratch rows, and the stage stops. -/
theorem Starts.no_size (h : Starts threads s count p) {cause : SettingFault}
    (hsize : transformSize s.data.fftSize = .error cause) : ∃ t, all threads s = .error (.setting cause) t := by
  unfold all
  rw [Stage.data_bind, Stage.bind_of_ok (Stage.ofShape_of_ok h.work), h.count, hsize]
  exact ⟨_, rfl⟩

/-- The stage stops exactly if one of its workers fails. -/
theorem Starts.stops_iff (h : Starts threads s count p) (hsize : transformSize s.data.fftSize = .ok p.fftSize)
    (hcursor : p.cursor = {}) (hdone : p.done = {}) :
    (∃ cause t, all threads s = .error cause t) ↔ ∃ cause, (runWorkers count p).2 = some cause := by
  have hpool : ({ rows := p.rows, work := p.work, fftSize := p.fftSize, points := p.points } : Pool α) = p := by
    cases p
    cases hcursor
    cases hdone
    rfl
  obtain ⟨t, hrun⟩ : ∃ t, all threads s =
      match (runWorkers count p).2 with | some cause => .error (.shape cause) t | none => .ok () t := by
    unfold all
    rw [Stage.data_bind, Stage.bind_of_ok (Stage.ofShape_of_ok h.work), h.count,
      Stage.bind_of_ok (show Stage.ofExcept (.ok count) s = .ok count s from rfl), hsize, h.rows, h.points]
    simp only [hpool]
    cases (runWorkers count p).2 <;> exact ⟨_, rfl⟩
  rw [hrun]
  cases (runWorkers count p).2 <;> simp

end Starts

/-! ## Failing work -/

/-- A step that fails a worker changes nothing else, and is the worker's last. -/
theorem step_failed {p : Pool α} {w : Worker α} {cause : ShapeFault} (h : (p.step w).2.phase = .failed cause) :
    (p.step w).1 = p ∧ ∀ q : Pool α, q.step (p.step w).2 = (q, (p.step w).2) := by
  refine ⟨?_, fun q => step_ended (by rw [h]; rfl)⟩
  have hmoves := moves_step p w
  generalize p.step w = after at h hmoves
  cases hmoves with
  | lack | fault | rest => rfl
  | start | read | past | won | lost | finish | count => cases h

section Accounts

variable {p : Pool α}

/-- A pool whose workers have ended: the finished work is counted, enough workers drain the
work, and those that failed did so at a claim of theirs or had no scratch row. -/
structure AtRest (p : Pool α) (count : Nat) (claimed done : List Int) (q : Pool α) (workers : List (Worker α)) :
    Prop where
  counted : q.done.value = (claimed.filter fun k => !p.failsAt k).length
  drained : checkSize [p.fftSize] = .ok () → (List.range p.work.length).countP (fun i : Nat => p.failsAt i) < count →
    q.cursor.value = p.work.length ∧ ∀ i < p.work.length, p.failsAt i = false → done.count (i : Int) = 1
  failed : (∃ w ∈ workers, ∃ cause, w.phase = .failed cause) ↔
    (∃ k ∈ claimed, p.failsAt k = true) ∨ checkSize [p.fftSize] ≠ .ok () ∧ 0 < count

theorem Balance.atRest (hsize : checkSize [p.fftSize] = .ok ()) {q : Pool α} {claimed done lost : List Int}
    {workers : List (Worker α)} (h : Balance p claimed done lost q workers)
    (hended : ∀ w ∈ workers, w.phase.ended = true) : AtRest p workers.length claimed done q workers := by
  refine ⟨h.done_count hended, fun _ hfew => ?_, ?_⟩
  · have hclaimed := h.drained hended hfew
    refine ⟨by rw [h.cursor, hclaimed, List.length_map, List.length_range], fun i hi hfails => ?_⟩
    rw [(h.done_perm hended).count_eq, List.count_filter (by rw [hfails]; rfl), hclaimed]
    refine List.count_eq_one_of_mem (List.nodup_range.map Nat.cast_injective) ?_
    exact List.mem_map_of_mem (List.mem_range.2 hi)
  · have hlost : (∃ w ∈ workers, ∃ cause, w.phase = .failed cause) ↔ 0 < lost.length := by
      rw [← h.failed, List.countP_pos_iff]
      refine exists_congr fun w => and_congr_right fun _ => ?_
      unfold hasFailed
      cases w.phase <;> simp
    rw [hlost, (h.lost_perm hended).length_eq, List.length_pos_iff_exists_mem, hsize]
    simp [List.mem_filter]

/-- Where there is no scratch row to be had, all workers fail before they claim anything. -/
theorem AtRest.lacking {cause : ShapeFault} (hsize : checkSize [p.fftSize] = .error cause) (hdone : p.done.value = 0)
    {workers : List (Worker α)} (hall : ∀ w ∈ workers, w.phase = .starting ∨ w.phase = .failed cause)
    (hended : ∀ w ∈ workers, w.phase.ended = true) (done : List Int) : AtRest p workers.length [] done p workers := by
  refine ⟨hdone, fun hok => ?_, ?_⟩
  · rw [hsize] at hok
    cases hok
  · have hfailed : ∀ w ∈ workers, w.phase = .failed cause := fun w hw => (hall w hw).resolve_left fun hp => by
      have := hended w hw
      rw [hp] at this
      cases this
    rw [hsize]
    constructor
    · rintro ⟨w, hw, -⟩
      exact .inr ⟨nofun, List.length_pos_of_mem hw⟩
    · rintro (⟨_, hk, _⟩ | ⟨-, hpos⟩)
      · cases hk
      · obtain ⟨w, hw⟩ := List.length_pos_iff_exists_mem.1 hpos
        exact ⟨w, hw, cause, hfailed w hw⟩

theorem interleave_atRest (hcursor : p.cursor.value = 0) (hdone : p.done.value = 0) (count : Nat) (schedule : List Nat) :
    ((p.record taken (List.replicate count {}) schedule).map Prod.snd).Nodup ∧
      ((∀ w ∈ (p.interleave (List.replicate count {}) schedule).2, w.phase.ended = true) →
        AtRest p count ((p.record taken (List.replicate count {}) schedule).map Prod.snd)
          ((p.record finished (List.replicate count {}) schedule).map Prod.snd)
          (p.interleave (List.replicate count {}) schedule).1 (p.interleave (List.replicate count {}) schedule).2) := by
  have hlength : (p.interleave (List.replicate count {}) schedule).2.length = count := by
    rw [interleave_length, List.length_replicate]
  cases hsize : checkSize [p.fftSize] with
  | ok u =>
    have h := (Balance.start hcursor hdone count).interleave hsize schedule
    simp only [List.nil_append] at h
    refine ⟨h.claimed_sublist.nodup (List.nodup_range.map Nat.cast_injective), fun hended => ?_⟩
    have hrest := h.atRest hsize hended
    rwa [hlength] at hrest
  | error cause =>
    have hnew : ∀ w ∈ List.replicate count ({} : Worker α), w.phase = .starting ∨ w.phase = .failed cause :=
      fun w hw => .inl (by rw [List.eq_of_mem_replicate hw])
    obtain ⟨hpool, hclaims, hall⟩ := interleave_unstarted hsize schedule hnew
    rw [hclaims, hpool]
    refine ⟨List.nodup_nil, fun hended => ?_⟩
    have hrest := AtRest.lacking hsize hdone hall hended
      ((p.record finished (List.replicate count {}) schedule).map Prod.snd)
    rwa [hlength] at hrest

end Accounts

/-- Failing work along every schedule of the workers and of the stage that waits for them. No index is
claimed twice, and a worker that fails changes nothing by it and takes no further step. When all workers
have ended, the finished work is the claimed work that does not fail, and is counted; if there are more
workers than indices that fail, and scratch rows for them, that is all work that does not fail, each
piece finished once. The stage ends soon after the workers and never before them, and is stopped exactly
if a claimed index fails or there were no scratch rows to be had. Workers that run one after another are
among these schedules, and what they leave the stage with is what it stops for. -/
theorem watch_failures (rows : Array (Array α)) (work : List (Option Nat)) (fftSize points : Int) (count : Nat)
    (schedule : List (Option Nat)) :
    let p : Pool α := { rows, work, fftSize, points }
    let workers := List.replicate count {}
    let claimed := (p.record taken workers schedule.reduceOption).map Prod.snd
    let done := (p.record finished workers schedule.reduceOption).map Prod.snd
    let out := p.watch workers .polling schedule
    claimed.Nodup ∧
      (∀ w ∈ out.2.1, ∀ cause, (out.1.step w).2.phase = .failed cause →
        (out.1.step w).1 = out.1 ∧ ∀ q : Pool α, q.step (out.1.step w).2 = (q, (out.1.step w).2)) ∧
      ((∀ w ∈ out.2.1, w.phase.ended = true) →
        out.1.done.value = (claimed.filter fun k => !p.failsAt k).length ∧
        (checkSize [fftSize] = .ok () → (List.range work.length).countP (fun i : Nat => p.failsAt i) < count →
          out.1.cursor.value = work.length ∧ ∀ i < work.length, p.failsAt i = false → done.count (i : Int) = 1) ∧
        ∀ more, count + 2 ≤ more →
          (p.watch workers .polling (schedule ++ List.replicate more none)).2.2.ended = true) ∧
      (out.2.2.ended = true → (∀ w ∈ out.2.1, w.phase.ended = true) ∧
        ((∃ cause, out.2.2 = .stopped cause) ↔
          (∃ k ∈ claimed, p.failsAt k = true) ∨ checkSize [fftSize] ≠ .ok () ∧ 0 < count)) ∧
      (∃ serial after,
        p.watch workers .polling serial = ((runWorkers count p).1, after, .ending (runWorkers count p).2)) ∧
      ∀ (threads : Setting α) (s : Session α), Starts threads s count p →
        (∀ cause, transformSize s.data.fftSize = .error cause → ∃ t, all threads s = .error (.setting cause) t) ∧
        (transformSize s.data.fftSize = .ok fftSize →
          ((∃ cause t, all threads s = .error cause t) ↔ ∃ cause, (runWorkers count p).2 = some cause)) := by
  intro p workers claimed done out
  obtain ⟨hpool, hafter⟩ := watch_workers p workers .polling schedule
  obtain ⟨hnodup, hrest⟩ := interleave_atRest (p := p) rfl rfl count schedule.reduceOption
  rw [← hpool, ← hafter] at hrest
  have hknows : Caller.Knows out.2.1 out.2.2 := watch_knows p schedule (.inl rfl)
  have hlength : out.2.1.length = count := by
    rw [hafter, interleave_length, List.length_replicate]
  refine ⟨hnodup, fun w _ cause hcause => step_failed hcause, fun hended => ?_, fun hcaller => ?_,
    runWorkers_eq_watch count p, fun threads s hstarts =>
      ⟨fun cause hsize => hstarts.no_size hsize, fun hsize => hstarts.stops_iff hsize rfl rfl⟩⟩
  · obtain ⟨hcounted, hdrained, -⟩ := hrest hended
    refine ⟨hcounted, hdrained, fun more hmore => ?_⟩
    rw [watch_append, watch_caller]
    exact hknows.ends hended (by rwa [hlength])
  · obtain ⟨hended, hverdict⟩ := hknows.ending hcaller
    refine ⟨hended, ?_⟩
    rw [← (hrest hended).failed, hverdict, Caller.ending_eq_stopped_iff, List.findSome?_isSome_iff]
    exact exists_congr fun w => and_congr_right fun _ => Caller.fault?_isSome_iff

/-- Workers that can have no scratch row stop the stage, although no index is claimed. -/
theorem watch_lacking :
    let p : Pool ℚ := { rows := #[], work := [], fftSize := -1, points := 32 }
    let claimed := (p.record taken [{}] [0]).map Prod.snd
    let out := p.watch [{}] .polling [some 0, none, none]
    out.2.2.ended = true ∧ ¬ ((∃ cause, out.2.2 = .stopped cause) ↔ ∃ k ∈ claimed, p.failsAt k = true) := by
  intro p claimed out
  have hcaller : out.2.2 = .stopped .negativeSize := by decide +kernel
  have hclaimed : claimed = [] := by decide +kernel
  refine ⟨by rw [hcaller]; rfl, fun hiff => ?_⟩
  obtain ⟨k, hk, -⟩ := hiff.1 ⟨_, hcaller⟩
  rw [hclaimed] at hk
  cases hk

end Pool

end HrirAtlas.Magnitude
