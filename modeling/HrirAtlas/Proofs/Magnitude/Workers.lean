import HrirAtlas.Proofs.Exact.Signal
import HrirAtlas.Proofs.Magnitude.Schedule

/-
What a pool leaves behind. A worker alone returns within its bound of steps, and workers that run
one after another are a schedule like any other. When all workers of a schedule have returned, every
index was claimed once, cursor and count of finished work stand at the number of indices, and each
row holds the magnitudes of its first content; so every schedule of any number of workers leaves the
rows that one worker alone leaves.
-/

namespace HrirAtlas.Magnitude.Pool

variable {α : Type}

theorem returned_of_ended {w : Worker α} (h : w.phase.ended = true) (hok : ∀ cause, w.phase ≠ .failed cause) :
    w.phase = .returned := by
  cases hp : w.phase with
  | returned => rfl
  | failed cause => exact absurd hp (hok cause)
  | _ => rw [hp] at h; cases h

theorem forall_mem_push {P : Worker α → Prop} {workers : List (Worker α)} (h : ∀ v ∈ workers, P v) (hnew : P {}) :
    ∀ v ∈ workers ++ [({} : Worker α)], P v := by
  intro v hv
  rcases List.mem_append.1 hv with hv | hv
  · exact h v hv
  · rwa [List.mem_singleton.1 hv]

theorem rows_ext {refs : List Nat} {a b : Array (Array α)} (hsize : a.size = b.size)
    (hbound : ∀ row ∈ refs, row < a.size) (hin : ∀ row ∈ refs, a.getD row #[] = b.getD row #[])
    (hout : ∀ row, row ∉ refs → a[row]? = b[row]?) : a = b := by
  refine Array.ext_getElem? fun row => ?_
  by_cases hrow : row ∈ refs
  · have hlt := hbound row hrow
    have h := hin row hrow
    rw [Array.getElem?_eq_getElem hlt, Array.getElem?_eq_getElem (hsize ▸ hlt)]
    simpa [Array.getD, hlt, hsize ▸ hlt] using h
  · exact hout row hrow

variable [Signal α]

/-! ## A worker alone -/

/-- An upper bound of the steps that a worker alone still takes. -/
def stepsLeft (p : Pool α) (w : Worker α) : Nat :=
  let left := ((p.work.length : Int) - p.cursor.value).toNat
  match w.phase with
  | .starting => 4 * left + 3
  | .reading => 4 * left + 2
  | .claiming index => if p.cursor.value = index then 4 * left + 1 else 4 * left + 2
  | .computing _ => 4 * left + 4
  | .counting => 4 * left + 3
  | .returned | .failed _ => 0

theorem stepsLeft_step {p : Pool α} {w : Worker α} (h : w.phase.ended = false) :
    stepsLeft (p.step w).1 (p.step w).2 < stepsLeft p w := by
  cases hp : w.phase with
  | starting =>
    cases hs : checkSize [p.fftSize] with
    | error cause => rw [step_starting_error hs hp]; simp [stepsLeft, hp]
    | ok u => rw [step_starting hs hp]; simp [stepsLeft, hp]
  | reading => rw [step_reading hp]; simp [stepsLeft, hp]
  | counting => rw [step_counting hp]; simp [stepsLeft, hp]
  | returned | failed _ => rw [hp] at h; cases h
  | claiming k =>
    by_cases hpast : (p.work.length : Int) ≤ k
    · rw [step_claiming_past hp hpast]
      simp only [stepsLeft, hp]
      split <;> omega
    · -- a lost exchange brings the value of the cursor along, so that the next one is won
      by_cases hwon : p.cursor.value = k
      · rw [step_claiming_won hp hpast hwon]
        simp only [stepsLeft, hp, if_pos hwon]
        omega
      · rw [step_claiming_lost hp hpast hwon]
        simp [stepsLeft, hp, hwon]
  | computing k =>
    unfold step; rw [hp]
    simp only
    rcases p.compute w.scratch k with ⟨scratch, _ | rows⟩ <;> simp [stepsLeft, hp]

theorem alone_of_ended {p : Pool α} {w : Worker α} (h : w.phase.ended = true) (fuel : Nat) :
    alone fuel p w = (p, w) := by
  cases fuel with
  | zero => rfl
  | succ fuel => unfold alone; rw [if_pos h]

theorem alone_succ {p : Pool α} {w : Worker α} (h : w.phase.ended = false) (fuel : Nat) :
    alone (fuel + 1) p w = alone fuel (p.step w).1 (p.step w).2 := by
  conv => lhs; unfold alone
  rw [if_neg (by rw [h]; nofun)]

theorem alone_ended (fuel : Nat) {p : Pool α} {w : Worker α} (h : stepsLeft p w ≤ fuel) :
    (alone fuel p w).2.phase.ended = true := by
  induction fuel generalizing p w with
  | zero =>
    cases he : w.phase.ended with
    | true => exact he
    | false => have := stepsLeft_step (p := p) he; omega
  | succ fuel ih =>
    cases he : w.phase.ended with
    | true => rw [alone_of_ended he]; exact he
    | false =>
      rw [alone_succ he]
      have := stepsLeft_step (p := p) he
      exact ih (by omega)

/-- A new worker's run alone takes no more steps than its bound. -/
theorem runWorker_ended (p : Pool α) : p.runWorker.2.phase.ended = true :=
  alone_ended _ (le_refl _)

/-- A worker alone is a worker of a schedule that lets no other one take a turn. -/
theorem alone_eq_interleave_among (fuel : Nat) (p : Pool α) (before : List (Worker α)) (w : Worker α)
    (after : List (Worker α)) :
    p.interleave (before ++ w :: after) (List.replicate fuel before.length) =
      ((alone fuel p w).1, before ++ (alone fuel p w).2 :: after) := by
  induction fuel generalizing p w with
  | zero => rfl
  | succ fuel ih =>
    have hw : (before ++ w :: after)[before.length]? = some w := by simp
    rw [List.replicate_succ, interleave_cons_some _ hw]
    have hset : (before ++ w :: after).set before.length (p.step w).2 = before ++ (p.step w).2 :: after := by simp
    rw [hset, ih]
    cases he : w.phase.ended with
    | true => rw [step_ended he, alone_of_ended he, alone_of_ended he]
    | false => rw [alone_succ he]

theorem alone_eq_interleave (fuel : Nat) (p : Pool α) (before : List (Worker α)) (w : Worker α) :
    p.interleave (before ++ [w]) (List.replicate fuel before.length) =
      ((alone fuel p w).1, before ++ [(alone fuel p w).2]) :=
  alone_eq_interleave_among fuel p before w []

/-! ## All workers returned -/

section Returned

variable {p q : Pool α} {refs : List Nat} {c : Nat} {workers : List (Worker α)}

theorem Progress.push (h : Progress p refs c q workers) : Progress p refs c q (workers ++ [({} : Worker α)]) := by
  -- the new worker has not started, so it is in no phase that the invariant speaks of
  have hget : ∀ (a : Nat) (v : Worker α), (workers ++ [({} : Worker α)])[a]? = some v →
      v.phase = .starting ∨ workers[a]? = some v := by
    intro a v ha
    rw [List.getElem?_append] at ha
    split at ha
    · exact .inr ha
    · have := List.mem_of_getElem? ha
      rw [List.mem_singleton] at this
      subst this; exact .inl rfl
  have hflight : ∀ i, InFlight (workers ++ [({} : Worker α)]) i ↔ InFlight workers i := by
    intro i
    constructor
    · rintro ⟨a, v, ha, hv⟩
      rcases hget a v ha with hs | ha
      · rw [hs] at hv; cases hv
      · exact ⟨a, v, ha, hv⟩
    · rintro ⟨a, v, ha, hv⟩
      refine ⟨a, v, ?_, hv⟩
      rw [List.getElem?_append_left (List.getElem?_eq_some_iff.1 ha).choose]; exact ha
  refine { h with claiming := ?_, computing := ?_, returned := ?_, scratch := ?_, exclusive := ?_, held := ?_,
                  kept := ?_, done := ?_, lost := ?_ }
  · exact forall_mem_push h.claiming nofun
  · exact forall_mem_push h.computing nofun
  · exact forall_mem_push h.returned nofun
  · exact forall_mem_push h.scratch fun hs => absurd rfl hs
  · intro a b u v k ha hb hu hv
    rcases hget a u ha with hs | ha
    · rw [hs] at hu; cases hu
    rcases hget b v hb with hs | hb
    · rw [hs] at hv; cases hv
    exact h.exclusive a b u v k ha hb hu hv
  · intro i row hi hic hf
    exact h.held i row hi hic fun hf' => hf ((hflight i).2 hf')
  · intro i row hi hic
    exact h.kept i row hi fun hlt => (hflight i).1 (hic hlt)
  · have := h.done
    simpa [List.countP_append, counts, computes] using this
  · have := h.lost
    simpa [List.countP_append, hasFailed, computes] using this

/-- What is left when every worker has returned: every index claimed, every piece of work done well
and counted, and its outcome in its row. -/
theorem Progress.complete (h : Progress p refs c q workers) (hne : workers ≠ [])
    (hret : ∀ w ∈ workers, w.phase = .returned) :
    c = refs.length ∧ q.done.value = refs.length ∧ ∀ row ∈ refs, p.outcome row = .ok (q.rows.getD row #[]) := by
  obtain ⟨w, hw⟩ := List.exists_mem_of_ne_nil workers hne
  -- a worker only returns when it has read a cursor past the end
  have hc : c = refs.length := le_antisymm h.le (h.returned w hw (hret w hw))
  have hzero : ∀ f : Worker α → Bool, (∀ v : Worker α, v.phase = .returned → f v = false) → workers.countP f = 0 := by
    intro f hf
    rw [List.countP_eq_zero]
    intro v hv; rw [hf v (hret v hv)]; nofun
  have hdone := h.done
  have hlost := h.lost
  rw [hzero counts (fun v hv => by simp [counts, hv]), hzero _ (fun v hv => by simp [computes, hv]), hc,
    List.take_length] at hdone
  rw [hzero hasFailed (fun v hv => by simp [hasFailed, hv]), hzero _ (fun v hv => by simp [computes, hv]), hc,
    List.take_length] at hlost
  have hall : ∀ row ∈ refs, p.succeeds row = true := by
    intro row hrow
    have := List.countP_eq_zero.1 hlost.symm row hrow
    simpa using this
  refine ⟨hc, ?_, fun row hrow => ?_⟩
  · rw [List.countP_eq_length.2 hall] at hdone
    omega
  · obtain ⟨i, hi⟩ := List.mem_iff_getElem?.1 hrow
    have hlt := (List.getElem?_eq_some_iff.1 hi).choose
    have hflight : ¬ InFlight workers i := by
      rintro ⟨a, v, ha, hv⟩
      rw [hret v (List.mem_of_getElem? ha)] at hv; cases hv
    rw [h.held i row hi (by omega) hflight]
    have hs := hall row hrow
    unfold succeeds at hs
    cases ho : p.outcome row with
    | ok samples => rw [settled_of_ok ho]
    | error cause => rw [ho] at hs; cases hs

/-- A failed worker would account for a piece of work that fails. -/
theorem Progress.not_failed (h : Progress p refs c q workers) (hall : ∀ row ∈ refs, p.succeeds row = true)
    {w : Worker α} (hw : w ∈ workers) (cause : ShapeFault) : w.phase ≠ .failed cause := by
  intro hp
  have hlost := h.lost
  have hgood : ((refs.take c).countP fun row => !p.succeeds row) = 0 :=
    List.countP_eq_zero.2 fun row hrow => by simp [hall row (List.mem_of_mem_take hrow)]
  rw [hgood, Nat.add_eq_zero_iff] at hlost
  exact List.countP_eq_zero.1 hlost.1 w hw (by simp [hasFailed, hp])

end Returned

/-! ## Workers one after another -/

section OneAfterAnother

variable {p q : Pool α} {refs : List Nat} {c : Nat} {workers : List (Worker α)}

theorem runWorkers_succ (count : Nat) (p : Pool α) :
    runWorkers (count + 1) p = ((runWorkers count p.runWorker.1).1,
      match p.runWorker.2.phase with | .failed cause => some cause | _ => (runWorkers count p.runWorker.1).2) := rfl

theorem Progress.runWorkers (hsize : checkSize [p.fftSize] = .ok ()) (hnodup : refs.Nodup)
    (hbound : ∀ row ∈ refs, row < p.rows.size) (count : Nat) (h : Progress p refs c q workers) :
    ∃ d last, Progress p refs (c + d) (Pool.runWorkers count q).1 (workers ++ last) ∧ last.length = count ∧
      ((Pool.runWorkers count q).2 = none → ∀ w ∈ last, w.phase = .returned) := by
  induction count generalizing c q workers with
  | zero => exact ⟨0, [], by rw [List.append_nil]; exact h, rfl, fun _ _ => nofun⟩
  | succ count ih =>
    obtain ⟨d, hrun, -⟩ := h.push.interleave hsize hnodup hbound (List.replicate q.stepBound workers.length)
    rw [alone_eq_interleave] at hrun
    obtain ⟨e, last, hlast, hlen, hret⟩ := ih hrun
    rw [runWorkers_succ]
    refine ⟨d + e, q.runWorker.2 :: last, ?_, by simp [hlen], ?_⟩
    · rw [← Nat.add_assoc]
      simpa [runWorker] using hlast
    · intro hnone w hw
      have hfirst : q.runWorker.2.phase = .returned := by
        refine returned_of_ended (runWorker_ended q) fun cause hp => ?_
        rw [hp] at hnone; cases hnone
      rcases List.mem_cons.1 hw with rfl | hw
      · exact hfirst
      · rw [hfirst] at hnone; exact hret hnone w hw

/-- Workers that run one after another do not fail where no work does. -/
theorem Progress.runWorkers_none (hsize : checkSize [p.fftSize] = .ok ()) (hnodup : refs.Nodup)
    (hbound : ∀ row ∈ refs, row < p.rows.size) (hall : ∀ row ∈ refs, p.succeeds row = true) (count : Nat)
    (h : Progress p refs c q workers) : (Pool.runWorkers count q).2 = none := by
  induction count generalizing c q workers with
  | zero => rfl
  | succ count ih =>
    obtain ⟨d, hrun, -⟩ := h.push.interleave hsize hnodup hbound (List.replicate q.stepBound workers.length)
    rw [alone_eq_interleave] at hrun
    have hfirst : q.runWorker.2.phase = .returned :=
      returned_of_ended (runWorker_ended q) (hrun.not_failed hall (List.mem_append_right _ List.mem_cons_self))
    rw [runWorkers_succ, hfirst]
    exact ih hrun

theorem runWorker_unstarted {cause : ShapeFault} (hsize : checkSize [p.fftSize] = .error cause) :
    p.runWorker.2.phase = .failed cause := by
  unfold runWorker stepBound
  rw [alone_succ rfl, step_starting_error hsize rfl, alone_of_ended rfl]

/-- Workers that run one after another without a fault leave the outcome of every piece of work, and
the other rows as they were. -/
theorem runWorkers_outcomes (hwork : p.work = refs.map some) (hnodup : refs.Nodup)
    (hbound : ∀ row ∈ refs, row < p.rows.size) (hcursor : p.cursor.value = 0) (hdone : p.done.value = 0)
    {count : Nat} (hcount : 1 ≤ count) (hnone : (Pool.runWorkers count p).2 = none) :
    (Pool.runWorkers count p).1.rows.size = p.rows.size ∧
      (∀ row ∈ refs, p.outcome row = .ok ((Pool.runWorkers count p).1.rows.getD row #[])) ∧
      ∀ row, row ∉ refs → (Pool.runWorkers count p).1.rows[row]? = p.rows[row]? := by
  have hsize : checkSize [p.fftSize] = .ok () := by
    cases hs : checkSize [p.fftSize] with
    | ok u => rfl
    | error cause =>
      obtain ⟨n, rfl⟩ : ∃ n, count = n + 1 := ⟨count - 1, by omega⟩
      rw [runWorkers_succ, runWorker_unstarted hs] at hnone
      cases hnone
  obtain ⟨d, last, h, hlen, hret⟩ := (Progress.start hwork hcursor hdone 0).runWorkers hsize hnodup hbound count
  rw [List.replicate_zero, List.nil_append] at h
  have hne : last ≠ [] := by rintro rfl; rw [List.length_nil] at hlen; omega
  exact ⟨h.size, (h.complete hne (hret hnone)).2.2, h.other⟩

/-- Where no work fails, workers that run one after another can only lack a scratch row. -/
theorem runWorkers_lack (hwork : p.work = refs.map some) (hnodup : refs.Nodup)
    (hbound : ∀ row ∈ refs, row < p.rows.size) (hcursor : p.cursor.value = 0) (hdone : p.done.value = 0)
    (hall : ∀ row ∈ refs, p.succeeds row = true) {count : Nat} {cause : ShapeFault}
    (h : (Pool.runWorkers count p).2 = some cause) : checkSize [p.fftSize] = .error cause := by
  cases hsize : checkSize [p.fftSize] with
  | ok u =>
    rw [(Progress.start hwork hcursor hdone 0).runWorkers_none hsize hnodup hbound hall count] at h
    cases h
  | error cause' =>
    cases count with
    | zero => cases h
    | succ count =>
      rw [runWorkers_succ, runWorker_unstarted hsize] at h
      cases h
      rfl

end OneAfterAnother

/-! ## Every schedule -/

section Schedules

variable {p : Pool α} {refs : List Nat}

/-- One worker alone returns where no work fails, with every outcome in its row. -/
theorem runWorker_outcomes (hsize : checkSize [p.fftSize] = .ok ()) (hwork : p.work = refs.map some)
    (hnodup : refs.Nodup) (hbound : ∀ row ∈ refs, row < p.rows.size) (hcursor : p.cursor.value = 0)
    (hdone : p.done.value = 0) (hall : ∀ row ∈ refs, p.succeeds row = true) :
    p.runWorker.2.phase = .returned ∧ p.runWorker.1.rows.size = p.rows.size ∧
      (∀ row ∈ refs, p.outcome row = .ok (p.runWorker.1.rows.getD row #[])) ∧
      ∀ row, row ∉ refs → p.runWorker.1.rows[row]? = p.rows[row]? := by
  obtain ⟨d, h, -⟩ := (Progress.start hwork hcursor hdone 1).interleave hsize hnodup hbound
    (List.replicate p.stepBound 0)
  have heq := alone_eq_interleave p.stepBound p [] {}
  rw [List.nil_append, List.length_nil] at heq
  rw [show List.replicate 1 ({} : Worker α) = [{}] from rfl, heq] at h
  have h : Progress p refs (0 + d) p.runWorker.1 [p.runWorker.2] := h
  have hret : p.runWorker.2.phase = .returned :=
    returned_of_ended (runWorker_ended p) (h.not_failed hall List.mem_cons_self)
  exact ⟨hret, h.size, (h.complete (by simp) (by simp [hret])).2.2, h.other⟩

/-- Along every schedule of any number of workers the claims are distinct and as many as the cursor
tells. When all workers have returned, the claims are the indices in order, cursor and count of
finished work stand at their number, every row of the work holds the magnitudes of its first content
taken once with a fresh scratch row, every other row is as it was, and one worker alone returns and
leaves the same rows. -/
theorem interleave_exactly_once (hwork : p.work = refs.map some) (hnodup : refs.Nodup)
    (hbound : ∀ row ∈ refs, row < p.rows.size) (hcursor : p.cursor.value = 0) (hdone : p.done.value = 0)
    {count : Nat} (hcount : 1 ≤ count) (schedule : List Nat) :
    let q := (p.interleave (List.replicate count {}) schedule).1
    let workers := (p.interleave (List.replicate count {}) schedule).2
    let claimed := (p.record taken (List.replicate count {}) schedule).map Prod.snd
    claimed.Nodup ∧ q.cursor.value = claimed.length ∧
      ((∀ w ∈ workers, w.phase = .returned) →
        claimed = (List.range refs.length).map Nat.cast ∧ q.cursor.value = refs.length ∧
        q.done.value = refs.length ∧ q.rows.size = p.rows.size ∧
        (∀ row ∈ refs, p.outcome row = .ok (q.rows.getD row #[])) ∧
        (∀ row, row ∉ refs → q.rows[row]? = p.rows[row]?) ∧
        p.runWorker.2.phase = .returned ∧ p.runWorker.1.rows = q.rows) := by
  intro q workers claimed
  cases hs : checkSize [p.fftSize] with
  | error cause =>
    obtain ⟨hq, hclaims, hphase⟩ := interleave_unstarted hs schedule
      (fun w hw => .inl (by rw [List.eq_of_mem_replicate hw]) : ∀ w ∈ List.replicate count ({} : Worker α), _)
    have hclaimed : claimed = [] := by simp only [claimed]; rw [hclaims]; rfl
    refine ⟨by rw [hclaimed]; exact List.nodup_nil, by rw [hclaimed]; simp only [q]; rw [hq, hcursor]; rfl, ?_⟩
    -- no worker has started, so none can have returned
    intro hret
    obtain ⟨w, hw⟩ := List.exists_mem_of_length_pos (l := workers) (by
      simp only [workers]; rw [interleave_length, List.length_replicate]; exact hcount)
    rcases hphase w hw with hp | hp <;> rw [hret w hw] at hp <;> cases hp
  | ok u =>
    obtain ⟨d, h, hclaims⟩ := (Progress.start hwork hcursor hdone count).interleave hs hnodup hbound schedule
    rw [Nat.zero_add] at h
    have hclaimed : claimed = (List.range d).map Nat.cast := by
      simp only [claimed]; rw [hclaims, List.range_eq_range']
    refine ⟨?_, ?_, fun hret => ?_⟩
    · rw [hclaimed]; exact List.nodup_range.map Nat.cast_injective
    · rw [hclaimed, List.length_map, List.length_range]; exact h.cursor
    · have hne : workers ≠ [] := by
        intro he
        have hlen : workers.length = count := (interleave_length schedule).trans List.length_replicate
        rw [he, List.length_nil] at hlen
        omega
      obtain ⟨hd, hcount', hrows⟩ := h.complete hne hret
      have hall : ∀ row ∈ refs, p.succeeds row = true := by
        intro row hrow
        unfold succeeds; rw [hrows row hrow]; rfl
      obtain ⟨hlone, hsize', hrows', hother'⟩ := runWorker_outcomes hs hwork hnodup hbound hcursor hdone hall
      refine ⟨by rw [hclaimed, hd], by rw [← hd]; exact h.cursor, hcount', h.size, hrows, h.other, hlone, ?_⟩
      refine rows_ext (hsize'.trans h.size.symm) (by rw [hsize']; exact hbound) (fun row hrow => ?_)
        fun row hrow => ?_
      · exact Except.ok.inj ((hrows' row hrow).symm.trans (hrows row hrow))
      · exact (hother' row hrow).trans (h.other row hrow).symm

end Schedules

/-- Two responses of two samples, the later one to be worked on first. -/
def twoResponses : Pool ℚ := { rows := #[#[1, 1], #[3, 1]], work := [some 1, some 0], fftSize := 2, points := 2 }

/-- A schedule of two workers in which both read the cursor before either claims, so that the second
loses its first exchange, and the second ends all its work before the first computes. -/
def contendedTurns : List Nat := [0, 1, 0, 1, 0, 1, 1, 1, 1, 1, 1, 0, 0, 0, 0]

theorem interleave_exactly_once_contended :
    twoResponses.record taken (List.replicate 2 {}) contendedTurns = [(0, 0), (1, 1)] ∧
      (∀ w ∈ (twoResponses.interleave (List.replicate 2 {}) contendedTurns).2, w.phase = .returned) ∧
      (twoResponses.interleave (List.replicate 2 {}) contendedTurns).1.done.value = 2 ∧
      (twoResponses.interleave (List.replicate 2 {}) contendedTurns).1.rows = #[#[2, 1e-9], #[4, 2]] ∧
      twoResponses.runWorker.1.rows = (twoResponses.interleave (List.replicate 2 {}) contendedTurns).1.rows := by
  have hret : ∀ w ∈ (twoResponses.interleave (List.replicate 2 {}) contendedTurns).2, w.phase = .returned := by
    decide +kernel
  have hwork : twoResponses.work = [1, 0].map some := rfl
  have hbound : ∀ row ∈ [1, 0], row < twoResponses.rows.size := by decide
  obtain ⟨-, -, h⟩ := interleave_exactly_once hwork (by decide) hbound rfl rfl (by decide : 1 ≤ 2) contendedTurns
  obtain ⟨-, -, hdone, -, -, -, -, halone⟩ := h hret
  exact ⟨by decide +kernel, hret, hdone, by decide +kernel, halone⟩

end HrirAtlas.Magnitude.Pool
