import HrirAtlas.Proofs.Magnitude.Moves

/-
The end of the claim loop. The index that a worker tries next, `nextIndex`, never falls, whatever the
others do, and rises past every index that it tries: on a won exchange the cursor itself moves on, and
an exchange is only lost to a cursor that has already moved past the index. So a worker tries each
index at most once, the steps that it can still take are bounded by a `budget` that its own steps
lower and the steps of others do not raise, and a pool takes a bounded number of steps along every
schedule.
-/

namespace HrirAtlas.Magnitude.Pool

variable {α : Type}

/-! ## Sums and increasing lists -/

/-- A sum falls when one entry does and none of the others rises. -/
theorem sum_map_set_lt {β : Type} {f g : β → Nat} {l : List β} {i : Nat} {a b : β} (h : l[i]? = some a)
    (hlt : g b < f a) (hle : ∀ x ∈ l, g x ≤ f x) : ((l.set i b).map g).sum < (l.map f).sum := by
  induction l generalizing i with
  | nil => cases h
  | cons x l ih =>
    have hx := hle x List.mem_cons_self
    have hl : ∀ y ∈ l, g y ≤ f y := fun y hy => hle y (List.mem_cons_of_mem _ hy)
    cases i with
    | zero =>
      cases h
      have hrest := List.sum_le_sum hl
      rw [List.set_cons_zero, List.map_cons, List.map_cons, List.sum_cons, List.sum_cons]
      omega
    | succ i =>
      have hrest := ih (i := i) h hl
      rw [List.set_cons_succ, List.map_cons, List.map_cons, List.sum_cons, List.sum_cons]
      omega

/-- A list that increases between two bounds is no longer than they are apart. -/
theorem length_le_of_increasing {l : List Int} {a b : Int} (h : l.Pairwise (· < ·))
    (hbounds : ∀ k ∈ l, a ≤ k ∧ k < b) : l.length ≤ (b - a).toNat := by
  have hnodup : l.Nodup := h.imp fun hlt => hlt.ne
  have hsub : l.toFinset ⊆ Finset.Ico a b := fun k hk =>
    Finset.mem_Ico.2 (hbounds k (List.mem_toFinset.1 hk))
  calc l.length = l.toFinset.card := (List.toFinset_card_of_nodup hnodup).symm
    _ ≤ (Finset.Ico a b).card := Finset.card_le_card hsub
    _ = (b - a).toNat := Int.card_Ico a b

/-! ## Attempts -/

/-- The index that a step compares the cursor with, if it is a compare-exchange. -/
def tried (p : Pool α) (w : Worker α) : Option Int :=
  match w.phase with
  | .claiming index => if p.work.length ≤ index then none else some index
  | _ => none

/-- The least index that a worker can still try. -/
def nextIndex (p : Pool α) (w : Worker α) : Int :=
  match w.phase with
  | .claiming index => index
  | _ => p.cursor.value

/-- How many indices a worker can still try. -/
def indicesLeft (p : Pool α) (w : Worker α) : Nat := ((p.work.length : Int) - p.nextIndex w).toNat

/-- The steps that a worker can still take, whatever the others do. -/
def budget (p : Pool α) (w : Worker α) : Nat :=
  match w.phase with
  | .computing _ => 4 * p.indicesLeft w + 4
  | .starting | .counting => 4 * p.indicesLeft w + 3
  | .reading => 4 * p.indicesLeft w + 2
  | .claiming _ => 4 * p.indicesLeft w + 1
  | .returned | .failed _ => 0

/-- A step of a worker that has not ended. -/
def busy (_ : Pool α) (w : Worker α) : Option Unit := if w.phase.ended then none else some ()

section Others

variable {p q : Pool α} {w : Worker α}

/-- What other workers do to the cursor does not bring an index back. -/
theorem nextIndex_mono (hcursor : p.cursor.value ≤ q.cursor.value) (w : Worker α) : p.nextIndex w ≤ q.nextIndex w := by
  unfold nextIndex
  split
  · exact le_rfl
  · exact hcursor

theorem budget_mono (hcursor : p.cursor.value ≤ q.cursor.value) (hwork : q.work = p.work) (w : Worker α) :
    q.budget w ≤ p.budget w := by
  have hleft : q.indicesLeft w ≤ p.indicesLeft w := by
    have hnext := nextIndex_mono hcursor w
    unfold indicesLeft
    rw [hwork]
    omega
  unfold budget
  split <;> omega

/-- Only a worker that has ended has no step left. -/
theorem budget_eq_zero_iff : p.budget w = 0 ↔ w.phase.ended = true := by
  unfold budget
  cases hw : w.phase <;> simp [Phase.ended]

end Others

variable [Signal α]

/-! ## One step -/

/-- A step leaves the work, moves the cursor forward if at all, and takes the worker past the index that
it tries. -/
structure Advances (p : Pool α) (w : Worker α) : Prop where
  work : (p.step w).1.work = p.work
  cursor : p.cursor.value ≤ (p.step w).1.cursor.value
  next : p.nextIndex w ≤ (p.step w).1.nextIndex (p.step w).2
  behind : (p.step w).1.nextIndex (p.step w).2 ≤ (p.step w).1.cursor.value
  tried : ∀ k, p.tried w = some k →
    p.nextIndex w = k ∧ k < p.work.length ∧ k < (p.step w).1.nextIndex (p.step w).2
  budget : w.phase.ended = false → (p.step w).1.budget (p.step w).2 < p.budget w

theorem advances {p : Pool α} {w : Worker α} (h : p.nextIndex w ≤ p.cursor.value) : Advances p w := by
  have hmoves := moves_step p w
  generalize hstep : p.step w = after at hmoves
  cases hmoves with
  | start hw _ | lack hw _ | read hw | count hw =>
    constructor <;> simp [hstep, nextIndex, tried, budget, indicesLeft, hw]
  | finish hw _ | fault hw _ =>
    constructor <;> simp [hstep, nextIndex, tried, budget, indicesLeft, hw]
  | @past k hw hk =>
    have hcursor : k ≤ p.cursor.value := by simpa [nextIndex, hw] using h
    constructor <;> simp [hstep, nextIndex, tried, budget, hw, hk, hcursor]
  | won hw hk hc =>
    have hleft : (p.work.length : Int) - p.cursor.value = (p.work.length - (p.cursor.value + 1)) + 1 := by omega
    constructor <;> simp [hstep, nextIndex, tried, budget, indicesLeft, hw, ← hc]
    all_goals omega
  | @lost k hw hk hc =>
    -- the exchange is lost to a cursor that has moved past the index
    have hcursor : k < p.cursor.value := lt_of_le_of_ne (by simpa [nextIndex, hw] using h) (Ne.symm hc)
    constructor <;> simp [hstep, nextIndex, tried, budget, indicesLeft, hw]
    all_goals omega
  | rest hw =>
    have hnone : p.tried w = none := by
      unfold tried
      split
      · rename_i k hk; rw [hk] at hw; cases hw
      · rfl
    constructor
    case next => rw [hstep]
    case behind => rw [hstep]; exact h
    case tried => intro k hk; rw [hnone] at hk; cases hk
    case budget => intro he; rw [hw] at he; cases he
    all_goals simp [hstep]

/-! ## A whole schedule -/

section Run

variable {q : Pool α} {workers : List (Worker α)} {turn : Nat} {w : Worker α}

/-- No worker tries an index that the cursor has not reached. -/
def Behind (q : Pool α) (workers : List (Worker α)) : Prop := ∀ w ∈ workers, q.nextIndex w ≤ q.cursor.value

theorem Behind.step (h : Behind q workers) (hw : workers[turn]? = some w) :
    Behind (q.step w).1 (workers.set turn (q.step w).2) := by
  have hadvances := advances (h w (List.mem_of_getElem? hw))
  intro v hv
  rcases List.mem_or_eq_of_mem_set hv with hv | rfl
  · have hbehind := h v hv
    have hcursor := hadvances.cursor
    unfold nextIndex at hbehind ⊢
    split at hbehind <;> omega
  · exact hadvances.behind

/-- The indices that a worker tries increase, from its next one on, and lie within the work. -/
theorem attempts_increase (schedule : List Nat) (h : Behind q workers) (hw : workers[turn]? = some w) :
    (ofWorker turn (q.record tried workers schedule)).Pairwise (· < ·) ∧
      ∀ k ∈ ofWorker turn (q.record tried workers schedule), q.nextIndex w ≤ k ∧ k < q.work.length := by
  induction schedule generalizing q workers w with
  | nil => exact ⟨List.Pairwise.nil, nofun⟩
  | cons other rest ih =>
    cases hv : workers[other]? with
    | none => rw [record_cons_none rest hv]; exact ih h hw
    | some v =>
      have hadvances := advances (h v (List.mem_of_getElem? hv))
      rw [record_cons_some rest hv, ofWorker_append]
      by_cases hother : other = turn
      · subst hother
        obtain rfl : v = w := Option.some.inj (hv.symm.trans hw)
        obtain ⟨hincrease, hbounds⟩ := ih (h.step hv) (set_getElem?_self hv)
        rw [hadvances.work] at hbounds
        rw [ofWorker_own]
        cases htried : q.tried v with
        | none =>
          refine ⟨hincrease, fun k hk => ?_⟩
          exact ⟨hadvances.next.trans (hbounds k hk).1, (hbounds k hk).2⟩
        | some k =>
          obtain ⟨hnext, hlt, hpast⟩ := hadvances.tried k htried
          refine ⟨List.pairwise_cons.2 ⟨fun j hj => hpast.trans_le (hbounds j hj).1, hincrease⟩, fun j hj => ?_⟩
          rcases List.mem_cons.1 hj with rfl | hj
          · exact ⟨hnext.le, hlt⟩
          · exact ⟨hadvances.next.trans (hbounds j hj).1, (hbounds j hj).2⟩
      · have hw' : (workers.set other (q.step v).2)[turn]? = some w := by rwa [List.getElem?_set_ne hother]
        obtain ⟨hincrease, hbounds⟩ := ih (h.step hv) hw'
        rw [hadvances.work] at hbounds
        rw [ofWorker_other hother, List.nil_append]
        exact ⟨hincrease, fun k hk =>
          ⟨(nextIndex_mono hadvances.cursor w).trans (hbounds k hk).1, (hbounds k hk).2⟩⟩

/-- Every step of a worker that has not ended is paid from the budgets. -/
theorem busy_le_budgets (schedule : List Nat) (h : Behind q workers) :
    (q.record busy workers schedule).length ≤ (workers.map q.budget).sum := by
  induction schedule generalizing q workers with
  | nil => exact Nat.zero_le _
  | cons turn rest ih =>
    cases hw : workers[turn]? with
    | none => rw [record_cons_none rest hw]; exact ih h
    | some w =>
      have hadvances := advances (h w (List.mem_of_getElem? hw))
      have hrest := ih (h.step hw)
      rw [record_cons_some rest hw, List.length_append]
      cases hended : w.phase.ended with
      | true =>
        rw [step_ended hended, set_same hw] at hrest
        simpa [busy, hended, step_ended hended, set_same hw] using hrest
      | false =>
        have hpaid := sum_map_set_lt (f := q.budget) hw (hadvances.budget hended)
          fun v _ => budget_mono hadvances.cursor hadvances.work v
        simp only [busy, hended, Bool.false_eq_true, if_false, Option.map_some, Option.toList_some,
          List.length_singleton]
        omega

/-- A worker with as many turns as its budget has ended after them. -/
theorem ended_of_turns (schedule : List Nat) (h : Behind q workers) (hw : workers[turn]? = some w)
    (hturns : q.budget w ≤ schedule.count turn) {w' : Worker α}
    (hw' : (q.interleave workers schedule).2[turn]? = some w') : w'.phase.ended = true := by
  induction schedule generalizing q workers w with
  | nil =>
    obtain rfl : w = w' := Option.some.inj (hw.symm.trans hw')
    exact budget_eq_zero_iff.1 (Nat.le_zero.1 hturns)
  | cons other rest ih =>
    rw [List.count_cons] at hturns
    cases hv : workers[other]? with
    | none =>
      have hother : other ≠ turn := by rintro rfl; rw [hv] at hw; cases hw
      rw [interleave_cons_none rest hv] at hw'
      exact ih h hw (by simpa [hother] using hturns) hw'
    | some v =>
      have hadvances := advances (h v (List.mem_of_getElem? hv))
      rw [interleave_cons_some rest hv] at hw'
      by_cases hother : other = turn
      · subst hother
        obtain rfl : v = w := Option.some.inj (hv.symm.trans hw)
        refine ih (h.step hv) (set_getElem?_self hv) ?_ hw'
        rw [beq_self_eq_true, if_pos rfl] at hturns
        cases hended : v.phase.ended with
        | true =>
          rw [step_ended hended, budget_eq_zero_iff.2 hended]
          exact Nat.zero_le _
        | false =>
          have hpaid := hadvances.budget hended
          omega
      · refine ih (h.step hv) (by rwa [List.getElem?_set_ne hother]) ?_ hw'
        have hmono := budget_mono hadvances.cursor hadvances.work w
        rw [if_neg (by simpa using hother)] at hturns
        omega

end Run

/-- Along every schedule of any number of workers, from any place of the cursor, the indices that a
worker tries to claim, in vain or not, increase and lie between the cursor at the start and the end of
the work, so that it makes no more attempts than there are indices between them. All workers together
take a bounded number of steps, and a worker that is given its share of turns has ended. -/
theorem interleave_bounded (p : Pool α) (count : Nat) (schedule : List Nat) :
    let left := ((p.work.length : Int) - p.cursor.value).toNat
    let attempts := fun turn => ofWorker turn (p.record tried (List.replicate count {}) schedule)
    (∀ turn < count, (attempts turn).Pairwise (· < ·) ∧
      (∀ k ∈ attempts turn, p.cursor.value ≤ k ∧ k < p.work.length) ∧ (attempts turn).length ≤ left) ∧
      (p.record busy (List.replicate count {}) schedule).length ≤ count * (4 * left + 3) ∧
      ∀ turn < count, 4 * left + 3 ≤ schedule.count turn →
        ∃ w, (p.interleave (List.replicate count {}) schedule).2[turn]? = some w ∧ w.phase.ended = true := by
  intro left attempts
  have hbehind : Behind p (List.replicate count ({} : Worker α)) := by
    intro w hw
    rw [List.eq_of_mem_replicate hw]
    exact le_rfl
  have hstart : ∀ turn < count, (List.replicate count ({} : Worker α))[turn]? = some {} := fun turn hturn =>
    List.getElem?_replicate_of_lt hturn
  refine ⟨fun turn hturn => ?_, ?_, fun turn hturn hturns => ?_⟩
  · obtain ⟨hincrease, hbounds⟩ := attempts_increase schedule hbehind (hstart turn hturn)
    exact ⟨hincrease, hbounds, length_le_of_increasing hincrease hbounds⟩
  · have hsum := busy_le_budgets schedule hbehind
    rwa [List.map_replicate, List.sum_replicate, smul_eq_mul] at hsum
  · have hlength : turn < (p.interleave (List.replicate count {}) schedule).2.length := by
      rwa [interleave_length, List.length_replicate]
    have hw := List.getElem?_eq_getElem hlength
    exact ⟨_, hw, ended_of_turns schedule hbehind (hstart turn hturn) hturns hw⟩

end HrirAtlas.Magnitude.Pool
