import HrirAtlas.Proofs.Magnitude.Scratch

/-
The pool of workers under every schedule. Workers share a cursor and a list of rows; a schedule
lets one worker take one atomic step at a time, in any order. Whatever the schedule, the claims
along it are the indices `0, 1, 2, …` in that order, each by one worker, and the rows are those of a
pool in which every claimed index that no worker is computing has been worked on once, with a fresh
scratch row. So when all workers have returned without a fault the rows do not depend on the number
of workers or on the schedule.

The invariant is `Progress`, indexed by the number of claims so far; `Progress.step` is its one
step, with a case for each phase, and `Progress.interleave` its induction along a schedule.
-/

namespace HrirAtlas.Magnitude

variable {α : Type}

/-! ## Counting workers and rows -/

/-- Replacing one worker moves a count by what the two differ. -/
theorem countP_set_add {β : Type} (f : β → Bool) {l : List β} {i : Nat} {a : β} (b : β) (h : l[i]? = some a) :
    (l.set i b).countP f + (f a).toNat = l.countP f + (f b).toNat := by
  induction l generalizing i with
  | nil => cases h
  | cons x l ih =>
    cases i with
    | zero =>
      simp only [List.getElem?_cons_zero, Option.some.injEq] at h
      subst h
      rw [List.set_cons_zero, List.countP_cons, List.countP_cons]
      cases f x <;> cases f b <;> simp
    | succ i =>
      simp only [List.getElem?_cons_succ] at h
      rw [List.set_cons_succ, List.countP_cons, List.countP_cons]
      have := ih h
      omega

theorem countP_take_succ {refs : List Nat} {c row : Nat} (test : Nat → Bool) (h : refs[c]? = some row) :
    (refs.take (c + 1)).countP test = (refs.take c).countP test + (test row).toNat := by
  rw [List.take_add_one, h, List.countP_append]
  cases ht : test row <;> simp [ht]

theorem setIfInBounds_getD {β : Type} (rows : Array β) (place : Nat) (default : β) :
    rows.setIfInBounds place (rows.getD place default) = rows := by
  refine Array.ext (by simp) fun i h _ => ?_
  rw [Array.getElem_setIfInBounds]
  split
  · rename_i e; subst e; simp only [Array.size_setIfInBounds] at h; simp [Array.getD, h]
  · rfl

/-- Some worker is computing the work at an index. -/
def InFlight (workers : List (Worker α)) (i : Nat) : Prop :=
  ∃ (turn : Nat) (w : Worker α), workers[turn]? = some w ∧ w.phase = .computing i

/-- No index is in the hands of two workers. -/
def Exclusive (workers : List (Worker α)) : Prop :=
  ∀ (a b : Nat) (v w : Worker α) (k : Int), workers[a]? = some v → workers[b]? = some w → v.phase = .computing k →
    w.phase = .computing k → a = b

section Flight

variable {workers : List (Worker α)} {turn : Nat} {w w' : Worker α}

theorem set_getElem?_inv {a : Nat} {v : Worker α} (h : (workers.set turn w')[a]? = some v) :
    (a = turn ∧ v = w') ∨ (a ≠ turn ∧ workers[a]? = some v) := by
  rw [List.getElem?_set] at h
  split at h
  · rename_i ha
    split at h
    · cases h; exact .inl ⟨ha.symm, rfl⟩
    · cases h
  · rename_i ha; exact .inr ⟨fun e => ha e.symm, h⟩

theorem set_getElem?_self (hw : workers[turn]? = some w) : (workers.set turn w')[turn]? = some w' := by
  rw [List.getElem?_set_self (List.getElem?_eq_some_iff.1 hw).choose]

theorem set_same (hw : workers[turn]? = some w) : workers.set turn w = workers := by
  obtain ⟨hlt, rfl⟩ := List.getElem?_eq_some_iff.1 hw
  exact List.set_getElem_self hlt

theorem forall_mem_set {P : Worker α → Prop} (h : ∀ v ∈ workers, P v) (hw : P w') :
    ∀ v ∈ workers.set turn w', P v := by
  intro v hv
  rcases List.mem_or_eq_of_mem_set hv with hv | rfl
  · exact h v hv
  · exact hw

/-- A step between phases that compute nothing leaves the indices in flight as they are. -/
theorem inFlight_set_same (hw : workers[turn]? = some w) (h : ∀ k, w.phase ≠ .computing k)
    (h' : ∀ k, w'.phase ≠ .computing k) (i : Nat) : InFlight (workers.set turn w') i ↔ InFlight workers i := by
  constructor
  · rintro ⟨a, v, ha, hv⟩
    rcases set_getElem?_inv ha with ⟨-, rfl⟩ | ⟨-, ha⟩
    · exact absurd hv (h' _)
    · exact ⟨a, v, ha, hv⟩
  · rintro ⟨a, v, ha, hv⟩
    by_cases hat : a = turn
    · subst hat; rw [hw] at ha; cases ha; exact absurd hv (h _)
    · exact ⟨a, v, by rw [List.getElem?_set_ne (Ne.symm hat)]; exact ha, hv⟩

theorem inFlight_set_gain (w' : Worker α) (hw : workers[turn]? = some w) (h : ∀ k, w.phase ≠ .computing k) {j : Nat}
    (h' : w'.phase = .computing j) (i : Nat) :
    InFlight (workers.set turn w') i ↔ i = j ∨ InFlight workers i := by
  constructor
  · rintro ⟨a, v, ha, hv⟩
    rcases set_getElem?_inv ha with ⟨-, rfl⟩ | ⟨-, ha⟩
    · rw [h'] at hv; cases hv; exact .inl rfl
    · exact .inr ⟨a, v, ha, hv⟩
  · rintro (rfl | ⟨a, v, ha, hv⟩)
    · exact ⟨turn, w', set_getElem?_self hw, h'⟩
    · by_cases hat : a = turn
      · subst hat; rw [hw] at ha; cases ha; exact absurd hv (h _)
      · exact ⟨a, v, by rw [List.getElem?_set_ne (Ne.symm hat)]; exact ha, hv⟩

theorem inFlight_set_drop (hx : Exclusive workers) (hw : workers[turn]? = some w) {j : Nat}
    (h : w.phase = .computing j) (h' : ∀ k, w'.phase ≠ .computing k) (i : Nat) :
    InFlight (workers.set turn w') i ↔ i ≠ j ∧ InFlight workers i := by
  constructor
  · rintro ⟨a, v, ha, hv⟩
    rcases set_getElem?_inv ha with ⟨-, rfl⟩ | ⟨hat, ha⟩
    · exact absurd hv (h' _)
    · refine ⟨?_, a, v, ha, hv⟩
      rintro rfl
      exact hat (hx _ _ _ _ _ ha hw hv h)
  · rintro ⟨hij, a, v, ha, hv⟩
    by_cases hat : a = turn
    · subst hat; rw [hw] at ha; cases ha
      rw [h] at hv; cases hv; exact absurd rfl hij
    · exact ⟨a, v, by rw [List.getElem?_set_ne (Ne.symm hat)]; exact ha, hv⟩

theorem Exclusive.set (hx : Exclusive workers)
    (h : ∀ k, w'.phase = .computing k → ∀ (a : Nat) (v : Worker α), workers[a]? = some v → v.phase ≠ .computing k) :
    Exclusive (workers.set turn w') := by
  intro a b u v k ha hb hu hv
  rcases set_getElem?_inv ha with ⟨rfl, hu'⟩ | ⟨-, ha'⟩ <;> rcases set_getElem?_inv hb with ⟨rfl, hv'⟩ | ⟨-, hb'⟩
  · rfl
  · exact absurd hv (h k (hu' ▸ hu) b v hb')
  · exact absurd hu (h k (hv' ▸ hv) a u ha')
  · exact hx a b u v k ha' hb' hu hv

end Flight

/-! ## Kinds of workers -/

namespace Pool

/-- Whether a worker is computing work that a test picks. -/
def computes (refs : List Nat) (test : Nat → Bool) (w : Worker α) : Bool :=
  match w.phase with
  | .computing k => (refs[k.toNat]?).any test
  | _ => false

def counts (w : Worker α) : Bool :=
  match w.phase with
  | .counting => true
  | _ => false

def hasFailed (w : Worker α) : Bool :=
  match w.phase with
  | .failed _ => true
  | _ => false

theorem computes_of_ne {refs : List Nat} {test : Nat → Bool} {w : Worker α} (h : ∀ k, w.phase ≠ .computing k) :
    computes refs test w = false := by
  unfold computes
  split
  · rename_i k hk; exact absurd hk (h k)
  · rfl

theorem computes_of_eq {refs : List Nat} {test : Nat → Bool} {w : Worker α} {i row : Nat}
    (h : w.phase = .computing i) (hi : refs[i]? = some row) : computes refs test w = test row := by
  unfold computes; rw [h]; simp [hi]

end Pool

variable [Signal α]

/-! ## Claims -/

namespace Pool

/-- The index that a step of a worker takes for itself, if it takes one. -/
def taken (p : Pool α) (w : Worker α) : Option Int :=
  match w.phase, (p.step w).2.phase with
  | .claiming _, .computing index => some index
  | _, _ => none

/-- What is seen of the steps along a schedule, in order, each with the worker that takes it. What is `taken`
along it are the claims. -/
def record {β : Type} (see : Pool α → Worker α → Option β) (p : Pool α) (workers : List (Worker α)) :
    List Nat → List (Nat × β)
  | [] => []
  | turn :: rest =>
    match workers[turn]? with
    | none => record see p workers rest
    | some w => ((see p w).map (turn, ·)).toList ++ record see (p.step w).1 (workers.set turn (p.step w).2) rest

/-! ## The step, phase by phase -/

theorem step_starting {p : Pool α} {w : Worker α} (h : checkSize [p.fftSize] = .ok ())
    (hw : w.phase = .starting) : p.step w = (p, ⟨.reading, p.freshScratch⟩) := by
  unfold step; rw [hw]; simp only [h]; rfl

theorem step_starting_error {p : Pool α} {w : Worker α} {cause : ShapeFault}
    (h : checkSize [p.fftSize] = .error cause) (hw : w.phase = .starting) :
    p.step w = (p, { w with phase := .failed cause }) := by
  unfold step; rw [hw]; simp only [h]

theorem step_reading {p : Pool α} {w : Worker α} (hw : w.phase = .reading) :
    p.step w = (p, { w with phase := .claiming p.cursor.value }) := by
  unfold step; rw [hw]; rfl

theorem step_claiming_past {p : Pool α} {w : Worker α} {k : Int} (hw : w.phase = .claiming k)
    (h : p.work.length ≤ k) : p.step w = (p, { w with phase := .returned }) := by
  unfold step; rw [hw]; exact if_pos h

theorem step_claiming_won {p : Pool α} {w : Worker α} {k : Int} (hw : w.phase = .claiming k)
    (h : ¬ p.work.length ≤ k) (hc : p.cursor.value = k) :
    p.step w = ({ p with cursor := ⟨k + 1⟩ }, { w with phase := .computing k }) := by
  unfold step; rw [hw]; simp only [if_neg h, Counter.compareExchange, if_pos hc]; rfl

theorem step_claiming_lost {p : Pool α} {w : Worker α} {k : Int} (hw : w.phase = .claiming k)
    (h : ¬ p.work.length ≤ k) (hc : p.cursor.value ≠ k) :
    p.step w = (p, { w with phase := .claiming p.cursor.value }) := by
  unfold step; rw [hw]; simp only [if_neg h, Counter.compareExchange, if_neg hc]; rfl

theorem step_counting {p : Pool α} {w : Worker α} (hw : w.phase = .counting) :
    p.step w = ({ p with done := ⟨p.done.value + 1⟩ }, { w with phase := .reading }) := by
  unfold step; rw [hw]; rfl

theorem step_ended {p : Pool α} {w : Worker α} (hw : w.phase.ended = true) : p.step w = (p, w) := by
  unfold step
  cases h : w.phase <;> rw [h] at hw <;> first | rfl | cases hw

theorem step_computing {p : Pool α} {w : Worker α} {i row : Nat} (hw : w.phase = .computing i)
    (hi : p.work[i]? = some (some row)) :
    p.step w =
      match replaceHead p.points w.scratch (p.rows.getD row #[]) with
      | (scratch, .ok samples) => ({ p with rows := p.rows.setIfInBounds row samples }, ⟨.counting, scratch⟩)
      | (scratch, .error cause) => (p, ⟨.failed cause, scratch⟩) := by
  obtain ⟨hlt, -⟩ := List.getElem?_eq_some_iff.1 hi
  have hwrap : wrapIndex? p.work.length (i : Int) = some i := by
    unfold wrapIndex?; rw [if_pos (by omega), if_pos (by omega)]; rfl
  unfold step; rw [hw]
  simp only [compute, hwrap, Option.bind_some, hi]
  rcases replaceHead p.points w.scratch (p.rows.getD row #[]) with ⟨scratch, _ | _⟩ <;> rfl

theorem taken_eq_none {p : Pool α} {w : Worker α} (h : ∀ k, (p.step w).2.phase ≠ .computing k) :
    p.taken w = none := by
  unfold taken
  split
  · rename_i k _ hk; exact absurd hk (h k)
  · rfl

theorem taken_eq_some {p : Pool α} {w : Worker α} {k j : Int} (hw : w.phase = .claiming k)
    (h : (p.step w).2.phase = .computing j) : p.taken w = some j := by
  unfold taken; rw [hw, h]

end Pool

/-! ## The invariant -/

namespace Pool

/-- Whether the work on a row ends well. -/
def succeeds (p : Pool α) (row : Nat) : Bool := (p.outcome row).isOk

/-- The pool `q` with its workers, reached from the pool `p` after `c` claims. A claimed row holds
its outcome unless its work is in flight; the finished work, the work being counted and the work in
flight make up the claims, for work that ends well and for work that fails apart. -/
structure Progress (p : Pool α) (refs : List Nat) (c : Nat) (q : Pool α) (workers : List (Worker α)) : Prop where
  work : q.work = refs.map some
  fftSize : q.fftSize = p.fftSize
  points : q.points = p.points
  cursor : q.cursor.value = c
  le : c ≤ refs.length
  claiming : ∀ w ∈ workers, ∀ k, w.phase = .claiming k → k ≤ c
  computing : ∀ w ∈ workers, ∀ k, w.phase = .computing k → ∃ i : Nat, k = i ∧ i < c
  returned : ∀ w ∈ workers, w.phase = .returned → refs.length ≤ c
  scratch : ∀ w ∈ workers, w.phase ≠ .starting → w.scratch.size = p.freshScratch.size
  exclusive : Exclusive workers
  size : q.rows.size = p.rows.size
  held : ∀ i row, refs[i]? = some row → i < c → ¬ InFlight workers i → q.rows.getD row #[] = p.settled row
  kept : ∀ i row, refs[i]? = some row → (i < c → InFlight workers i) → q.rows.getD row #[] = p.rows.getD row #[]
  other : ∀ row, row ∉ refs → q.rows[row]? = p.rows[row]?
  done : q.done.value + workers.countP counts + workers.countP (computes refs p.succeeds) =
    ((refs.take c).countP p.succeeds : Int)
  lost : workers.countP hasFailed + workers.countP (computes refs fun row => !p.succeeds row) =
    (refs.take c).countP fun row => !p.succeeds row

/-- Before any claim. -/
theorem Progress.start {p : Pool α} {refs : List Nat} (hwork : p.work = refs.map some) (hc : p.cursor.value = 0)
    (hd : p.done.value = 0) (count : Nat) : Progress p refs 0 p (List.replicate count {}) where
  work := hwork
  fftSize := rfl
  points := rfl
  cursor := hc
  le := Nat.zero_le _
  claiming w hw k hk := by rw [List.eq_of_mem_replicate hw] at hk; cases hk
  computing w hw k hk := by rw [List.eq_of_mem_replicate hw] at hk; cases hk
  returned w hw hr := by rw [List.eq_of_mem_replicate hw] at hr; cases hr
  scratch w hw h := by rw [List.eq_of_mem_replicate hw] at h; exact absurd rfl h
  exclusive a b v w k ha hb hv hw := by
    rw [List.eq_of_mem_replicate (List.mem_of_getElem? ha)] at hv; cases hv
  size := rfl
  held i row _ h := by omega
  kept i row _ _ := rfl
  other row _ := rfl
  done := by
    rw [hd, List.countP_replicate, List.countP_replicate]
    simp [counts, computes]
  lost := by
    rw [List.countP_replicate, List.countP_replicate]
    simp [hasFailed, computes]

section Step

variable {p q : Pool α} {refs : List Nat} {c turn : Nat} {workers : List (Worker α)} {w w' : Worker α}

/-- A step between phases that compute nothing: rows and claims stay. -/
theorem Progress.quiet (h : Progress p refs c q workers) (hw : workers[turn]? = some w)
    (hn : ∀ k, w.phase ≠ .computing k) (hn' : ∀ k, w'.phase ≠ .computing k)
    (hclaim : ∀ k, w'.phase = .claiming k → k ≤ c) (hret : w'.phase = .returned → refs.length ≤ c)
    (hscratch : w'.scratch.size = p.freshScratch.size) (n : Int)
    (hdone : n + (counts w').toNat = q.done.value + (counts w).toNat) (hfail : hasFailed w' = hasFailed w) :
    Progress p refs c { q with done := ⟨n⟩ } (workers.set turn w') := by
  have hflight := inFlight_set_same hw hn hn'
  refine { h with claiming := ?_, computing := ?_, returned := ?_, scratch := ?_, exclusive := ?_, held := ?_,
                  kept := ?_, done := ?_, lost := ?_ }
  · exact forall_mem_set h.claiming hclaim
  · exact forall_mem_set h.computing fun k hk => absurd hk (hn' k)
  · exact forall_mem_set h.returned hret
  · exact forall_mem_set h.scratch fun _ => hscratch
  · exact h.exclusive.set fun k hk => absurd hk (hn' k)
  · intro i row hi hc hf
    exact h.held i row hi hc (fun hf' => hf ((hflight i).2 hf'))
  · intro i row hi hc
    exact h.kept i row hi (fun hic => (hflight i).1 (hc hic))
  · have h1 := countP_set_add counts w' hw
    have h2 := countP_set_add (computes refs p.succeeds) w' hw
    rw [computes_of_ne hn, computes_of_ne hn'] at h2
    have := h.done
    simp only at *
    omega
  · have h1 := countP_set_add hasFailed w' hw
    have h2 := countP_set_add (computes refs fun row => !p.succeeds row) w' hw
    rw [computes_of_ne hn, computes_of_ne hn'] at h2
    rw [hfail] at h1
    have := h.lost
    omega

/-- A worker takes the next index: its row is in flight from now on. -/
theorem Progress.claim (h : Progress p refs c q workers) (hw : workers[turn]? = some w)
    (hk : w.phase = .claiming c) (hc : c < refs.length) :
    Progress p refs (c + 1) { q with cursor := ⟨(c : Int) + 1⟩ }
      (workers.set turn { w with phase := .computing c }) := by
  have hn : ∀ k, w.phase ≠ .computing k := fun k hk' => by rw [hk] at hk'; cases hk'
  have hflight := inFlight_set_gain { w with phase := .computing c } hw hn rfl
  obtain ⟨row, hrow⟩ : ∃ row, refs[c]? = some row := ⟨refs[c], List.getElem?_eq_getElem hc⟩
  refine { h with cursor := by simp, le := hc, claiming := ?_, computing := ?_, returned := ?_, scratch := ?_,
                  exclusive := ?_, held := ?_, kept := ?_, done := ?_, lost := ?_ }
  · refine forall_mem_set (fun v hv k hk' => ?_) nofun
    have := h.claiming v hv k hk'
    omega
  · refine forall_mem_set (fun v hv k hk' => ?_) fun k hk' => ?_
    · obtain ⟨i, hi, hic⟩ := h.computing v hv k hk'
      exact ⟨i, hi, by omega⟩
    · cases hk'
      exact ⟨c, rfl, by omega⟩
  · refine forall_mem_set (fun v hv hr => ?_) nofun
    have := h.returned v hv hr
    omega
  · exact forall_mem_set h.scratch fun _ => h.scratch w (List.mem_of_getElem? hw) (by rw [hk]; nofun)
  · refine h.exclusive.set fun k hk' a v ha hv => ?_
    cases hk'
    obtain ⟨i, hi, hic⟩ := h.computing v (List.mem_of_getElem? ha) _ hv
    omega
  · intro i row hi hic hf
    have hne : i ≠ c := fun e => hf ((hflight i).2 (.inl e))
    exact h.held i row hi (by omega) fun hf' => hf ((hflight i).2 (.inr hf'))
  · intro i row hi hic
    refine h.kept i row hi fun hlt => ?_
    rcases (hflight i).1 (hic (by omega)) with e | hf
    · omega
    · exact hf
  · have h1 := countP_set_add counts { w with phase := .computing c } hw
    have h2 := countP_set_add (computes refs p.succeeds) { w with phase := .computing c } hw
    rw [computes_of_ne hn, computes_of_eq rfl hrow] at h2
    rw [show counts w = false by unfold counts; rw [hk],
      show counts { w with phase := .computing (c : Int) } = false from rfl] at h1
    rw [countP_take_succ _ hrow]
    have := h.done
    simp only [Bool.toNat_false, Nat.add_zero] at h1 h2 ⊢
    omega
  · have h1 := countP_set_add hasFailed { w with phase := .computing c } hw
    have h2 := countP_set_add (computes refs fun row => !p.succeeds row) { w with phase := .computing c } hw
    rw [computes_of_ne hn, computes_of_eq rfl hrow] at h2
    rw [show hasFailed w = false by unfold hasFailed; rw [hk],
      show hasFailed { w with phase := .computing (c : Int) } = false from rfl] at h1
    rw [countP_take_succ _ hrow]
    have := h.lost
    simp only [Bool.toNat_false, Nat.add_zero] at h1 h2
    omega

/-- A worker ends its work: its row, still untouched, gets its outcome, and no other row changes. -/
theorem Progress.finish (h : Progress p refs c q workers) (rows : Array (Array α)) (w' : Worker α)
    (hnodup : refs.Nodup) (hbound : ∀ row ∈ refs, row < p.rows.size) (hw : workers[turn]? = some w) {i row : Nat}
    (hk : w.phase = .computing i) (hi : refs[i]? = some row)
    (hn' : ∀ k, w'.phase ≠ .computing k) (hclaim : ∀ k, w'.phase ≠ .claiming k) (hret : w'.phase ≠ .returned)
    (hscratch : w'.scratch.size = p.freshScratch.size)
    (hcounts : (counts w').toNat = (p.succeeds row).toNat) (hfail : (hasFailed w').toNat = (!p.succeeds row).toNat)
    (hrows : rows = q.rows.setIfInBounds row (p.settled row)) :
    Progress p refs c { q with rows := rows } (workers.set turn w') := by
  have hflight := inFlight_set_drop h.exclusive hw hk hn'
  -- no other index has the row, so what the other indices hold is not touched
  have hsame : ∀ j row', refs[j]? = some row' → j ≠ i → row' ≠ row := by
    rintro j row' hj hji rfl
    have hlt := (List.getElem?_eq_some_iff.1 hj).choose
    exact hji ((List.getElem?_inj hlt hnodup).1 (hj.trans hi.symm))
  have hset : ∀ r, rows[r]? = if row = r then some (p.settled row) else q.rows[r]? := by
    intro r
    have hlt : row < q.rows.size := by rw [h.size]; exact hbound row (List.mem_of_getElem? hi)
    rw [hrows, Array.getElem?_setIfInBounds]
    simp only [hlt, if_true]
  have hgetD : ∀ r, r ≠ row → rows.getD r #[] = q.rows.getD r #[] := by
    intro r hr
    rw [Array.getD_eq_getD_getElem?, Array.getD_eq_getD_getElem?, hset, if_neg (Ne.symm hr)]
  refine { h with claiming := ?_, computing := ?_, returned := ?_, scratch := ?_, exclusive := ?_, size := ?_,
                  held := ?_, kept := ?_, other := ?_, done := ?_, lost := ?_ }
  · exact forall_mem_set h.claiming fun k hk' => absurd hk' (hclaim k)
  · exact forall_mem_set h.computing fun k hk' => absurd hk' (hn' k)
  · exact forall_mem_set h.returned fun hr => absurd hr hret
  · exact forall_mem_set h.scratch fun _ => hscratch
  · exact h.exclusive.set fun k hk' => absurd hk' (hn' k)
  · rw [hrows]; simp [h.size]
  · intro j row' hj hjc hf
    by_cases hji : j = i
    · subst hji
      rw [hi] at hj; cases hj
      rw [Array.getD_eq_getD_getElem?, hset, if_pos rfl]; rfl
    · rw [hgetD row' (hsame j row' hj hji)]
      exact h.held j row' hj hjc fun hf' => hf ((hflight j).2 ⟨hji, hf'⟩)
  · intro j row' hj hjc
    by_cases hji : j = i
    · subst hji
      obtain ⟨i', hi', hic⟩ := h.computing w (List.mem_of_getElem? hw) _ hk
      exact absurd rfl ((hflight j).1 (hjc (by omega))).1
    · rw [hgetD row' (hsame j row' hj hji)]
      exact h.kept j row' hj fun hlt => ((hflight j).1 (hjc hlt)).2
  · intro r hr
    rw [hset, if_neg (by rintro rfl; exact hr (List.mem_of_getElem? hi))]
    exact h.other r hr
  · have h1 := countP_set_add counts w' hw
    have h2 := countP_set_add (computes refs p.succeeds) w' hw
    rw [computes_of_ne hn', computes_of_eq hk hi] at h2
    rw [show counts w = false by unfold counts; rw [hk], hcounts] at h1
    have := h.done
    simp only [Bool.toNat_false, Nat.add_zero] at h1 h2 ⊢
    omega
  · have h1 := countP_set_add hasFailed w' hw
    have h2 := countP_set_add (computes refs fun row => !p.succeeds row) w' hw
    rw [computes_of_ne hn', computes_of_eq hk hi] at h2
    rw [show hasFailed w = false by unfold hasFailed; rw [hk], hfail] at h1
    have := h.lost
    simp only [Bool.toNat_false, Nat.add_zero] at h1 h2
    omega

/-- One step of one worker: the claims grow by the next index, or not at all. -/
theorem Progress.step (hsize : checkSize [p.fftSize] = .ok ()) (hnodup : refs.Nodup)
    (hbound : ∀ row ∈ refs, row < p.rows.size) (h : Progress p refs c q workers) (hw : workers[turn]? = some w) :
    ∃ d, Progress p refs (c + d) (q.step w).1 (workers.set turn (q.step w).2) ∧
      (q.taken w).toList = (List.range' c d).map Nat.cast := by
  have hmem := List.mem_of_getElem? hw
  have hlen : q.work.length = refs.length := by rw [h.work, List.length_map]
  have hscr : w.phase ≠ .starting → w.scratch.size = p.freshScratch.size := h.scratch w hmem
  -- all phases but a won claim and the work itself leave cursor and rows alone
  have quiet : ∀ (w' : Worker α) (n : Int), q.step w = ({ q with done := ⟨n⟩ }, w') → (∀ k, w.phase ≠ .computing k) →
      (∀ k, w'.phase ≠ .computing k) → (∀ k, w'.phase = .claiming k → k ≤ c) →
      (w'.phase = .returned → refs.length ≤ c) → w'.scratch.size = p.freshScratch.size →
        n + (counts w').toNat = q.done.value + (counts w).toNat →
      hasFailed w' = hasFailed w →
      ∃ d, Progress p refs (c + d) (q.step w).1 (workers.set turn (q.step w).2) ∧
        (q.taken w).toList = (List.range' c d).map Nat.cast := by
    intro w' n hs hn hn' hclaim hret hscratch hdone hfail
    refine ⟨0, ?_, by rw [taken_eq_none (by rw [hs]; exact hn')]; rfl⟩
    rw [hs]; exact h.quiet hw hn hn' hclaim hret hscratch n hdone hfail
  cases hp : w.phase with
  | starting =>
    have hs : checkSize [q.fftSize] = .ok () := by rw [h.fftSize]; exact hsize
    refine quiet _ q.done.value (step_starting hs hp) (by rw [hp]; nofun) nofun nofun nofun ?_ ?_ ?_
    · unfold freshScratch; rw [h.fftSize]
    · simp [counts, hp]
    · simp [hasFailed, hp]
  | reading =>
    refine quiet _ q.done.value (step_reading hp) (by rw [hp]; nofun) nofun ?_ nofun (hscr (by rw [hp]; nofun)) ?_ ?_
    · rintro k hk; cases hk; exact le_of_eq h.cursor
    · simp [counts, hp]
    · simp [hasFailed, hp]
  | counting =>
    refine quiet _ (q.done.value + 1) (step_counting hp) (by rw [hp]; nofun) nofun nofun nofun
      (hscr (by rw [hp]; nofun)) ?_ ?_
    · simp [counts, hp]
    · simp [hasFailed, hp]
  | returned | failed cause =>
    refine quiet w q.done.value (step_ended (by rw [hp]; rfl)) (by rw [hp]; nofun) (by rw [hp]; nofun)
      (by rw [hp]; nofun) (h.returned w hmem) (hscr (by rw [hp]; nofun)) rfl rfl
  | claiming k =>
    have hkc := h.claiming w hmem k hp
    by_cases hpast : (q.work.length : Int) ≤ k
    · refine quiet _ q.done.value (step_claiming_past hp hpast) (by rw [hp]; nofun) nofun nofun
        (fun _ => by omega) (hscr (by rw [hp]; nofun)) ?_ ?_
      · simp [counts, hp]
      · simp [hasFailed, hp]
    · by_cases hwon : q.cursor.value = k
      · have hk : k = c := hwon.symm.trans h.cursor
        subst hk
        have hs := step_claiming_won hp hpast hwon
        refine ⟨1, ?_, ?_⟩
        · rw [hs]; exact h.claim hw hp (by omega)
        · rw [taken_eq_some hp (by rw [hs])]; rfl
      · refine quiet _ q.done.value (step_claiming_lost hp hpast hwon) (by rw [hp]; nofun) nofun ?_
          nofun (hscr (by rw [hp]; nofun)) ?_ ?_
        · rintro k' hk'; cases hk'; exact le_of_eq h.cursor
        · simp [counts, hp]
        · simp [hasFailed, hp]
  | computing k =>
    obtain ⟨i, rfl, hic⟩ := h.computing w hmem k hp
    have hlt : i < refs.length := lt_of_lt_of_le hic h.le
    have hi : refs[i]? = some refs[i] := List.getElem?_eq_getElem hlt
    have hwork : q.work[i]? = some (some refs[i]) := by rw [h.work, List.getElem?_map, hi]; rfl
    have hs := step_computing hp hwork
    -- the row is still as it was at the start, and the scratch row only needs to have the right size
    have horig := h.kept i refs[i] hi fun _ => ⟨turn, w, hw, hp⟩
    have hsc := replaceHead_size q.points w.scratch (q.rows.getD refs[i] #[])
    have hout : (replaceHead q.points w.scratch (q.rows.getD refs[i] #[])).2 = p.outcome refs[i] := by
      rw [horig, h.points]
      exact replaceHead_scratch _ (hscr (by rw [hp]; nofun)) _
    rcases hr : replaceHead q.points w.scratch (q.rows.getD refs[i] #[]) with ⟨scratch, answer⟩
    rw [hr] at hs hsc hout
    simp only at hs hsc hout
    have hscratch : scratch.size = p.freshScratch.size := hsc.trans (hscr (by rw [hp]; nofun))
    refine ⟨0, ?_, ?_⟩
    · cases answer with
      | ok samples =>
        rw [hs]
        refine h.finish _ _ hnodup hbound hw hp hi nofun nofun nofun hscratch ?_ ?_ ?_
        · simp [counts, succeeds, ← hout, Except.isOk, Except.toBool]
        · simp [hasFailed, succeeds, ← hout, Except.isOk, Except.toBool]
        · rw [settled_of_ok hout.symm]
      | error cause =>
        rw [hs]
        refine h.finish q.rows ⟨.failed cause, scratch⟩ hnodup hbound hw hp hi nofun nofun nofun
          hscratch ?_ ?_ ?_
        · simp [counts, succeeds, ← hout, Except.isOk, Except.toBool]
        · simp [hasFailed, succeeds, ← hout, Except.isOk, Except.toBool]
        · rw [settled_of_error hout.symm, ← horig, setIfInBounds_getD]
    · rw [taken_eq_none (by rw [hs]; cases answer <;> nofun)]; rfl

end Step

/-! ## Every schedule -/

section Run

variable {p q : Pool α} {refs : List Nat} {c : Nat} {workers : List (Worker α)}

theorem interleave_cons_none {turn : Nat} (rest : List Nat) (hw : workers[turn]? = none) :
    q.interleave workers (turn :: rest) = q.interleave workers rest := by
  rw [Pool.interleave, hw]

theorem interleave_cons_some {turn : Nat} {w : Worker α} (rest : List Nat) (hw : workers[turn]? = some w) :
    q.interleave workers (turn :: rest) = (q.step w).1.interleave (workers.set turn (q.step w).2) rest := by
  rw [Pool.interleave, hw]

section Record

variable {β : Type} {see : Pool α → Worker α → Option β} {turn : Nat}

theorem record_cons_none (rest : List Nat) (hw : workers[turn]? = none) :
    p.record see workers (turn :: rest) = p.record see workers rest := by
  rw [record, hw]

theorem record_cons_some {w : Worker α} (rest : List Nat) (hw : workers[turn]? = some w) :
    p.record see workers (turn :: rest) =
      ((see p w).map (turn, ·)).toList ++ (p.step w).1.record see (workers.set turn (p.step w).2) rest := by
  rw [record, hw]

theorem map_snd_toList (turn : Nat) (entry : Option β) :
    (entry.map (turn, ·)).toList.map Prod.snd = entry.toList := by
  cases entry <;> rfl

end Record

theorem Progress.interleave (hsize : checkSize [p.fftSize] = .ok ()) (hnodup : refs.Nodup)
    (hbound : ∀ row ∈ refs, row < p.rows.size) (schedule : List Nat) (h : Progress p refs c q workers) :
    ∃ d, Progress p refs (c + d) (q.interleave workers schedule).1 (q.interleave workers schedule).2 ∧
      (q.record taken workers schedule).map Prod.snd = (List.range' c d).map Nat.cast := by
  induction schedule generalizing c q workers with
  | nil => exact ⟨0, h, rfl⟩
  | cons turn rest ih =>
    cases hw : workers[turn]? with
    | none => rw [interleave_cons_none rest hw, record_cons_none rest hw]; exact ih h
    | some w =>
      rw [interleave_cons_some rest hw, record_cons_some rest hw]
      obtain ⟨d, hstep, htaken⟩ := h.step hsize hnodup hbound hw
      obtain ⟨e, hrun, hclaims⟩ := ih hstep
      refine ⟨d + e, by rw [← Nat.add_assoc]; exact hrun, ?_⟩
      rw [List.map_append, map_snd_toList, htaken, hclaims, ← List.map_append]
      have happend : List.range' c d ++ List.range' (c + 1 * d) e = List.range' c (d + e) := List.range'_append
      rw [Nat.one_mul] at happend
      rw [happend]

theorem interleave_length (schedule : List Nat) :
    (q.interleave workers schedule).2.length = workers.length := by
  induction schedule generalizing q workers with
  | nil => rfl
  | cons turn rest ih =>
    cases hw : workers[turn]? with
    | none => rw [interleave_cons_none rest hw, ih]
    | some w => rw [interleave_cons_some rest hw, ih, List.length_set]

/-- A worker that cannot have a scratch row never claims anything. -/
theorem interleave_unstarted {cause : ShapeFault} (hsize : checkSize [q.fftSize] = .error cause) (schedule : List Nat)
    (h : ∀ w ∈ workers, w.phase = .starting ∨ w.phase = .failed cause) :
    (q.interleave workers schedule).1 = q ∧ q.record taken workers schedule = [] ∧
      ∀ w ∈ (q.interleave workers schedule).2, w.phase = .starting ∨ w.phase = .failed cause := by
  induction schedule generalizing workers with
  | nil => exact ⟨rfl, rfl, h⟩
  | cons turn rest ih =>
    cases hw : workers[turn]? with
    | none => rw [interleave_cons_none rest hw, record_cons_none rest hw]; exact ih h
    | some w =>
      rw [interleave_cons_some rest hw, record_cons_some rest hw]
      have hs : q.step w = (q, (q.step w).2) ∧ (q.step w).2.phase = .failed cause := by
        rcases h w (List.mem_of_getElem? hw) with hp | hp
        · rw [step_starting_error hsize hp]; exact ⟨rfl, rfl⟩
        · rw [step_ended (by rw [hp]; rfl)]; exact ⟨rfl, hp⟩
      have hnext : ∀ v ∈ workers.set turn (q.step w).2, v.phase = .starting ∨ v.phase = .failed cause := by
        intro v hv
        rcases List.mem_or_eq_of_mem_set hv with hv | rfl
        · exact h v hv
        · exact .inr hs.2
      obtain ⟨h1, h2, h3⟩ := ih hnext
      rw [taken_eq_none (by rw [hs.2]; nofun), show (q.step w).1 = q by rw [hs.1]]
      exact ⟨h1, h2, h3⟩

end Run

end Pool

end HrirAtlas.Magnitude
