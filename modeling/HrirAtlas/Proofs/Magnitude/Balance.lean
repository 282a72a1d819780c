import HrirAtlas.Proofs.Magnitude.All
import HrirAtlas.Proofs.Magnitude.Moves

/-
The accounts of a pool whose work may fail. Whether the work at an index fails is settled by lengths
alone, those of its row and of the scratch row, and no work changes a length; so it is known before
the pool starts which indices fail. Along every schedule the claims are the indices `0, 1, 2, …` in
that order, and each of them has been finished, or has failed its worker, or is in the hands of a
worker that computes it. The finished ones are counted, or about to be counted, and the failed ones
are as many as the workers that have failed.
-/

namespace HrirAtlas

/-! ## Faults by length -/

theorem Tensor.spread_row_isOk {α : Type} (values : Array α) (length : Nat) :
    ((Tensor.row values).spread length).isOk = (values.size == 1 || values.size == length) := by
  unfold spread row
  by_cases h1 : values.size = 1
  · simp [h1, Except.isOk, Except.toBool]
  · by_cases h2 : values.size = length
    · subst h2
      simp [h1, Except.isOk, Except.toBool]
    · simp [h1, h2, Except.isOk, Except.toBool]

theorem except_isOk_map {ε β γ : Type} (f : β → γ) (x : Except ε β) : (x.map f).isOk = x.isOk := by
  cases x <;> rfl

/-- A row that gives way to one of its length leaves all lengths. -/
theorem size_getD_setIfInBounds {α : Type} {rows : Array (Array α)} {place : Nat} {samples : Array α}
    (h : samples.size = (rows.getD place #[]).size) (other : Nat) :
    ((rows.setIfInBounds place samples).getD other #[]).size = (rows.getD other #[]).size := by
  rw [Array.getD_eq_getD_getElem?, Array.getD_eq_getD_getElem?, Array.getElem?_setIfInBounds]
  split
  · rename_i hplace
    subst hplace
    rw [Array.getD_eq_getD_getElem?] at h
    split
    · exact h
    · rename_i hout
      rw [Array.getElem?_eq_none (not_lt.1 hout)]
  · rfl

namespace Magnitude

variable {α : Type}

/-- Whether a worker is computing the work at an index. -/
def Pool.computesAt (k : Int) (w : Worker α) : Bool := w.phase == .computing k

theorem Pool.computesAt_of_ne {w : Worker α} (h : ∀ k, w.phase ≠ .computing k) (k : Int) : Pool.computesAt k w = false := by
  unfold Pool.computesAt
  rw [beq_eq_false_iff_ne]
  exact h k

variable [Signal α]

theorem prepare_isOk (points : Int) (scratch : Array (Complex α)) (response : Array α) :
    (prepare points scratch response).isOk =
      (clampIndex response.size points == 1 || clampIndex response.size points == clampIndex scratch.size points) := by
  have hsize : ((response.extract 0 (clampIndex response.size points)).map ofReal).size =
      clampIndex response.size points := by
    have := clampIndex_le response.size points
    rw [Array.size_map, Array.size_extract]
    omega
  have hspread := Tensor.spread_row_isOk ((response.extract 0 (clampIndex response.size points)).map ofReal)
    (clampIndex scratch.size points)
  rw [hsize] at hspread
  rw [← hspread]
  unfold prepare
  exact except_isOk_map _ _

theorem magnitudes_isOk (spectrum : Array (Complex α)) (response : Array α) :
    (Signal.magnitudes spectrum response).isOk = (min (Signal.bins spectrum.size) spectrum.size == 1 ||
      min (Signal.bins spectrum.size) spectrum.size == min (Signal.bins spectrum.size) response.size) := by
  unfold Signal.magnitudes Signal.writeHead
  rw [except_isOk_map, Tensor.spread_row_isOk, Array.size_map, Array.size_extract]
  simp

/-- Whether the work on a response fails is settled by lengths. -/
theorem replaceHead_isOk_congr (points : Int) {s s' : Array (Complex α)} {response response' : Array α}
    (hs : s.size = s'.size) (hresponse : response.size = response'.size) :
    (replaceHead points s response).2.isOk = (replaceHead points s' response').2.isOk := by
  have hprepare : (prepare points s response).isOk = (prepare points s' response').isOk := by
    rw [prepare_isOk, prepare_isOk, hs, hresponse]
  unfold replaceHead
  cases h : prepare points s response with
  | error cause =>
    cases h' : prepare points s' response' with
    | error cause' => rfl
    | ok filled' => rw [h, h'] at hprepare; cases hprepare
  | ok filled =>
    cases h' : prepare points s' response' with
    | error cause' => rw [h, h'] at hprepare; cases hprepare
    | ok filled' =>
      have hsize : filled.size = filled'.size := (prepare_size h).trans (hs.trans (prepare_size h').symm)
      unfold Signal.transformInPlace
      by_cases hempty : filled.size = 0
      · have hempty' : filled'.size = 0 := hsize ▸ hempty
        simp only [Array.isEmpty_iff_size_eq_zero, hempty, hempty', if_true]
      · have hempty' : filled'.size ≠ 0 := hsize ▸ hempty
        simp only [Array.isEmpty_iff_size_eq_zero, hempty, hempty', if_false]
        rw [magnitudes_isOk, magnitudes_isOk, Array.size_mapIdx, Array.size_mapIdx, hsize, hresponse]

namespace Pool

/-! ## Work that fails -/

/-- Whether the work at an index fails. -/
def failsAt (p : Pool α) (index : Int) : Bool := !(p.compute p.freshScratch index).2.isOk

/-- The work at an index keeps the length of the scratch row and of every row. -/
theorem compute_sizes {p : Pool α} {scratch scratch' : Array (Complex α)} {k : Int}
    {answer : Except ShapeFault (Array (Array α))} (h : p.compute scratch k = (scratch', answer)) :
    scratch'.size = scratch.size ∧
      ∀ rows, answer = .ok rows → ∀ place, (rows.getD place #[]).size = (p.rows.getD place #[]).size := by
  unfold compute at h
  split at h
  · cases h; exact ⟨rfl, nofun⟩
  · cases h; exact ⟨rfl, nofun⟩
  · rename_i row _
    cases h
    refine ⟨replaceHead_size _ _ _, fun rows hrows => ?_⟩
    obtain ⟨samples, hsamples, rfl⟩ := except_map_ok hrows
    exact size_getD_setIfInBounds (size_of_replaceHead hsamples)

/-- Whether the work at an index fails does not change along the way. -/
theorem compute_isOk {p q : Pool α} (hwork : q.work = p.work) (hpoints : q.points = p.points)
    (hsizes : ∀ place, (q.rows.getD place #[]).size = (p.rows.getD place #[]).size) {scratch : Array (Complex α)}
    (hscratch : scratch.size = p.freshScratch.size) (k : Int) : (q.compute scratch k).2.isOk = !p.failsAt k := by
  unfold failsAt compute
  rw [hwork, hpoints, Bool.not_not]
  cases (wrapIndex? p.work.length k).bind (p.work[·]?) with
  | none => rfl
  | some item =>
    cases item with
    | none => rfl
    | some row =>
      simp only
      rw [except_isOk_map, except_isOk_map]
      exact replaceHead_isOk_congr _ hscratch (hsizes row)

/-! ## The accounts -/

/-- The index whose work a step finishes, if it finishes any. -/
def finished (p : Pool α) (w : Worker α) : Option Int :=
  match w.phase, (p.step w).2.phase with
  | .computing index, .counting => some index
  | _, _ => none

/-- The index whose work fails the worker in a step, if any does. -/
def broken (p : Pool α) (w : Worker α) : Option Int :=
  match w.phase, (p.step w).2.phase with
  | .computing index, .failed _ => some index
  | _, _ => none

/-- The pool `q` with its workers, reached from the pool `p` after the given claims, of which some have
been finished and some have failed their workers. Each claim is one of these or in the hands of a
worker. -/
structure Balance (p : Pool α) (claimed done lost : List Int) (q : Pool α) (workers : List (Worker α)) : Prop where
  work : q.work = p.work
  fftSize : q.fftSize = p.fftSize
  points : q.points = p.points
  sizes : ∀ place, (q.rows.getD place #[]).size = (p.rows.getD place #[]).size
  scratch : ∀ w ∈ workers, w.phase ≠ .starting → w.scratch.size = p.freshScratch.size
  claims : claimed = (List.range claimed.length).map Nat.cast
  cursor : q.cursor.value = claimed.length
  le : claimed.length ≤ p.work.length
  claiming : ∀ w ∈ workers, ∀ k, w.phase = .claiming k → k ≤ claimed.length
  returned : ∀ w ∈ workers, w.phase = .returned → p.work.length ≤ claimed.length
  counted : q.done.value + workers.countP counts = done.length
  failed : workers.countP hasFailed = lost.length
  shares : ∀ k, claimed.count k = done.count k + lost.count k + workers.countP (computesAt k)
  done_ok : ∀ k ∈ done, p.failsAt k = false
  lost_fails : ∀ k ∈ lost, p.failsAt k = true

theorem Balance.start {p : Pool α} (hcursor : p.cursor.value = 0) (hdone : p.done.value = 0) (count : Nat) :
    Balance p [] [] [] p (List.replicate count {}) where
  work := rfl
  fftSize := rfl
  points := rfl
  sizes _ := rfl
  scratch w hw h := by rw [List.eq_of_mem_replicate hw] at h; exact absurd rfl h
  claims := rfl
  cursor := hcursor
  le := Nat.zero_le _
  claiming w hw k hk := by rw [List.eq_of_mem_replicate hw] at hk; cases hk
  returned w hw hr := by rw [List.eq_of_mem_replicate hw] at hr; cases hr
  counted := by simp [hdone, List.countP_replicate, counts]
  failed := by simp [List.countP_replicate, hasFailed]
  shares k := by simp [List.countP_replicate, computesAt]
  done_ok := nofun
  lost_fails := nofun

section Step

variable {p q : Pool α} {claimed done lost : List Int} {turn : Nat} {workers : List (Worker α)} {w w' : Worker α}

/-- A step between phases that compute nothing: the accounts stay. -/
theorem Balance.quiet (h : Balance p claimed done lost q workers) (hw : workers[turn]? = some w)
    (hn : ∀ k, w.phase ≠ .computing k) (hn' : ∀ k, w'.phase ≠ .computing k)
    (hclaim : ∀ k, w'.phase = .claiming k → k ≤ claimed.length)
    (hret : w'.phase = .returned → p.work.length ≤ claimed.length)
    (hscratch : w'.scratch.size = p.freshScratch.size) (n : Int)
    (hcounts : n + (counts w').toNat = q.done.value + (counts w).toNat) (hfail : hasFailed w' = hasFailed w) :
    Balance p claimed done lost { q with done := ⟨n⟩ } (workers.set turn w') := by
  refine { h with scratch := ?_, claiming := ?_, returned := ?_, counted := ?_, failed := ?_, shares := ?_ }
  · exact forall_mem_set h.scratch fun _ => hscratch
  · exact forall_mem_set h.claiming hclaim
  · exact forall_mem_set h.returned hret
  · have hset := countP_set_add counts w' hw
    have := h.counted
    simp only
    omega
  · have hset := countP_set_add hasFailed w' hw
    rw [hfail] at hset
    have := h.failed
    omega
  · intro k
    have hset := countP_set_add (computesAt k) w' hw
    rw [computesAt_of_ne hn, computesAt_of_ne hn'] at hset
    have := h.shares k
    omega

/-- A worker takes the next index into its hands. -/
theorem Balance.claim (h : Balance p claimed done lost q workers) (hw : workers[turn]? = some w)
    (hk : w.phase = .claiming claimed.length) (hlt : claimed.length < p.work.length) :
    Balance p (claimed ++ [(claimed.length : Int)]) done lost { q with cursor := ⟨(claimed.length : Int) + 1⟩ }
      (workers.set turn { w with phase := .computing claimed.length }) := by
  have hn : ∀ k, w.phase ≠ .computing k := fun k hk' => by rw [hk] at hk'; cases hk'
  have hlength : (claimed ++ [(claimed.length : Int)]).length = claimed.length + 1 := List.length_append
  refine { h with scratch := ?_, claims := ?_, cursor := ?_, le := ?_, claiming := ?_, returned := ?_, counted := ?_,
                  failed := ?_, shares := ?_ }
  · exact forall_mem_set h.scratch fun _ => h.scratch w (List.mem_of_getElem? hw) (by rw [hk]; nofun)
  · rw [hlength, List.range_succ, List.map_append, ← h.claims]
    rfl
  · rw [hlength]
    exact (Int.natCast_succ claimed.length).symm
  · rw [hlength]
    exact hlt
  · refine forall_mem_set (fun v hv k hk' => ?_) nofun
    have := h.claiming v hv k hk'
    rw [hlength]
    omega
  · refine forall_mem_set (fun v hv hr => ?_) nofun
    have := h.returned v hv hr
    rw [hlength]
    omega
  · have hset := countP_set_add counts { w with phase := .computing claimed.length } hw
    rw [show counts w = false by unfold counts; rw [hk],
      show counts { w with phase := .computing (claimed.length : Int) } = false from rfl] at hset
    have := h.counted
    simp only
    omega
  · have hset := countP_set_add hasFailed { w with phase := .computing claimed.length } hw
    rw [show hasFailed w = false by unfold hasFailed; rw [hk],
      show hasFailed { w with phase := .computing (claimed.length : Int) } = false from rfl] at hset
    have := h.failed
    omega
  · intro k
    have hset := countP_set_add (computesAt k) { w with phase := .computing claimed.length } hw
    have hnew : (computesAt k { w with phase := .computing (claimed.length : Int) }).toNat =
        [(claimed.length : Int)].count k := by
      by_cases he : (claimed.length : Int) = k <;> simp [computesAt, he]
    rw [computesAt_of_ne hn, hnew] at hset
    have := h.shares k
    rw [List.count_append]
    simp only [Bool.toNat_false] at hset
    omega

/-- The work in the hands of a worker ends, and joins the finished work or the failed one. -/
theorem Balance.settle (h : Balance p claimed done lost q workers) (hw : workers[turn]? = some w) {k : Int}
    (hk : w.phase = .computing k) {rows : Array (Array α)} {d l : List Int} (hparts : d ++ l = [k])
    (hd : ∀ j ∈ d, p.failsAt j = false) (hl : ∀ j ∈ l, p.failsAt j = true) (hn' : ∀ j, w'.phase ≠ .computing j)
    (hclaim : ∀ j, w'.phase ≠ .claiming j) (hret : w'.phase ≠ .returned)
    (hscratch : w'.scratch.size = p.freshScratch.size)
    (hrows : ∀ place, (rows.getD place #[]).size = (q.rows.getD place #[]).size)
    (hcounts : (counts w').toNat = d.length) (hfail : (hasFailed w').toNat = l.length) :
    Balance p claimed (done ++ d) (lost ++ l) { q with rows } (workers.set turn w') := by
  refine { h with sizes := ?_, scratch := ?_, claiming := ?_, returned := ?_, counted := ?_, failed := ?_, shares := ?_,
                  done_ok := ?_, lost_fails := ?_ }
  · exact fun place => (hrows place).trans (h.sizes place)
  · exact forall_mem_set h.scratch fun _ => hscratch
  · exact forall_mem_set h.claiming fun j hj => absurd hj (hclaim j)
  · exact forall_mem_set h.returned fun hr => absurd hr hret
  · have hset := countP_set_add counts w' hw
    rw [show counts w = false by unfold counts; rw [hk], hcounts] at hset
    have := h.counted
    rw [List.length_append]
    simp only [Bool.toNat_false] at hset ⊢
    omega
  · have hset := countP_set_add hasFailed w' hw
    rw [show hasFailed w = false by unfold hasFailed; rw [hk], hfail] at hset
    have := h.failed
    rw [List.length_append]
    simp only [Bool.toNat_false] at hset
    omega
  · intro j
    have hset := countP_set_add (computesAt j) w' hw
    have hold : (computesAt j w).toNat = d.count j + l.count j := by
      rw [← List.count_append, hparts]
      by_cases he : k = j <;> simp [computesAt, hk, he]
    rw [computesAt_of_ne hn', hold] at hset
    have := h.shares j
    rw [List.count_append, List.count_append]
    simp only [Bool.toNat_false] at hset
    omega
  · intro j hj
    rcases List.mem_append.1 hj with hj | hj
    · exact h.done_ok j hj
    · exact hd j hj
  · intro j hj
    rcases List.mem_append.1 hj with hj | hj
    · exact h.lost_fails j hj
    · exact hl j hj

theorem no_events (hn : ∀ k, w.phase ≠ .computing k) (hn' : ∀ k, (q.step w).2.phase ≠ .computing k) :
    q.taken w = none ∧ q.finished w = none ∧ q.broken w = none := by
  refine ⟨taken_eq_none hn', ?_, ?_⟩
  · unfold finished
    split
    · rename_i hk _; exact absurd hk (hn _)
    · rfl
  · unfold broken
    split
    · rename_i hk _; exact absurd hk (hn _)
    · rfl

/-- All moves but a won claim and the end of work leave the accounts as they are. -/
theorem Balance.step_quiet (h : Balance p claimed done lost q workers) (hw : workers[turn]? = some w)
    (w' : Worker α) (n : Int) (hstep : q.step w = ({ q with done := ⟨n⟩ }, w')) (hn : ∀ k, w.phase ≠ .computing k)
    (hn' : ∀ k, w'.phase ≠ .computing k) (hclaim : ∀ k, w'.phase = .claiming k → k ≤ claimed.length)
    (hret : w'.phase = .returned → p.work.length ≤ claimed.length) (hscratch : w'.scratch.size = p.freshScratch.size)
    (hcounts : n + (counts w').toNat = q.done.value + (counts w).toNat) (hfail : hasFailed w' = hasFailed w) :
    Balance p (claimed ++ (q.taken w).toList) (done ++ (q.finished w).toList) (lost ++ (q.broken w).toList)
      (q.step w).1 (workers.set turn (q.step w).2) := by
  obtain ⟨htaken, hfinished, hbroken⟩ := no_events (q := q) hn (by rw [hstep]; exact hn')
  rw [htaken, hfinished, hbroken, hstep, Option.toList_none, List.append_nil, List.append_nil, List.append_nil]
  exact h.quiet hw hn hn' hclaim hret hscratch n hcounts hfail

/-- The work at an index fails now if it would have failed at the start. -/
theorem Balance.failsAt_eq (h : Balance p claimed done lost q workers) {scratch scratch' : Array (Complex α)} {k : Int}
    {answer : Except ShapeFault (Array (Array α))} (hscratch : scratch.size = p.freshScratch.size)
    (hcompute : q.compute scratch k = (scratch', answer)) : p.failsAt k = !answer.isOk := by
  have hok := compute_isOk h.work h.points h.sizes hscratch k
  rw [hcompute] at hok
  rw [hok, Bool.not_not]

/-- One step of one worker, where there is a scratch row to be had. -/
theorem Balance.step (hsize : checkSize [p.fftSize] = .ok ()) (h : Balance p claimed done lost q workers)
    (hw : workers[turn]? = some w) :
    Balance p (claimed ++ (q.taken w).toList) (done ++ (q.finished w).toList) (lost ++ (q.broken w).toList)
      (q.step w).1 (workers.set turn (q.step w).2) := by
  have hmem := List.mem_of_getElem? hw
  have hscr : w.phase ≠ .starting → w.scratch.size = p.freshScratch.size := h.scratch w hmem
  have hlen : q.work.length = p.work.length := by rw [h.work]
  have quiet := h.step_quiet hw
  have hmoves := moves_step q w
  generalize hstep : q.step w = after at hmoves
  rw [hstep] at quiet
  cases hmoves with
  | start hp _ =>
    refine quiet _ q.done.value rfl (by simp [hp]) (by simp) (by simp) (by simp) ?_ (by simp [counts, hp])
      (by simp [hasFailed, hp])
    unfold freshScratch
    rw [h.fftSize]
  | lack hp hsize' => rw [h.fftSize, hsize] at hsize'; cases hsize'
  | read hp | lost hp =>
    refine quiet _ q.done.value rfl (by simp [hp]) (by simp) ?_ (by simp) (hscr (by simp [hp])) (by simp [counts, hp])
      (by simp [hasFailed, hp])
    rintro k ⟨⟩
    exact h.cursor.le
  | past hp hk =>
    have hle := h.claiming w hmem _ hp
    exact quiet _ q.done.value rfl (by simp [hp]) (by simp) (by simp) (fun _ => by omega) (hscr (by simp [hp]))
      (by simp [counts, hp]) (by simp [hasFailed, hp])
  | count hp =>
    exact quiet _ (q.done.value + 1) rfl (by simp [hp]) (by simp) (by simp) (by simp) (hscr (by simp [hp]))
      (by simp [counts, hp]) (by simp [hasFailed, hp])
  | rest hp =>
    have hne : ∀ phase : Phase, phase.ended = false → w.phase ≠ phase := by
      rintro phase hphase rfl
      rw [hp] at hphase
      cases hphase
    exact quiet w q.done.value rfl (fun k => hne _ rfl) (fun k => hne _ rfl) (fun k hk => absurd hk (hne _ rfl))
      (h.returned w hmem) (hscr (hne _ rfl)) rfl rfl
  | won hp hk hc =>
    obtain rfl := hc
    rw [h.cursor] at hp hk hstep
    have hclaim := h.claim hw hp (by omega)
    simpa [taken, finished, broken, hp, hstep, h.cursor] using hclaim
  | @finish k scratch rows hp hrows =>
    have hfails : p.failsAt k = false := h.failsAt_eq (hscr (by simp [hp])) hrows
    obtain ⟨hscratch, hsizes⟩ := compute_sizes hrows
    have hsettle : Balance p claimed (done ++ [k]) (lost ++ []) { q with rows } (workers.set turn ⟨.counting, scratch⟩) :=
      h.settle hw hp rfl (by simpa using hfails) (by simp) (by simp) (by simp) (by simp)
        (hscratch.trans (hscr (by simp [hp]))) (hsizes rows rfl) rfl rfl
    simpa [taken, finished, broken, hp, hstep] using hsettle
  | @fault k scratch cause hp hcause =>
    have hfails : p.failsAt k = true := h.failsAt_eq (hscr (by simp [hp])) hcause
    obtain ⟨hscratch, -⟩ := compute_sizes hcause
    have hsettle : Balance p claimed (done ++ []) (lost ++ [k]) q (workers.set turn ⟨.failed cause, scratch⟩) :=
      h.settle hw hp rfl (by simp) (by simpa using hfails) (by simp) (by simp) (by simp)
        (hscratch.trans (hscr (by simp [hp]))) (fun _ => rfl) rfl rfl
    simpa [taken, finished, broken, hp, hstep] using hsettle

/-- The accounts along a schedule. -/
theorem Balance.interleave (hsize : checkSize [p.fftSize] = .ok ()) (schedule : List Nat)
    (h : Balance p claimed done lost q workers) :
    Balance p (claimed ++ (q.record taken workers schedule).map Prod.snd)
      (done ++ (q.record finished workers schedule).map Prod.snd)
      (lost ++ (q.record broken workers schedule).map Prod.snd)
      (q.interleave workers schedule).1 (q.interleave workers schedule).2 := by
  induction schedule generalizing claimed done lost q workers with
  | nil => simpa [record, Pool.interleave] using h
  | cons turn rest ih =>
    cases hw : workers[turn]? with
    | none =>
      simp only [record_cons_none rest hw, interleave_cons_none rest hw]
      exact ih h
    | some w =>
      have hrest := ih (h.step hsize hw)
      simp only [record_cons_some rest hw, interleave_cons_some rest hw, List.map_append, map_snd_toList]
      simpa only [List.append_assoc] using hrest

end Step

/-! ## When all workers have ended -/

section Ended

variable {p q : Pool α} {claimed done lost : List Int} {workers : List (Worker α)}

theorem Balance.perm (h : Balance p claimed done lost q workers) (hended : ∀ w ∈ workers, w.phase.ended = true) :
    claimed.Perm (done ++ lost) := by
  rw [List.perm_iff_count]
  intro k
  have hnone : workers.countP (computesAt k) = 0 := by
    rw [List.countP_eq_zero]
    intro w hw hk
    have hended := hended w hw
    rw [eq_of_beq hk] at hended
    cases hended
  rw [List.count_append, h.shares k, hnone, Nat.add_zero]

/-- All finished work is counted: the claims whose work does not fail. -/
theorem Balance.done_perm (h : Balance p claimed done lost q workers) (hended : ∀ w ∈ workers, w.phase.ended = true) :
    done.Perm (claimed.filter fun k => !p.failsAt k) := by
  have hdone : done.filter (fun k => !p.failsAt k) = done :=
    List.filter_eq_self.2 fun k hk => by rw [h.done_ok k hk]; rfl
  have hlost : lost.filter (fun k => !p.failsAt k) = [] :=
    List.filter_eq_nil_iff.2 fun k hk => by rw [h.lost_fails k hk]; nofun
  have hfilter := (h.perm hended).filter fun k => !p.failsAt k
  rw [List.filter_append, hdone, hlost, List.append_nil] at hfilter
  exact hfilter.symm

/-- Each claim whose work fails has cost a worker. -/
theorem Balance.lost_perm (h : Balance p claimed done lost q workers) (hended : ∀ w ∈ workers, w.phase.ended = true) :
    lost.Perm (claimed.filter p.failsAt) := by
  have hdone : done.filter p.failsAt = [] :=
    List.filter_eq_nil_iff.2 fun k hk => by rw [h.done_ok k hk]; nofun
  have hlost : lost.filter p.failsAt = lost := List.filter_eq_self.2 h.lost_fails
  have hfilter := (h.perm hended).filter p.failsAt
  rw [List.filter_append, hdone, hlost, List.nil_append] at hfilter
  exact hfilter.symm

theorem Balance.done_count (h : Balance p claimed done lost q workers) (hended : ∀ w ∈ workers, w.phase.ended = true) :
    q.done.value = (claimed.filter fun k => !p.failsAt k).length := by
  have hnone : workers.countP counts = 0 := by
    rw [List.countP_eq_zero]
    intro w hw hcounts
    have hended := hended w hw
    unfold counts at hcounts
    split at hcounts
    · rename_i hp; rw [hp] at hended; cases hended
    · cases hcounts
  have hcounted := h.counted
  rw [hnone, (h.done_perm hended).length_eq] at hcounted
  simpa using hcounted

/-- The claims lie within the work. -/
theorem Balance.claimed_sublist (h : Balance p claimed done lost q workers) :
    claimed.Sublist ((List.range p.work.length).map Nat.cast) := by
  rw [h.claims]
  exact (List.range_sublist.2 h.le).map _

/-- A pool with more workers than indices whose work fails has a worker left that returns. -/
theorem Balance.drained (h : Balance p claimed done lost q workers) (hended : ∀ w ∈ workers, w.phase.ended = true)
    (hfew : (List.range p.work.length).countP (fun i : Nat => p.failsAt i) < workers.length) :
    claimed = (List.range p.work.length).map Nat.cast := by
  have hlost : lost.length ≤ (List.range p.work.length).countP fun i : Nat => p.failsAt i := by
    calc lost.length = claimed.countP p.failsAt := by
          rw [(h.lost_perm hended).length_eq, List.countP_eq_length_filter]
      _ ≤ ((List.range p.work.length).map Nat.cast).countP p.failsAt := h.claimed_sublist.countP_le
      _ = (List.range p.work.length).countP fun i : Nat => p.failsAt i := List.countP_map
  obtain ⟨w, hw, hsurvives⟩ : ∃ w ∈ workers, hasFailed w ≠ true := by
    by_contra hall
    push Not at hall
    have hfailed := h.failed
    rw [List.countP_eq_length.2 hall] at hfailed
    omega
  have hreturned : w.phase = .returned := returned_of_ended (hended w hw) fun cause hp => by
    simp [hasFailed, hp] at hsurvives
  have hlength : claimed.length = p.work.length := le_antisymm h.le (h.returned w hw hreturned)
  rw [h.claims, hlength]

end Ended

end Pool

end Magnitude

end HrirAtlas
