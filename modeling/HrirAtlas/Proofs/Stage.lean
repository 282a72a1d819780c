import HrirAtlas.Session
import Mathlib.Tactic

/-
Steps of an import taken apart. A step that ended well went through its parts one after another,
each from the session that the one before it left; a part that cannot fail leaves a known session.
Whether it ends well or stops, a step that is made of small changes takes the data set along a chain
of them. What a step that only looks at the data set returns and makes of it does not depend on the
journal, on what was printed or on the count.
-/

namespace HrirAtlas

open Relation

/-! ## Answers -/

theorem except_bind_ok {ε β γ : Type} {x : Except ε β} {f : β → Except ε γ} {c : γ}
    (h : (x >>= f) = .ok c) : ∃ b, x = .ok b ∧ f b = .ok c := by
  cases x with
  | error cause => cases h
  | ok b => exact ⟨b, rfl, h⟩

theorem except_mapError_ok {ε δ β : Type} {x : Except ε β} {f : ε → δ} {b : β}
    (h : x.mapError f = .ok b) : x = .ok b := by
  cases x with
  | error cause => cases h
  | ok c => cases h; rfl

theorem except_map_ok {ε β γ : Type} {x : Except ε β} {f : β → γ} {c : γ} (h : x.map f = .ok c) :
    ∃ b, x = .ok b ∧ f b = c := by
  cases x with
  | error cause => cases h
  | ok b => exact ⟨b, rfl, Except.ok.inj h⟩

/-- What a check lets pass is known not to hold. -/
theorem except_guard_ok {ε β : Type} {p : Prop} [Decidable p] {cause : ε} {f : PUnit → Except ε β} {b : β}
    (h : (if p then throw cause >>= f else f ()) = .ok b) : ¬ p ∧ f () = .ok b := by
  split at h
  · cases h
  · rename_i hp
    exact ⟨hp, h⟩

theorem except_bind_error {ε β γ : Type} {x : Except ε β} {f : β → Except ε γ} {e : ε} (h : (x >>= f) = .error e) :
    x = .error e ∨ ∃ b, x = .ok b ∧ f b = .error e := by
  cases x with
  | error e' => exact .inl (congrArg Except.error (Except.error.inj h))
  | ok b => exact .inr ⟨b, rfl, h⟩

theorem except_mapError_error {ε δ β : Type} {x : Except ε β} {f : ε → δ} {e : δ} (h : x.mapError f = .error e) :
    ∃ e', x = .error e' ∧ f e' = e := by
  cases x with
  | error e' => exact ⟨e', rfl, Except.error.inj h⟩
  | ok b => cases h

theorem except_map_error {ε β γ : Type} {x : Except ε β} {f : β → γ} {e : ε} (h : x.map f = .error e) :
    x = .error e := by
  cases x with
  | error e' => exact congrArg Except.error (Except.error.inj h)
  | ok b => cases h

theorem except_guard_error {ε β : Type} {p : Prop} [Decidable p] {cause e : ε} {f : PUnit → Except ε β}
    (h : (if p then throw cause >>= f else f ()) = .error e) : cause = e ∨ f () = .error e := by
  split at h
  · cases h
    exact .inl rfl
  · exact .inr h

theorem except_mapM_of_ok {ε β γ : Type} {f : β → Except ε γ} {g : β → γ} : ∀ {l : List β},
    (∀ x ∈ l, f x = .ok (g x)) → l.mapM f = .ok (l.map g)
  | [], _ => rfl
  | x :: l, h => by
    rw [List.mapM_cons, h x List.mem_cons_self, except_mapM_of_ok fun y hy => h y (List.mem_cons_of_mem _ hy)]
    rfl

theorem except_flatMapM_of_ok {ε β γ : Type} {f : β → Except ε (List γ)} {g : β → List γ} : ∀ {l : List β},
    (∀ x ∈ l, f x = .ok (g x)) → l.flatMapM f = .ok (l.flatMap g)
  | [], _ => rfl
  | x :: l, h => by
    rw [List.flatMapM_cons, h x List.mem_cons_self, except_flatMapM_of_ok fun y hy => h y (List.mem_cons_of_mem _ hy)]
    rfl

theorem except_mem_mapM {ε β γ : Type} {f : β → Except ε γ} {y : γ} : ∀ {l : List β} {out : List γ},
    l.mapM f = .ok out → y ∈ out → ∃ x ∈ l, f x = .ok y
  | [], out, h, hy => by cases h; cases hy
  | x :: l, out, h, hy => by
    rw [List.mapM_cons] at h
    obtain ⟨first, hfirst, h⟩ := except_bind_ok h
    obtain ⟨rest, hrest, h⟩ := except_bind_ok h
    cases h
    rcases List.mem_cons.1 hy with rfl | hy
    · exact ⟨x, List.mem_cons_self, hfirst⟩
    · obtain ⟨x', hx', hf⟩ := except_mem_mapM hrest hy
      exact ⟨x', List.mem_cons_of_mem _ hx', hf⟩

theorem except_mem_flatMapM {ε β γ : Type} {f : β → Except ε (List γ)} {y : γ} : ∀ {l : List β} {out : List γ},
    l.flatMapM f = .ok out → y ∈ out → ∃ x ∈ l, ∃ ys, f x = .ok ys ∧ y ∈ ys
  | [], out, h, hy => by cases h; cases hy
  | x :: l, out, h, hy => by
    rw [List.flatMapM_cons] at h
    obtain ⟨first, hfirst, h⟩ := except_bind_ok h
    obtain ⟨rest, hrest, h⟩ := except_bind_ok h
    cases h
    rcases List.mem_append.1 hy with hy | hy
    · exact ⟨x, List.mem_cons_self, first, hfirst, hy⟩
    · obtain ⟨x', hx', hf⟩ := except_mem_flatMapM hrest hy
      exact ⟨x', List.mem_cons_of_mem _ hx', hf⟩

namespace Stage

variable {α β γ : Type}

/-! ## One part after another -/

theorem bind_run (x : Stage α β) (f : β → Stage α γ) (s : Session α) :
    (x >>= f) s = match x s with | .ok b u => f b u | .error cause u => .error cause u := by
  show EStateM.bind x f s = _
  unfold EStateM.bind
  cases x s <;> rfl

theorem bind_ok {x : Stage α β} {f : β → Stage α γ} {s t : Session α} {c : γ} (h : (x >>= f) s = .ok c t) :
    ∃ b u, x s = .ok b u ∧ f b u = .ok c t := by
  rw [bind_run] at h
  cases hx : x s with
  | ok b u => rw [hx] at h; exact ⟨b, u, rfl, h⟩
  | error e u => rw [hx] at h; cases h

theorem bind_of_ok {x : Stage α β} {f : β → Stage α γ} {s u : Session α} {b : β} (h : x s = .ok b u) :
    (x >>= f) s = f b u := by
  rw [bind_run, h]

theorem bind_of_error {x : Stage α β} {f : β → Stage α γ} {s u : Session α} {cause : Fault α}
    (h : x s = .error cause u) : (x >>= f) s = .error cause u := by
  rw [bind_run, h]

/-- A part that can be seen to end well does. -/
theorem exists_ok {x : Stage α β} {s : Session α} (h : (match x s with | .ok .. => true | .error .. => false) = true) :
    ∃ b t, x s = .ok b t := by
  cases hx : x s with
  | ok b t => exact ⟨b, t, rfl⟩
  | error cause t => rw [hx] at h; cases h

/-- A part that can be seen to end well, in a session of a kind, does. -/
theorem exists_ok_and {x : Stage α β} {s : Session α} {p : Session α → Bool}
    (h : (match x s with | .ok _ t => p t | .error .. => false) = true) : ∃ b t, x s = .ok b t ∧ p t = true := by
  cases hx : x s with
  | ok b t =>
    rw [hx] at h
    exact ⟨b, t, rfl, h⟩
  | error cause t =>
    rw [hx] at h
    cases h

theorem discard_run (x : Stage α β) (s : Session α) :
    (discard x : Stage α Unit) s = match x s with | .ok _ u => .ok () u | .error cause u => .error cause u := by
  show EStateM.map (Function.const β PUnit.unit) x s = _
  unfold EStateM.map
  cases x s <;> rfl

theorem discard_ok {x : Stage α β} {s t : Session α} (h : (discard x : Stage α Unit) s = .ok () t) : ∃ b, x s = .ok b t := by
  rw [discard_run] at h
  cases hx : x s with
  | ok b u => rw [hx] at h; cases h; exact ⟨b, rfl⟩
  | error cause u => rw [hx] at h; cases h

/-! ## Parts with known outcomes -/

section Parts

variable {s t : Session α}

theorem ofExcept_ok {answer : Except (Fault α) β} {b : β} (h : ofExcept answer s = .ok b t) :
    answer = .ok b ∧ t = s := by
  cases answer with
  | error cause => cases h
  | ok c => cases h; exact ⟨rfl, rfl⟩

theorem ofShape_ok {answer : Except ShapeFault β} {b : β} (h : ofShape (α := α) answer s = .ok b t) :
    answer = .ok b ∧ t = s := by
  obtain ⟨ha, ht⟩ := ofExcept_ok h
  exact ⟨except_mapError_ok ha, ht⟩

theorem ofArithmetic_ok {answer : Except ArithmeticFault β} {b : β} (h : ofArithmetic (α := α) answer s = .ok b t) :
    answer = .ok b ∧ t = s := by
  obtain ⟨ha, ht⟩ := ofExcept_ok h
  exact ⟨except_mapError_ok ha, ht⟩

theorem ofShape_of_ok {answer : Except ShapeFault β} {b : β} (h : answer = .ok b) : ofShape answer s = .ok b s := by
  rw [h]; rfl

theorem ofArithmetic_of_ok {answer : Except ArithmeticFault β} {b : β} (h : answer = .ok b) :
    ofArithmetic answer s = .ok b s := by
  rw [h]; rfl

theorem data_bind (f : DataSet α → Stage α γ) (s : Session α) : (data >>= f) s = f s.data s := rfl

theorem setData_bind (d : DataSet α) (f : Unit → Stage α γ) (s : Session α) :
    (setData d >>= f) s = f () { s with data := d } := rfl

theorem tick_bind (f : Unit → Stage α γ) (s : Session α) :
    (tick >>= f) s = f () { s with count := s.count + 1 } := rfl

theorem reportAll_bind (entries : Journal) (f : Unit → Stage α γ) (s : Session α) :
    (reportAll entries >>= f) s = f () { s with journal := s.journal ++ entries } := rfl

theorem report_bind (level : Level) (reporter : Reporter) (text : String) (f : Unit → Stage α γ) (s : Session α) :
    (report level reporter text >>= f) s = f () { s with journal := s.journal ++ [⟨level, reporter, text⟩] } := rfl

theorem withProgress_ok {label : String} {total : Nat} {task : Stage α Unit}
    (h : withProgress label total task s = .ok () t) :
    ∃ u, task { s with count := 0 } = .ok () u ∧
      t = { u with printed := u.printed ++ progressLine label u.count total } := by
  unfold withProgress at h
  cases htask : task { s with count := 0 } with
  | error cause u => rw [htask] at h; cases h
  | ok b u => rw [htask] at h; cases h; exact ⟨u, rfl, rfl⟩

end Parts

/-! ## Parts that stop -/

/-- If the stage stops, it is for one of the given faults. -/
def StopsFor (faults : Fault α → Prop) (x : Stage α β) (s : Session α) : Prop :=
  ∀ cause t, x s = .error cause t → faults cause

section Stops

variable {faults : Fault α → Prop} {s : Session α}

theorem StopsFor.mono {more : Fault α → Prop} {x : Stage α β} (h : StopsFor faults x s)
    (hle : ∀ cause, faults cause → more cause) : StopsFor more x s :=
  fun cause t ht => hle cause (h cause t ht)

theorem stopsFor_fail {cause : Fault α} (h : faults cause) : StopsFor faults (fail cause : Stage α β) s := by
  rintro _ _ ⟨⟩
  exact h

theorem stopsFor_ofExcept {answer : Except (Fault α) β} (h : ∀ cause, answer = .error cause → faults cause) :
    StopsFor faults (ofExcept answer) s := by
  rintro cause t ht
  cases answer with
  | ok b => cases ht
  | error cause' =>
    cases ht
    exact h _ rfl

theorem stopsFor_ofShape {answer : Except ShapeFault β} (h : ∀ cause, answer = .error cause → faults (.shape cause)) :
    StopsFor faults (ofShape answer) s :=
  stopsFor_ofExcept fun cause hcause => by
    obtain ⟨shape, hshape, rfl⟩ := except_mapError_error hcause
    exact h shape hshape

theorem stopsFor_ofArithmetic {answer : Except ArithmeticFault β} (h : ∀ cause, faults (.arithmetic cause)) :
    StopsFor faults (ofArithmetic answer) s :=
  stopsFor_ofExcept fun cause hcause => by
    obtain ⟨arithmetic, -, rfl⟩ := except_mapError_error hcause
    exact h arithmetic

theorem StopsFor.bind {x : Stage α β} {f : β → Stage α γ} (hx : StopsFor faults x s)
    (hf : ∀ b u, x s = .ok b u → StopsFor faults (f b) u) : StopsFor faults (x >>= f) s := by
  intro cause t ht
  rw [bind_run] at ht
  cases h : x s with
  | ok b u =>
    rw [h] at ht
    exact hf b u h cause t ht
  | error cause' u =>
    rw [h] at ht
    cases ht
    exact hx cause t h

theorem StopsFor.discard {x : Stage α β} (hx : StopsFor faults x s) : StopsFor faults (discard x : Stage α Unit) s := by
  intro cause t ht
  rw [discard_run] at ht
  cases h : x s with
  | ok b u => rw [h] at ht; cases ht
  | error cause' u =>
    rw [h] at ht
    cases ht
    exact hx cause t h

theorem StopsFor.withProgress {label : String} {total : Nat} {task : Stage α Unit}
    (htask : StopsFor faults task { s with count := 0 }) : StopsFor faults (withProgress label total task) s := by
  intro cause t ht
  unfold Stage.withProgress at ht
  cases h : task { s with count := 0 } with
  | ok b u => rw [h] at ht; cases ht
  | error cause' u =>
    rw [h] at ht
    cases ht
    exact htask _ _ h

end Stops

/-! ## Chains -/

/-- The session that a stage leaves, whether it ends well or stops. -/
def after (x : Stage α β) (s : Session α) : Session α :=
  match x s with
  | .ok _ t | .error _ t => t

/-- The stage takes the data set along a chain of `R`. -/
def Follows (R : DataSet α → DataSet α → Prop) (x : Stage α β) (s : Session α) : Prop :=
  ReflTransGen R s.data (x.after s).data

theorem kept_of_chain {R : DataSet α → DataSet α → Prop} {P : DataSet α → Prop} (hR : ∀ d d', R d d' → P d → P d')
    {d d' : DataSet α} (h : ReflTransGen R d d') (hd : P d) : P d' := by
  induction h with
  | refl => exact hd
  | tail _ hlast ih => exact hR _ _ hlast ih

section Chains

variable {δ : Type} {R R' : DataSet α → DataSet α → Prop} {s : Session α}

theorem Follows.mono {x : Stage α β} (h : Follows R x s) (hle : ∀ d d', R d d' → R' d d') : Follows R' x s :=
  ReflTransGen.mono hle _ _ h

theorem Follows.of_ok {x : Stage α β} {b : β} {t : Session α} (h : Follows R x s) (hok : x s = .ok b t) :
    ReflTransGen R s.data t.data := by
  unfold Follows after at h
  rw [hok] at h
  exact h

/-- The stage is at another session after its first changes, and goes on from there as `y`. -/
theorem follows_of_run {x y : Stage α β} {u : Session α} (hrun : x s = y u) (hfirst : ReflTransGen R s.data u.data)
    (h : Follows R y u) : Follows R x s := by
  have hafter : x.after s = y.after u := by
    unfold after
    rw [hrun]
  unfold Follows
  rw [hafter]
  exact hfirst.trans h

theorem follows_pure (b : β) : Follows R (pure b : Stage α β) s := .refl

theorem follows_fail (cause : Fault α) : Follows R (fail cause : Stage α β) s := .refl

theorem follows_ofExcept (answer : Except (Fault α) β) : Follows R (ofExcept answer) s := by
  cases answer with
  | ok b => exact follows_pure b
  | error cause => exact follows_fail cause

theorem follows_setData {d : DataSet α} (h : R s.data d) : Follows R (setData d) s := .single h

/-- What only changes the session beside the data set. -/
theorem follows_modify {f : Session α → Session α} (hf : (f s).data = s.data) :
    Follows R (modify f : Stage α Unit) s := by
  show ReflTransGen R s.data (f s).data
  rw [hf]

/-! ### Stages made of parts -/

theorem Follows.bind {x : Stage α β} {f : β → Stage α γ} (hx : Follows R x s)
    (hf : ∀ b u, x s = .ok b u → Follows R (f b) u) : Follows R (x >>= f) s := by
  cases h : x s with
  | ok b u => exact follows_of_run (bind_of_ok h) (hx.of_ok h) (hf b u h)
  | error cause u =>
    have hsame : (x >>= f).after s = x.after s := by unfold after; rw [bind_of_error h, h]
    unfold Follows
    rw [hsame]
    exact hx

theorem follows_data_bind {f : DataSet α → Stage α γ} (h : Follows R (f s.data) s) : Follows R (data >>= f) s := h

theorem follows_ofExcept_bind {answer : Except (Fault α) β} {f : β → Stage α γ}
    (hf : ∀ b, answer = .ok b → Follows R (f b) s) : Follows R (ofExcept answer >>= f) s :=
  (follows_ofExcept answer).bind fun b u hu => by
    obtain ⟨hb, rfl⟩ := ofExcept_ok hu
    exact hf b hb

theorem follows_ofShape_bind {answer : Except ShapeFault β} {f : β → Stage α γ}
    (hf : ∀ b, answer = .ok b → Follows R (f b) s) : Follows R (ofShape answer >>= f) s :=
  follows_ofExcept_bind fun b hb => hf b (except_mapError_ok hb)

theorem follows_ofArithmetic_bind {answer : Except ArithmeticFault β} {f : β → Stage α γ}
    (hf : ∀ b, answer = .ok b → Follows R (f b) s) : Follows R (ofArithmetic answer >>= f) s :=
  follows_ofExcept_bind fun b hb => hf b (except_mapError_ok hb)

theorem follows_setData_bind {d : DataSet α} {f : Unit → Stage α γ} (h : R s.data d)
    (hf : Follows R (f ()) { s with data := d }) : Follows R (setData d >>= f) s :=
  follows_of_run (setData_bind d f s) (.single h) hf

theorem follows_modify_bind {g : Session α → Session α} {f : Unit → Stage α γ} (hg : (g s).data = s.data)
    (hf : Follows R (f ()) (g s)) : Follows R ((modify g : Stage α Unit) >>= f) s :=
  (follows_modify hg).bind fun _ u hu => by
    cases hu
    exact hf

theorem Follows.discard {x : Stage α β} (hx : Follows R x s) : Follows R (discard x : Stage α Unit) s := by
  have hsame : (Functor.discard x : Stage α Unit).after s = x.after s := by
    unfold after
    rw [discard_run]
    cases x s <;> rfl
  unfold Follows
  rw [hsame]
  exact hx

theorem follows_forM_keeping {P : DataSet α → Prop} (hR : ∀ d d', R d d' → P d → P d') {f : γ → Stage α Unit} :
    ∀ (l : List γ) (s : Session α), P s.data → (∀ x ∈ l, ∀ s, P s.data → Follows R (f x) s) → Follows R (l.forM f) s
  | [], _, _, _ => follows_pure _
  | x :: l, s, hs, hf => by
    have hfirst := hf x List.mem_cons_self s hs
    exact hfirst.bind fun _ u hu => follows_forM_keeping hR l u (kept_of_chain hR (hfirst.of_ok hu) hs)
      fun y hy => hf y (List.mem_cons_of_mem _ hy)

theorem follows_forM {f : γ → Stage α Unit} (l : List γ) (s : Session α) (hf : ∀ x ∈ l, ∀ s, Follows R (f x) s) :
    Follows R (l.forM f) s :=
  follows_forM_keeping (P := fun _ => True) (fun _ _ _ _ => trivial) l s trivial fun x hx s _ => hf x hx s

theorem follows_foldlM {f : γ → δ → Stage α γ} (hf : ∀ c x s, Follows R (f c x) s) :
    ∀ (l : List δ) (c : γ) (s : Session α), Follows R (l.foldlM f c) s
  | [], c, _ => follows_pure c
  | x :: l, c, s => (hf c x s).bind fun c u _ => follows_foldlM hf l c u

theorem follows_withProgress {task : Stage α Unit} {label : String} {total : Nat}
    (htask : Follows R task { s with count := 0 }) : Follows R (withProgress label total task) s := by
  have hsame : ((withProgress label total task).after s).data = (task.after { s with count := 0 }).data := by
    unfold after withProgress
    cases task { s with count := 0 } <;> rfl
  unfold Follows
  rw [hsame]
  exact htask

/-! ### Stages in order -/

/-- Each stage of a list follows `R` from where those before it ended well. -/
def FollowsAll (R : DataSet α → DataSet α → Prop) : List (Stage α Unit) → Session α → Prop
  | [], _ => True
  | x :: rest, s => Follows R x s ∧ ∀ u, x s = .ok () u → FollowsAll R rest u

/-- The first of the stages, however many, follow `R` together. -/
theorem FollowsAll.forM {done stages : List (Stage α Unit)} (h : FollowsAll R stages s) (hdone : done <+: stages) :
    Follows R (done.forM id) s := by
  induction done generalizing stages s with
  | nil => exact follows_pure _
  | cons x done ih =>
    obtain ⟨rest, rfl⟩ := hdone
    exact h.1.bind fun _ u hu => ih (h.2 u hu) (List.prefix_append done rest)

end Chains

/-! ## Stages that only look at the data set -/

/-- From a session with the same data set the stage ends as well, with the same answer and data set. -/
def ByData (x : Stage α β) : Prop :=
  ∀ (s s' t : Session α) (b : β), s'.data = s.data → x s = .ok b t → ∃ t', x s' = .ok b t' ∧ t'.data = t.data

/-! ### Parts that only look -/

theorem byData_pure (b : β) : ByData (pure b : Stage α β) := by
  rintro s s' t c hs ⟨⟩
  exact ⟨s', rfl, hs⟩

theorem byData_fail (cause : Fault α) : ByData (fail cause : Stage α β) := by
  rintro s s' t c hs ⟨⟩

theorem byData_ofExcept (answer : Except (Fault α) β) : ByData (ofExcept answer) := by
  cases answer with
  | ok b => exact byData_pure b
  | error cause => exact byData_fail cause

theorem byData_data : ByData (data : Stage α (DataSet α)) := by
  rintro s s' t d hs ⟨⟩
  exact ⟨s', congrArg (EStateM.Result.ok · s') hs, hs⟩

theorem byData_setData (d : DataSet α) : ByData (setData d) := by
  rintro s s' t c hs ⟨⟩
  exact ⟨_, rfl, rfl⟩

/-- What only changes the session beside the data set. -/
theorem byData_modify {f : Session α → Session α} (hf : ∀ s, (f s).data = s.data) :
    ByData (modify f : Stage α Unit) := by
  rintro s s' t c hs ⟨⟩
  exact ⟨f s', rfl, (hf s').trans (hs.trans (hf s).symm)⟩

theorem byData_reportAll (entries : Journal) : ByData (reportAll entries : Stage α Unit) := byData_modify fun _ => rfl

theorem byData_report (level : Level) (reporter : Reporter) (text : String) :
    ByData (report level reporter text : Stage α Unit) :=
  byData_modify fun _ => rfl

theorem byData_tick : ByData (tick : Stage α Unit) := byData_modify fun _ => rfl

theorem byData_print (text : String) : ByData (print text : Stage α Unit) := byData_modify fun _ => rfl

/-! ### Stages made of them -/

theorem ByData.bind {x : Stage α β} {f : β → Stage α γ} (hx : ByData x) (hf : ∀ b, ByData (f b)) :
    ByData (x >>= f) := by
  intro s s' t c hs h
  obtain ⟨b, u, hu, hc⟩ := bind_ok h
  obtain ⟨u', hu', hdata⟩ := hx s s' u b hs hu
  obtain ⟨t', ht', htdata⟩ := hf b u u' t c hdata hc
  exact ⟨t', by rw [bind_of_ok hu', ht'], htdata⟩

theorem ByData.discard {x : Stage α β} (hx : ByData x) : ByData (discard x : Stage α Unit) := by
  intro s s' t c hs h
  obtain ⟨b, hb⟩ := discard_ok h
  obtain ⟨t', ht', hdata⟩ := hx s s' t b hs hb
  exact ⟨t', by rw [discard_run, ht'], hdata⟩

theorem ByData.foldlM {δ : Type} {f : γ → δ → Stage α γ} (hf : ∀ c x, ByData (f c x)) (l : List δ) :
    ∀ c, ByData (l.foldlM f c) := by
  induction l with
  | nil => exact byData_pure
  | cons x l ih => exact fun c => (hf c x).bind ih

theorem ByData.withProgress {task : Stage α Unit} (htask : ByData task) (label : String) (total : Nat) :
    ByData (withProgress label total task) := by
  rintro s s' t ⟨⟩ hs h
  obtain ⟨u, hu, rfl⟩ := withProgress_ok h
  obtain ⟨u', hu', hdata⟩ := htask { s with count := 0 } { s' with count := 0 } u () hs hu
  refine ⟨{ u' with printed := u'.printed ++ progressLine label u'.count total }, ?_, hdata⟩
  unfold Stage.withProgress
  rw [hu']

end Stage

end HrirAtlas
