import HrirAtlas.Proofs.Exact.Signal
import HrirAtlas.Proofs.Signal.Rate

/-
A converter whose rates are given again and again. Rates that are whole and above zero are taken
over, others are refused and leave the converter as it was, so after any number of calls it converts
between the rates that were accepted last; before any were accepted it passes a signal unchanged.
What it writes over a row is that signal fitted to the row, whatever stood there before.
-/

namespace HrirAtlas.Resampler

variable {α : Type} [Signal α]

/-! ## One call -/

/-- A converter between two rates: its factors are the rates in lowest terms, and it copies a signal
exactly when the rates are equal. -/
structure IsBetween (r : Resampler α) (source target : Nat) : Prop where
  sourceRate : r.sourceRate = source
  targetRate : r.targetRate = target
  up : 0 < r.up
  down : 0 < r.down
  coprime : r.up.Coprime r.down
  ratio : r.up * source = r.down * target
  copies : r.up = r.down ↔ source = target
  resampled : ∀ signal, r.resampled signal = atRate source target signal

theorem isBetween_between {source target : Nat} (hsource : 0 < source) (htarget : 0 < target) :
    (between source target : Resampler α).IsBetween source target := by
  obtain ⟨⟨hup, hdown⟩, hcoprime, hratio⟩ := lowest_terms hsource htarget
  exact {
    sourceRate := rfl
    targetRate := rfl
    up := hup
    down := hdown
    coprime := hcoprime
    ratio := hratio
    copies := div_gcd_inj
    resampled := resampled_between source target }

/-- The rates that a call gives, when they are whole and above zero. -/
def accepted? (call : Setting α × Setting α) : Option (Nat × Nat) :=
  match call.1.toInt, call.2.toInt with
  | .ok source, .ok target => if source ≤ 0 ∨ target ≤ 0 then none else some (source.toNat, target.toNat)
  | _, _ => none

theorem set_accepted {call : Setting α × Setting α} {rates : Nat × Nat} (h : accepted? call = some rates) :
    set call.1 call.2 = .ok (between rates.1 rates.2) := by
  unfold accepted? at h
  split at h
  next source target hsource htarget =>
    split at h
    · cases h
    · rename_i hpos
      cases h
      rw [set_eq hsource htarget, if_neg hpos]
  next => cases h

theorem set_refused {call : Setting α × Setting α} (h : accepted? call = none) : ∃ cause, set call.1 call.2 = .error cause := by
  unfold accepted? at h
  cases hsource : call.1.toInt with
  | error fault => exact ⟨fault.toFault, by unfold set; rw [hsource]; rfl⟩
  | ok source =>
    cases htarget : call.2.toInt with
    | error fault => exact ⟨fault.toFault, by unfold set; rw [hsource, htarget]; rfl⟩
    | ok target =>
      simp only [hsource, htarget, ite_eq_left_iff, reduceCtorEq, imp_false, not_not] at h
      exact ⟨.rates source target, by rw [set_eq hsource htarget, if_pos h]⟩

/-! ## Any number of calls -/

/-- The converter after a call, whether the call was accepted or refused. -/
def afterCall (r : Resampler α) (call : Setting α × Setting α) : Resampler α :=
  match reset call.1 call.2 r with
  | .ok () next => next
  | .error _ same => same

def afterCalls (calls : List (Setting α × Setting α)) (r : Resampler α) : Resampler α := calls.foldl afterCall r

/-- The rates that were accepted last. -/
def lastRates? (calls : List (Setting α × Setting α)) : Option (Nat × Nat) := (calls.filterMap accepted?).getLast?

theorem afterCall_accepted {call : Setting α × Setting α} {rates : Nat × Nat} (h : accepted? call = some rates)
    (r : Resampler α) : afterCall r call = between rates.1 rates.2 := by
  unfold afterCall reset
  rw [set_accepted h]

theorem afterCall_refused {call : Setting α × Setting α} (h : accepted? call = none) (r : Resampler α) :
    afterCall r call = r := by
  obtain ⟨cause, hset⟩ := set_refused h
  unfold afterCall reset
  rw [hset]

/-- Every accepted call replaces the converter and every refused one keeps it, so the last accepted
call decides. -/
theorem afterCalls_eq (calls : List (Setting α × Setting α)) (r : Resampler α) :
    afterCalls calls r = ((lastRates? calls).map fun rates => between rates.1 rates.2).getD r := by
  induction calls generalizing r with
  | nil => rfl
  | cons call rest ih =>
    show afterCalls rest (afterCall r call) = _
    rw [ih]
    unfold lastRates?
    cases hcall : accepted? call with
    | none => rw [List.filterMap_cons_none hcall, afterCall_refused hcall]
    | some rates =>
      rw [List.filterMap_cons_some hcall, afterCall_accepted hcall, List.getLast?_cons]
      cases (rest.filterMap accepted?).getLast? <;> rfl

/-- The signal between two rates, or as it is between none. -/
def atRates (rates? : Option (Nat × Nat)) (signal : Array α) : Array α :=
  match rates? with
  | some (source, target) => atRate source target signal
  | none => signal

theorem resampled_afterCalls (calls : List (Setting α × Setting α)) (signal : Array α) :
    (afterCalls calls {}).resampled signal = atRates (lastRates? calls) signal := by
  rw [afterCalls_eq]
  cases lastRates? calls with
  | none => rfl
  | some rates => exact resampled_between rates.1 rates.2 signal

/-- A converter is set to whole rates above zero and reduces their ratio; whole rates of which one is
not above zero are refused by a value error, with the converter as it was. After any calls, what it
writes over a row depends on the signal, the length of the row and the rates accepted last, and on
nothing else: it is the signal at those rates, cut to the row or continued by silence. -/
theorem process_afterCalls :
    (∀ (r : Resampler α) (source target : Nat), 0 < source → 0 < target →
      ∃ next, reset (.int source) (.int target) r = .ok () next ∧ next.IsBetween source target) ∧
    (∀ (r : Resampler α) (source target : Int), source ≤ 0 ∨ target ≤ 0 →
      reset (.int source) (.int target) r = .error (.rates source target) r ∧
      (Fault.rates source target : Fault α).kind = .value) ∧
    ∀ (calls : List (Setting α × Setting α)) (signal row : Array α),
      (afterCalls calls {}).process signal row = Signal.fitted row.size (atRates (lastRates? calls) signal) := by
  refine ⟨fun r source target hsource htarget => ?_, fun r source target h => ⟨?_, rfl⟩, fun calls signal row => ?_⟩
  · refine ⟨between source target, ?_, isBetween_between hsource htarget⟩
    unfold reset
    rw [set_int, if_neg (by omega), Int.toNat_natCast, Int.toNat_natCast]
  · unfold reset
    rw [set_int, if_pos h]
  · rw [process_eq, resampled_afterCalls]

/-- A converter set to twice the rate and then to rates that are refused still converts to twice the
rate. -/
theorem process_afterCalls_kept :
    (∃ next, reset (.int 44100) (.int 48000) ({} : Resampler ℚ) = .ok () next ∧ next.IsBetween 44100 48000) ∧
    reset (.int 0) (.int 48000) ({} : Resampler ℚ) = .error (.rates 0 48000) {} ∧
    (afterCalls [(.int 48000, .int 96000), (.int 0, .int 48000)] ({} : Resampler ℚ)).process #[1, 2] #[7, 7, 7, 7, 7] =
      #[1, 3 / 2, 2, 1, 0] := by
  obtain ⟨hset, hrefused, hprocess⟩ := process_afterCalls (α := ℚ)
  refine ⟨hset {} 44100 48000 (by omega) (by omega), (hrefused {} 0 48000 (by omega)).1, ?_⟩
  rw [hprocess]
  decide +kernel

end HrirAtlas.Resampler
