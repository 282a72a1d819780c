import HrirAtlas.Command.Import
import HrirAtlas.Proofs.Exact.Signal
import HrirAtlas.Proofs.Number
import HrirAtlas.Proofs.Parameters.Merge
import HrirAtlas.Proofs.Stage

/-
Which parameters pass their check. The check asks of four parameters which integer they stand for and
holds that against its bounds, but hands the parameters on as they were given; only the channel mode is
stored in the form in which it was checked.
-/

namespace HrirAtlas.Parameters

open Setting

variable {α : Type} [Scalar α]

/-! ## Powers of two -/

/-- The test by bits finds exactly the powers of two, among integers of any size and sign. -/
theorem isPowerOfTwo_iff (n : Int) : isPowerOfTwo n = true ↔ ∃ k : Nat, n = 2 ^ k := by
  unfold isPowerOfTwo
  rw [Bool.and_eq_true, decide_eq_true_eq, beq_iff_eq]
  constructor
  · rintro ⟨hpos, hbits⟩
    obtain ⟨k, hk⟩ := (Nat.and_sub_one_eq_zero_iff_isPowerOfTwo (by omega)).1 hbits
    refine ⟨k, ?_⟩
    rw [← Int.toNat_of_nonneg hpos.le, hk]
    exact_mod_cast rfl
  · rintro ⟨k, rfl⟩
    have hpos : (0 : Int) < 2 ^ k := by positivity
    have hnat : ((2 : Int) ^ k).toNat = 2 ^ k := by
      have hcast : ((2 : Int) ^ k) = ((2 ^ k : Nat) : Int) := by push_cast; rfl
      rw [hcast, Int.toNat_natCast]
    refine ⟨hpos, ?_⟩
    rw [hnat]
    exact (Nat.and_sub_one_eq_zero_iff_isPowerOfTwo (by positivity)).2 ⟨k, rfl⟩

/-! ## The check -/

section Check

variable {p : Parameters α} {name : String} {value : Setting α} {n fftSize truncSize threads outRate : Int}

theorem get_eq_ok : p.get name = .ok value ↔ p.find? name = some value := by
  unfold get
  cases p.find? name <;> simp

theorem integer_eq_ok {text : String} :
    p.integer name = .ok (n, text) ↔ ∃ value, p.find? name = some value ∧ value.toInt = .ok n ∧ value.shown = text := by
  unfold integer
  constructor
  · intro h
    obtain ⟨value, hget, h⟩ := except_bind_ok h
    obtain ⟨m, hint, h⟩ := except_bind_ok h
    cases h
    exact ⟨value, get_eq_ok.1 hget, except_mapError_ok hint, rfl⟩
  · rintro ⟨value, hfind, hint, rfl⟩
    rw [get_eq_ok.2 hfind]
    show ((value.toInt.mapError IntegerFault.toFault) >>= fun n => (.ok (n, value.shown) : Except (Fault α) _)) = _
    rw [hint]
    rfl

/-- The integers that the parameters stand for and the mode are such that an import can use them. -/
structure Acceptable (fftSize truncSize threads outRate : Int) (mode : String) : Prop where
  fftSize : ∃ k : Nat, fftSize = 2 ^ k
  truncSize : 1 ≤ truncSize
  threads : 1 ≤ threads
  outRate : 0 ≤ outRate
  mode : Text.lower mode ∈ channelModes

/-- The check of parameters that stand for integers passes them if they are acceptable, and names the
first that is not. -/
theorem check_of_integers {mode : Setting α} {fftText truncText threadsText rateText : String}
    (hfft : p.integer "fft_size" = .ok (fftSize, fftText)) (htrunc : p.integer "trunc_size" = .ok (truncSize, truncText))
    (hthreads : p.integer "threads" = .ok (threads, threadsText)) (hrate : p.integer "out_rate" = .ok (outRate, rateText))
    (hmode : p.find? "channel_mode" = some mode) :
    (Acceptable fftSize truncSize threads outRate mode.shown → p.check = .ok ()) ∧
      (¬ Acceptable fftSize truncSize threads outRate mode.shown → ∃ cause, p.check = .error (.parameter cause)) := by
  have hcheck : p.check =
      if !isPowerOfTwo fftSize then .error (.parameter (.fftSize fftSize))
      else if truncSize ≤ 0 then .error (.parameter (.truncSize truncText))
      else if threads < 1 then .error (.parameter (.threads threadsText))
      else if outRate < 0 then .error (.parameter (.outRate rateText))
      else if !channelModes.contains (Text.lower mode.shown) then .error (.parameter (.channelMode mode.shown))
      else .ok () := by
    unfold check
    rw [hfft, htrunc, hthreads, hrate, get_eq_ok.2 hmode]
    simp only [bind, Except.bind, throw, throwThe, MonadExceptOf.throw, pure, Except.pure]
  rw [hcheck]
  constructor
  · rintro ⟨hpower, htrunc, hthreads, hrate, hmode⟩
    rw [← isPowerOfTwo_iff] at hpower
    simp [hpower, hmode, show ¬ truncSize ≤ 0 by omega, show ¬ threads < 1 by omega, show ¬ outRate < 0 by omega]
  · intro h
    repeat' split
    any_goals exact ⟨_, rfl⟩
    rename_i hpower htrunc hthreads hrate hmode
    refine absurd ⟨?_, by omega, by omega, by omega, by simpa using hmode⟩ h
    rw [← isPowerOfTwo_iff]
    simpa using hpower

end Check

end HrirAtlas.Parameters
