import HrirAtlas.Signal.Resampler
import HrirAtlas.Proofs.Number
import HrirAtlas.Proofs.Stage
import HrirAtlas.Proofs.Tensor

/-
Signals in rows. A signal is fitted to a row of any length, cut off or continued by silence. A
converter that was set between two whole rates raises and lowers by the rates in lowest terms, and
is the identity exactly between equal rates.
-/

namespace HrirAtlas

/-! ## Fitted signals -/

namespace Signal

variable {α : Type}

/-- Writing over the head of a row keeps its length. -/
theorem size_of_writeFull {row out : Array α} {values : Tensor α} (hvalues : values.Full) {count : Nat}
    (h : writeHead row count values = .ok out) : out.size = row.size := by
  obtain ⟨head, hhead, rfl⟩ := except_map_ok h
  have hsize := hvalues.size_spread hhead
  unfold overwrite
  rw [Array.size_append, Array.size_extract]
  omega

theorem size_of_writeHead {row values out : Array α} {count : Nat}
    (h : writeHead row count (Tensor.row values) = .ok out) : out.size = row.size :=
  size_of_writeFull (Tensor.full_row values) h

variable [Scalar α]

/-- The signal cut to a length, or continued to it by silence. -/
def fitted (length : Nat) (signal : Array α) : Array α :=
  Array.ofFn fun place : Fin length => signal.getD place 0.0

theorem size_fitted (length : Nat) (signal : Array α) : (fitted length signal).size = length := Array.size_ofFn

theorem getElem_fitted {length place : Nat} {signal : Array α} (h : place < (fitted length signal).size) :
    (fitted length signal)[place] = signal.getD place 0.0 := by
  unfold fitted at h ⊢
  exact Array.getElem_ofFn h

/-- The head of a fitted signal is the signal fitted to the head. -/
theorem extract_fitted {length head : Nat} (h : head ≤ length) (signal : Array α) :
    (fitted length signal).extract 0 head = fitted head signal := by
  refine Array.ext (by rw [Array.size_extract, size_fitted, size_fitted]; omega) fun i h1 h2 => ?_
  rw [Array.getElem_extract, getElem_fitted, getElem_fitted, Nat.zero_add]

/-- A response written over the head of a silent row. -/
theorem writeHead_silent {length points : Nat} {signal : Array α} (hsize : signal.size = points)
    (hle : points ≤ length) :
    writeHead (Array.replicate length 0.0) points ⟨[points], signal⟩ = .ok (fitted length signal) := by
  unfold writeHead
  rw [Array.size_replicate, Nat.min_eq_left hle, Tensor.spread_self hsize]
  refine congrArg Except.ok (Array.ext ?_ fun i h1 h2 => ?_)
  · unfold overwrite
    rw [Array.size_append, Array.size_extract, Array.size_replicate, size_fitted]
    omega
  · unfold overwrite at h1 ⊢
    rw [Array.getElem_append, getElem_fitted]
    by_cases hi : i < signal.size
    · rw [dif_pos hi, Array.getD_eq_getD_getElem?, Array.getElem?_eq_getElem hi, Option.getD_some]
    · rw [dif_neg hi, Array.getElem_extract, Array.getElem_replicate, Array.getD_eq_getD_getElem?,
        Array.getElem?_eq_none (by omega), Option.getD_none]

end Signal

namespace Resampler

variable {α : Type} [Signal α]

theorem process_eq (r : Resampler α) (signal row : Array α) :
    r.process signal row = Signal.fitted row.size (r.resampled signal) := by
  unfold process
  refine Array.ext (by rw [Array.size_mapIdx, Signal.size_fitted]) fun i h1 h2 => ?_
  rw [Array.getElem_mapIdx, Signal.getElem_fitted]

/-! ## Rates -/

/-- The signal at another rate: as it is when the rates are equal, else filtered between the two
rates in lowest terms. -/
def atRate (source target : Nat) (signal : Array α) : Array α :=
  if source = target then signal
  else
    let up := target / source.gcd target
    let down := source / source.gcd target
    Signal.convert (Signal.lowpass up down) up down signal

theorem div_gcd_inj {source target : Nat} :
    target / source.gcd target = source / source.gcd target ↔ source = target := by
  rw [Nat.div_left_inj (Nat.gcd_dvd_right source target) (Nat.gcd_dvd_left source target)]
  exact eq_comm

/-- Two rates divided by their common divisor are above zero, share no divisor and stand in the
ratio of the rates. -/
theorem lowest_terms {source target : Nat} (hsource : 0 < source) (htarget : 0 < target) :
    (0 < target / source.gcd target ∧ 0 < source / source.gcd target) ∧
    (target / source.gcd target).Coprime (source / source.gcd target) ∧
    target / source.gcd target * source = source / source.gcd target * target := by
  have hgcd : 0 < source.gcd target := Nat.gcd_pos_of_pos_left _ hsource
  refine ⟨⟨?_, ?_⟩, ?_, ?_⟩
  · exact Nat.div_pos (Nat.gcd_le_right _ htarget) hgcd
  · exact Nat.div_pos (Nat.gcd_le_left _ hsource) hgcd
  · exact (Nat.coprime_div_gcd_div_gcd hgcd).symm
  · calc target / source.gcd target * source
        = target / source.gcd target * (source / source.gcd target * source.gcd target) := by
          rw [Nat.div_mul_cancel (Nat.gcd_dvd_left source target)]
      _ = source / source.gcd target * (target / source.gcd target * source.gcd target) := by ring
      _ = source / source.gcd target * target := by rw [Nat.div_mul_cancel (Nat.gcd_dvd_right source target)]

/-- The converter between two whole rates. -/
def between (source target : Nat) : Resampler α where
  sourceRate := source
  targetRate := target
  up := target / source.gcd target
  down := source / source.gcd target

theorem resampled_between (source target : Nat) (signal : Array α) :
    (between source target).resampled signal = atRate source target signal := by
  unfold resampled atRate between
  simp only [div_gcd_inj]
  rfl

/-- Rates that stand for whole numbers above zero are set, and others are refused. -/
theorem set_eq {source target : Setting α} {s t : Int} (hs : source.toInt = .ok s) (ht : target.toInt = .ok t) :
    set source target = if s ≤ 0 ∨ t ≤ 0 then .error (.rates s t) else .ok (between s.toNat t.toNat) := by
  unfold set
  rw [hs, ht]
  show (if s ≤ 0 ∨ t ≤ 0 then _ else _) = if s ≤ 0 ∨ t ≤ 0 then _ else _
  split
  · rfl
  · rename_i hpos
    obtain ⟨a, rfl⟩ := Int.eq_ofNat_of_zero_le (show 0 ≤ s by omega)
    obtain ⟨b, rfl⟩ := Int.eq_ofNat_of_zero_le (show 0 ≤ t by omega)
    rfl

theorem set_int (source target : Int) : set (.int source : Setting α) (.int target) =
    if source ≤ 0 ∨ target ≤ 0 then .error (.rates source target) else .ok (between source.toNat target.toNat) :=
  set_eq (Setting.toInt_int source) (Setting.toInt_int target)

theorem eq_between_of_set {source target : Int} {r : Resampler α} (h : set (.int source) (.int target) = .ok r) :
    (0 < source ∧ 0 < target) ∧ r = between source.toNat target.toNat := by
  rw [set_int] at h
  split at h
  · cases h
  · rename_i hpos
    cases h
    exact ⟨by omega, rfl⟩

theorem resampled_of_set {source target : Int} {r : Resampler α} (h : set (.int source) (.int target) = .ok r) :
    0 < source ∧ 0 < target ∧ ∀ signal, r.resampled signal = atRate source.toNat target.toNat signal := by
  obtain ⟨⟨hsource, htarget⟩, rfl⟩ := eq_between_of_set h
  exact ⟨hsource, htarget, resampled_between source.toNat target.toNat⟩

/-- The factors of a converter that was set are the rates in lowest terms. -/
theorem factors_of_set {source target : Nat} {r : Resampler α} (h : set (.int source) (.int target) = .ok r) :
    (0 < r.up ∧ 0 < r.down) ∧ r.up.Coprime r.down ∧ r.up * source = r.down * target := by
  obtain ⟨⟨hsource, htarget⟩, rfl⟩ := eq_between_of_set h
  exact lowest_terms (by omega) (by omega)

end Resampler

end HrirAtlas
