import HrirAtlas.Proofs.Layout.Faults
import HrirAtlas.Proofs.Layout.Finest
import HrirAtlas.Proofs.Layout.Shell

/-
Detection never stops for arithmetic or for an index. Azimuths that are told apart on a circle leave
gaps above zero, so every count has a step. Elevations that are told apart bound the number of steps
from above, so a step is more than half of the tolerance; a row that is off the grid by the tolerance
is then less than two steps below its lowest row, which a grid of three rows or more still reaches
from the end. Every other check answers with a fault of layouts.
-/

namespace HrirAtlas.Layout

/-! ## Azimuths of a row -/

/-- Azimuths of one turn, counted from a tolerance below zero. -/
def WithinTurn (azimuth : ℚ) : Prop := -0.1 < azimuth ∧ azimuth ≤ 359.9

theorem gaps_pos {first : ℚ} {rest : List ℚ} (hapart : (first :: rest).Pairwise fun x y => x + 0.1 < y)
    (hturn : ∀ azimuth ∈ first :: rest, WithinTurn azimuth) :
    ∀ gap ∈ gapsAfter (first + 360.0) first rest, 0 < gap := by
  have hincreasing : (first :: rest ++ [first + 360.0]).Pairwise (· < ·) := by
    rw [List.pairwise_append]
    refine ⟨hapart.imp fun {x y} hxy => ?_, List.pairwise_singleton _ _, fun x hx y hy => ?_⟩
    · norm_num at hxy
      linarith
    · rw [List.mem_singleton.1 hy]
      have hfirst := (hturn first List.mem_cons_self).1
      have hlast := (hturn x hx).2
      norm_num at hfirst hlast ⊢
      linarith
  rw [forall_mem_gapsAfter]
  exact hincreasing.isChain.imp fun x y hxy => sub_pos.2 hxy

theorem offGrid_answers (tolerance : ℚ) {step : ℚ} (hstep : step ≠ 0) (value : ℚ) :
    ∃ off, offGrid tolerance step value = .ok off := by
  obtain ⟨multiple, hmultiple, -⟩ := Exact.exists_round (value / step)
  unfold offGrid
  rw [Exact.divide_eq _ hstep]
  show ∃ off, (Scalar.round (value / step) >>= fun multiple => _) = .ok off
  rw [hmultiple]
  exact ⟨_, rfl⟩

theorem allOnGrid_answers (tolerance : ℚ) {step : ℚ} (hstep : step ≠ 0) : ∀ values : List ℚ,
    ∃ onGrid, allOnGrid tolerance step values = .ok onGrid
  | [] => ⟨true, rfl⟩
  | value :: rest => by
    obtain ⟨off, hoff⟩ := offGrid_answers tolerance hstep value
    unfold allOnGrid
    rw [hoff]
    cases off with
    | true => exact ⟨false, rfl⟩
    | false => exact allOnGrid_answers tolerance hstep rest

theorem azimuthCount?_answers (tolerance : ℚ) {azimuths : List ℚ} (hapart : azimuths.Pairwise fun x y => x + 0.1 < y)
    (hturn : ∀ azimuth ∈ azimuths, WithinTurn azimuth) : ∃ found, azimuthCount? tolerance azimuths = .ok found := by
  match azimuths, hapart, hturn with
  | [], _, _ => exact ⟨none, rfl⟩
  | [_], _, _ => exact ⟨none, rfl⟩
  | first :: second :: rest, hapart, hturn =>
    have hleast : 0 < Scalar.least (second - first) (gapsAfter (first + 360.0) second rest) :=
      gaps_pos hapart hturn _ (isLeast_least (second - first) (gapsAfter (first + 360.0) second rest)).1
    generalize hgap : Scalar.least (second - first) (gapsAfter (first + 360.0) second rest) = least at hleast
    obtain ⟨count, hcount, -⟩ := Exact.exists_round (360.0 / least)
    unfold azimuthCount?
    simp only [hgap, Exact.divide_eq _ hleast.ne', hcount, bind, Except.bind, pure, Except.pure]
    split
    · exact ⟨none, rfl⟩
    rename_i hbounds
    split
    · exact ⟨none, rfl⟩
    have hstep : (360.0 : ℚ) / Scalar.ofInt count ≠ 0 := by
      have hpos : (0 : ℚ) < count := by
        unfold minAzimuths at hbounds
        exact_mod_cast (show 0 < count by omega)
      exact div_ne_zero (by norm_num) hpos.ne'
    obtain ⟨onGrid, hgrid⟩ := allOnGrid_answers tolerance hstep (first :: second :: rest)
    rw [hgrid]
    exact ⟨_, rfl⟩

/-! ## Rows of a shell -/

/-- No elevation is below the lowest row of a grid that it fits by more than the tolerance. -/
theorem FitsGrid.ge {tolerance top : ℚ} {elevations : List ℚ} {count : Nat}
    (h : FitsGrid tolerance top elevations count) (htop : 0 < top) {elevation : ℚ} (hmem : elevation ∈ elevations) :
    -top - tolerance ≤ elevation := by
  obtain ⟨i, hi, rfl⟩ := List.mem_iff_getElem.1 hmem
  have hroom := h.room
  have hcount : (0 : ℚ) < count := by exact_mod_cast h.pos
  have hrow : (i : ℚ) * (2 * top / count) ≤ count * (2 * top / count) :=
    mul_le_mul_of_nonneg_right (by exact_mod_cast (show i ≤ count by omega)) (by positivity)
  rw [mul_div_cancel₀ _ hcount.ne'] at hrow
  have hnear := (abs_le.1 (h.near i hi)).1
  linarith

/-- Usable rows in ascending order and told apart, none beyond the pole. -/
structure Ascending (rows : List (ℚ × Nat)) (lowest highest : ℚ) : Prop where
  apart : (rows.map Prod.fst).Pairwise fun x y => x + 0.1 < y
  first : (rows.map Prod.fst).head? = some lowest
  last : (rows.map Prod.fst).getLast? = some highest
  proper : highest ≤ 90

section Rows

variable {rows : List (ℚ × Nat)} {lowest highest : ℚ}

theorem Ascending.lowest_mem (h : Ascending rows lowest highest) : lowest ∈ rows.map Prod.fst :=
  List.mem_of_head? h.first

theorem Ascending.le_highest (h : Ascending rows lowest highest) {elevation : ℚ}
    (hmem : elevation ∈ rows.map Prod.fst) : elevation ≤ highest := by
  obtain ⟨init, hinit⟩ := List.getLast?_eq_some_iff.1 h.last
  have happart := h.apart
  rw [hinit] at happart hmem
  rcases List.mem_append.1 hmem with hmem | hmem
  · have hbelow := (List.pairwise_append.1 happart).2.2 elevation hmem highest (List.mem_singleton.2 rfl)
    norm_num at hbelow
    linarith
  · exact (List.mem_singleton.1 hmem).le

/-- From the top down, the rows are a list as the search for a step takes it. -/
theorem Ascending.exists_descending (h : Ascending rows lowest highest) (hseveral : 2 ≤ rows.length) :
    ∃ second rest, (rows.map Prod.fst).Perm (highest :: second :: rest) ∧
      (highest :: second :: rest).Pairwise fun x y => y + 0.1 < x := by
  have hlast := h.last
  have happart := List.pairwise_reverse.2 h.apart
  have hperm := (List.reverse_perm (rows.map Prod.fst)).symm
  have hlength : 2 ≤ (rows.map Prod.fst).reverse.length := by simpa using hseveral
  rw [List.getLast?_eq_head?_reverse] at hlast
  match hreverse : (rows.map Prod.fst).reverse, hlength with
  | top :: second :: rest, _ =>
    rw [hreverse] at hlast happart hperm
    obtain rfl : top = highest := Option.some.inj hlast
    exact ⟨second, rest, hperm, happart⟩

/-- The step that is found for the rows divides the field, and neither it nor the lowest row is further
off than the tolerance allows. -/
theorem Ascending.division (h : Ascending rows lowest highest) (hseveral : 2 ≤ rows.length) (hpos : 0 < highest) :
    elevationStep? angleTolerance (rows.map Prod.fst) = .ok none ∨
      ∃ count : Nat, elevationStep? angleTolerance (rows.map Prod.fst) = .ok (some (2 * highest / count)) ∧
        (0 < count ∧ count ≤ 180) ∧ (count - 1) * 0.1 ≤ 2 * highest ∧
        ∀ elevation ∈ rows.map Prod.fst, -highest - 0.1 ≤ elevation := by
  obtain ⟨second, rest, hperm, happart⟩ := h.exists_descending hseveral
  have hdescending : (highest :: second :: rest).Pairwise (· > ·) := happart.imp fun {x y} hxy => by
    norm_num at hxy
    linarith
  rcases elevationStep?_answers angleTolerance hperm hdescending hpos with
    ⟨count, ⟨⟨⟨hle, hfew⟩, hfits⟩, -⟩, hfound⟩ | ⟨-, hfound⟩
  · refine .inr ⟨count, hfound, ⟨hfits.pos, hle⟩, ?_, fun elevation hmem => hfits.ge hpos (hperm.mem_iff.1 hmem)⟩
    have hgap := (List.pairwise_cons.1 happart).1 second List.mem_cons_self
    have hcount : (1 : ℚ) ≤ count := by exact_mod_cast hfits.pos
    have hmul : (count - 1 : ℚ) * 0.1 ≤ (count - 1) * (highest - second) :=
      mul_le_mul_of_nonneg_left (by linarith) (by linarith)
    linarith
  · exact .inl hfound

/-- Before a row is written, the grid has two steps or more, each at least half as wide as the tolerance,
and no row is below it by more than the tolerance. -/
theorem Ascending.grid (h : Ascending rows lowest highest) {step evLimit quotient : ℚ} {intervals : Int}
    (hunderway : Underway rows highest step evLimit quotient intervals) :
    0.05 ≤ step ∧ 2 ≤ intervals ∧ highest ≤ evLimit ∧ Scalar.round (2 * evLimit / step) = .ok intervals ∧
      ∀ elevation ∈ rows.map Prod.fst, -highest - 0.1 ≤ elevation := by
  have hpos : 0 < highest := Exact.pos_of_not_le hunderway.above
  have hstep : 0 < step := Exact.pos_of_not_le hunderway.step_pos
  have hsize : 2 ≤ intervals := by
    have hsize := hunderway.size
    unfold minRows at hsize
    omega
  have hlimit : evLimit = highest ∨ evLimit = 90 ∧ 89.999 < highest ∧ highest ≤ 90 := by
    rw [hunderway.limit, poleElevation_eq]
    split
    · rename_i hpole; exact .inr ⟨by norm_num, hpole, h.proper⟩
    · exact .inl rfl
  have hcount : Scalar.round (2 * evLimit / step) = .ok intervals := by
    have hdivided := hunderway.divided
    rw [Exact.divide_eq _ hstep.ne', show (2.0 : ℚ) = 2 by norm_num] at hdivided
    rw [Except.ok.inj hdivided]
    exact hunderway.count
  rcases h.division (not_lt.1 hunderway.several) hpos with hnone | ⟨k, hfound, hbounds, hfew, hlow⟩
  · cases hnone.symm.trans hunderway.division
  obtain rfl : step = 2 * highest / k := Option.some.inj (Except.ok.inj (hunderway.division.symm.trans hfound))
  have hk : (2 : ℚ) ≤ k := by
    have hsame := Except.ok.inj (hcount.symm.trans (round_steps hbounds hpos hlimit))
    exact_mod_cast (show 2 ≤ k by omega)
  refine ⟨?_, hsize, ?_, hcount, hlow⟩
  · rw [le_div_iff₀ (by linarith)]
    norm_num at hfew ⊢
    linarith
  · rcases hlimit with heq | ⟨heq, -, hle⟩ <;> rw [heq]
    exact hle

/-- A row's index reaches no further beyond the start than the grid has rows. -/
theorem Ascending.exists_index (h : Ascending rows lowest highest) {step evLimit quotient : ℚ} {intervals : Int}
    (hunderway : Underway rows highest step evLimit quotient intervals) {elevation : ℚ}
    (hmem : elevation ∈ rows.map Prod.fst) :
    ∃ index, rowIndex evLimit step elevation = .ok index ∧ -(intervals + 1) ≤ index ∧ index < intervals + 1 := by
  obtain ⟨hwide, hsize, hlimit, hcount, hlow⟩ := h.grid hunderway
  have hstep : 0 < step := lt_of_lt_of_le (by norm_num) hwide
  obtain ⟨index, hindex, -⟩ := Exact.exists_round ((elevation + evLimit) / step)
  have hlower : -2 ≤ index := by
    refine Exact.round_mono ?_ (Exact.round_intCast (-2)) hindex
    have hge := hlow elevation hmem
    rw [le_div_iff₀ hstep]
    norm_num at hge hwide ⊢
    linarith
  have hupper : index ≤ intervals := by
    refine Exact.round_mono ?_ hindex hcount
    have hle := h.le_highest hmem
    rw [div_le_div_iff_of_pos_right hstep]
    linarith
  refine ⟨index, ?_, by omega, by omega⟩
  unfold rowIndex
  rw [Exact.divide_eq _ hstep.ne']
  show (Scalar.round ((elevation + evLimit) / step)).mapError Fault.arithmetic = _
  rw [hindex]
  rfl

/-- Rows that ascend and are told apart stop for nothing but a fault of layouts. -/
theorem Ascending.misfit_of_ofRows (h : Ascending rows lowest highest) {distance : ℚ} {fault : Fault ℚ}
    (hfault : ofRows distance rows lowest highest = .error fault) : Misfit fault := by
  rcases ofRows_error hfault with hmisfit | hinterrupted
  · exact hmisfit
  exfalso
  cases hinterrupted with
  | division above several cause herror =>
    rcases h.division (not_lt.1 several) (Exact.pos_of_not_le above) with hnone | ⟨count, hfound, -⟩
    · cases hnone.symm.trans herror
    · cases hfound.symm.trans herror
  | divided step evLimit step_pos cause herror =>
    cases (Exact.divide_eq _ (Exact.pos_of_not_le step_pos).ne').symm.trans herror
  | count quotient cause herror =>
    obtain ⟨index, hindex, -⟩ := Exact.exists_round quotient
    cases hindex.symm.trans herror
  | @written step evLimit quotient intervals underway herror =>
    have hsize := (h.grid underway).2.1
    have hreach : ∀ row ∈ rows, ∃ index, rowIndex evLimit step row.1 = .ok index ∧
        -((List.replicate (intervals + 1).toNat (0 : Int)).length : Int) ≤ index ∧
          index < (List.replicate (intervals + 1).toNat (0 : Int)).length := fun row hrow => by
      obtain ⟨index, hindex, hlower, hupper⟩ := h.exists_index underway (List.mem_map_of_mem hrow)
      rw [List.length_replicate]
      exact ⟨index, hindex, by omega, by omega⟩
    obtain ⟨measured, hmeasured⟩ := writeRows_answers hreach
    cases hmeasured.symm.trans herror
  | start underway herror =>
    obtain ⟨index, hindex, -⟩ := h.exists_index underway h.lowest_mem
    cases hindex.symm.trans herror
  | @mirrored step evLimit quotient intervals underway measured evStart hwritten hstart herror =>
    have hsize := (h.grid underway).2.1
    have hlength : measured.length = (intervals + 1).toNat := by
      rw [length_writeRows hwritten, List.length_replicate]
    obtain ⟨index, hindex, -, hupper⟩ := h.exists_index underway h.lowest_mem
    obtain rfl : index = evStart := Except.ok.inj (hindex.symm.trans hstart)
    have hroom : 0 + index.toNat ≤ measured.length := by omega
    obtain ⟨final, hfinal⟩ := mirrorCounts_answers (α := ℚ) hroom
    cases hfinal.symm.trans herror

end Rows

/-! ## Detection -/

theorem withinTurn_foldSeam {p : Spherical ℚ} (h : 0 ≤ p.azimuth ∧ p.azimuth < 360) :
    WithinTurn (foldSeam p).azimuth := by
  unfold WithinTurn foldSeam
  rw [angleTolerance_eq]
  split
  · rename_i hseam
    show -0.1 < p.azimuth - 360.0 ∧ p.azimuth - 360.0 ≤ 359.9
    norm_num at hseam ⊢
    constructor <;> linarith
  · rename_i hseam
    norm_num at hseam ⊢
    constructor <;> linarith

section Shell

variable {positions : List (Spherical ℚ)} (hturn : ∀ p ∈ positions, WithinTurn p.azimuth ∧ p.elevation ≤ 90)

include hturn

theorem misfit_of_judgeShell {distance : ℚ} {fault : Fault ℚ} (h : .faulty fault ∈ judgeShell positions distance) :
    Misfit fault := by
  obtain ⟨elevation, -, hjudged⟩ := List.mem_map.1 h
  rcases judgeRow_faulty hjudged with hmisfit | ⟨cause, herror, -⟩
  · exact hmisfit
  have happart : (Cluster.along .azimuth ⟨none, some elevation, some distance⟩ Cluster.tolerances positions).Pairwise
      fun x y => x + 0.1 < y := Cluster.pairwise_distinct_apart (by norm_num) _
  obtain ⟨found, hfound⟩ := azimuthCount?_answers angleTolerance happart fun azimuth hmem => by
    obtain ⟨p, hp, -, rfl⟩ := mem_of_mem_along hmem
    exact (hturn p hp).1
  cases hfound.symm.trans herror

theorem misfit_of_ofShell {distance : ℚ} {fault : Fault ℚ}
    (h : ofShell distance (judgeShell positions distance) = .error fault) : Misfit fault := by
  rcases ofShell_error h with hrow | ⟨rows, lowest, highest, hrows, hfirst, hlast, hfault⟩
  · exact misfit_of_judgeShell hturn hrow
  · obtain ⟨p, hp, hsame⟩ := exists_position_of_usableRows hrows (List.mem_of_getLast? hlast)
    have hascending : Ascending rows lowest highest :=
      ⟨apart_usableRows hrows, hfirst, hlast, hsame ▸ (hturn p hp).2⟩
    exact hascending.misfit_of_ofRows hfault

end Shell

/-- Where directions have no layout, the fault tells what does not fit. -/
theorem misfit_of_detect {positions : List (Spherical ℚ)} (hazimuth : ∀ p ∈ positions, 0 ≤ p.azimuth ∧ p.azimuth < 360)
    (helevation : ∀ p ∈ positions, |p.elevation| ≤ 90) {fault : Fault ℚ} (h : (detect positions).2 = .error fault) :
    Misfit fault := by
  rcases detect_error h with hmisfit | ⟨distance, hshell⟩
  · exact hmisfit
  refine misfit_of_ofShell (fun p hp => ?_) hshell
  obtain ⟨q, hq, rfl⟩ := List.mem_map.1 hp
  rw [foldSeam_elevation]
  exact ⟨withinTurn_foldSeam (hazimuth q hq), (abs_le.1 (helevation q hq)).2⟩

end HrirAtlas.Layout
