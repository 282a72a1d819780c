import HrirAtlas.Layout.Detect
import HrirAtlas.Proofs.Layout.Cluster

/-
Detection does not depend on the order in which positions are given: it only asks for distinct
coordinates along an axis. So layouts, report and fault are those of any other order.
-/

namespace HrirAtlas.Layout

variable {α : Type} [Scalar α] {P : α → Prop} {positions others : List (Spherical α)}

theorem judgeShell_eq_of_perm (h : Scalar.ExactOn P) (hP : ∀ p ∈ positions, ∀ axis : Axis, P (axis.of p))
    (hp : positions.Perm others) (distance : α) : judgeShell positions distance = judgeShell others distance := by
  unfold judgeShell
  rw [Cluster.along_eq_of_perm h .elevation _ _ (fun p hp => hP p hp .elevation) hp]
  refine List.map_congr_left fun elevation _ => ?_
  rw [Cluster.along_eq_of_perm h .azimuth _ _ (fun p hp => hP p hp .azimuth) hp]

theorem ofShells_eq_of_perm (h : Scalar.ExactOn P) (hP : ∀ p ∈ positions, ∀ axis : Axis, P (axis.of p))
    (hp : positions.Perm others) : ∀ distances : List α, ofShells positions distances = ofShells others distances
  | [] => rfl
  | distance :: distances => by
    unfold ofShells
    rw [judgeShell_eq_of_perm h hP hp distance, ofShells_eq_of_perm h hP hp distances]

theorem detect_eq_of_perm (h : Scalar.ExactOn P) (hP : ∀ p ∈ positions, ∀ axis : Axis, P (axis.of (foldSeam p)))
    (hp : positions.Perm others) : detect positions = detect others := by
  have hfolded : (positions.map foldSeam).Perm (others.map foldSeam) := hp.map _
  have hP' : ∀ p ∈ positions.map foldSeam, ∀ axis : Axis, P (axis.of p) := by
    intro p hp axis
    obtain ⟨q, hq, rfl⟩ := List.mem_map.1 hp
    exact hP q hq axis
  unfold detect
  simp only [Cluster.along_eq_of_perm h .distance _ _ (fun p hp => hP' p hp .distance) hfolded,
    ofShells_eq_of_perm h hP' hfolded]

end HrirAtlas.Layout
