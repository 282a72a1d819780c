import HrirAtlas.Text.LowerCase
import Mathlib.Data.List.Basic

/-
Lower case is final: it leaves no character that it would change again. For a character of a row this
is a property of the table, whose rows of small letters keep clear of its rows of capitals; the two
characters with an image of their own become small letters and a mark.
-/

namespace HrirAtlas.Text

/-! ## Rows -/

/-- A row of capitals: first, last, stride, and the distance to the small letter. -/
abbrev CapitalRow := Nat × Nat × Nat × Int

/-- Whether a row has a code point. -/
def inRow (point : Nat) : CapitalRow → Bool
  | (first, last, stride, _) => first ≤ point && point ≤ last && (point - first) % stride == 0

/-- The small letter of a capital of a row. -/
def rowImage (point : Nat) (row : CapitalRow) : Nat := ((point : Int) + row.2.2.2).toNat

/-- Whether the small letters of a row are characters, and none is the capital with an image of two. -/
def hasLetters (row : CapitalRow) : Bool :=
  decide (0 ≤ (row.1 : Int) + row.2.2.2) &&
    (Nat.blt (rowImage row.2.1 row) 0x130 ||
      (Nat.blt 0x130 (rowImage row.1 row) && Nat.blt (rowImage row.2.1 row) 0xd800) ||
      (Nat.blt 0xdfff (rowImage row.1 row) && Nat.blt (rowImage row.2.1 row) 0x110000))

/-- Whether the small letters of a row keep clear of the capitals of another: all are before or after
them, or they stand between them, each being next to one. -/
def clearOf (row other : CapitalRow) : Bool :=
  Nat.blt (rowImage row.2.1 row) other.1 || Nat.blt other.2.1 (rowImage row.1 row) ||
    (Nat.beq other.2.2.1 2 && (Nat.beq row.2.2.1 2 || Nat.beq row.1 row.2.1) &&
      !Nat.beq (rowImage row.1 row % 2) (other.1 % 2))

theorem rows_clear : capitalRows.all (fun row => hasLetters row && capitalRows.all (clearOf row)) = true := by
  decide +kernel

theorem inRow_iff {point first last stride : Nat} {distance : Int} : inRow point (first, last, stride, distance) = true ↔
    first ≤ point ∧ point ≤ last ∧ (point - first) % stride = 0 := by
  simp [inRow, and_assoc]

theorem not_inRow_of_clearOf {row other : CapitalRow} {point : Nat} (h : inRow point row = true)
    (hletters : hasLetters row = true) (hclear : clearOf row other = true) : inRow (rowImage point row) other = false := by
  obtain ⟨first, last, stride, distance⟩ := row
  obtain ⟨first', last', stride', distance'⟩ := other
  rw [Bool.eq_false_iff]
  intro h'
  rw [inRow_iff] at h h'
  simp only [hasLetters, clearOf, rowImage, Bool.and_eq_true, Bool.or_eq_true, decide_eq_true_eq, Nat.blt_eq, Nat.beq_eq,
    Bool.not_eq_true', ← Bool.not_eq_true] at hletters hclear h'
  rcases hclear with (hbefore | hafter) | ⟨⟨rfl, rfl | rfl⟩, hparity⟩ <;> omega

theorem valid_of_hasLetters {row : CapitalRow} {point : Nat} (h : inRow point row = true)
    (hletters : hasLetters row = true) : (rowImage point row).isValidChar ∧ rowImage point row ≠ 0x130 := by
  obtain ⟨first, last, stride, distance⟩ := row
  rw [inRow_iff] at h
  simp only [hasLetters, rowImage, Bool.and_eq_true, Bool.or_eq_true, decide_eq_true_eq, Nat.blt_eq] at hletters
  unfold rowImage Nat.isValidChar
  dsimp only
  omega

/-! ## Characters -/

/-- A character that lower case leaves as it is: no row has it, and it is not the capital whose image
is two characters. -/
def isSmall (c : Char) : Bool := !capitalRows.any (inRow c.toNat) && c != '\u0130'

theorem lowerSimple_eq (c : Char) : lowerSimple c =
    match capitalRows.find? (inRow c.toNat) with
    | some row => Char.ofNat (rowImage c.toNat row)
    | none => c := by
  unfold lowerSimple
  rw [show (fun row : CapitalRow => match row with
    | (first, last, stride, _) => first ≤ c.toNat && c.toNat ≤ last && (c.toNat - first) % stride == 0) =
      inRow c.toNat from rfl]
  cases capitalRows.find? (inRow c.toNat) <;> rfl

theorem lowerSimple_of_isSmall {c : Char} (h : isSmall c = true) : lowerSimple c = c := by
  unfold isSmall at h
  rw [Bool.and_eq_true, Bool.not_eq_true', List.any_eq_false] at h
  rw [lowerSimple_eq, List.find?_eq_none.2 h.1]

/-- The small letter of a character is small. -/
theorem isSmall_lowerSimple {c : Char} (hc : c ≠ '\u0130') : isSmall (lowerSimple c) = true := by
  rw [lowerSimple_eq]
  cases hfind : capitalRows.find? (inRow c.toNat) with
  | none =>
    rw [List.find?_eq_none] at hfind
    unfold isSmall
    rw [Bool.and_eq_true, Bool.not_eq_true', List.any_eq_false]
    exact ⟨hfind, by simpa using hc⟩
  | some row =>
    have hrow := List.find?_some hfind
    have hsound := List.all_eq_true.1 rows_clear row (List.mem_of_find?_eq_some hfind)
    rw [Bool.and_eq_true] at hsound
    obtain ⟨hletters, hclear⟩ := hsound
    obtain ⟨hvalid, hdotted⟩ := valid_of_hasLetters hrow hletters
    have hpoint : (Char.ofNat (rowImage c.toNat row)).toNat = rowImage c.toNat row := by
      rw [Char.ofNat, dif_pos hvalid]
      rfl
    unfold isSmall
    rw [Bool.and_eq_true, Bool.not_eq_true', List.any_eq_false, hpoint]
    constructor
    · intro other hother
      rw [not_inRow_of_clearOf hrow hletters (List.all_eq_true.1 hclear other hother)]
      exact Bool.false_ne_true
    · rw [bne_iff_ne]
      intro hcapital
      have hsame : Char.ofNat (rowImage c.toNat row) = '\u0130' := hcapital
      rw [hsame] at hpoint
      exact hdotted hpoint.symm

/-! ## Texts -/

theorem lowerAfter_of_isSmall {before rest : List Char} (h : ∀ c ∈ rest, isSmall c = true) :
    lowerAfter before rest = rest := by
  induction rest generalizing before with
  | nil => rfl
  | cons c rest ih =>
    rw [List.forall_mem_cons] at h
    obtain ⟨hc, hrest⟩ := h
    have hsigma : c ≠ '\u03a3' := by
      rintro rfl
      revert hc
      decide
    have hdotted : c ≠ '\u0130' := by
      rintro rfl
      revert hc
      decide
    simp [lowerAfter, hsigma, hdotted, lowerSimple_of_isSmall hc, ih hrest]

theorem isSmall_of_mem_lowerAfter {before rest : List Char} : ∀ c ∈ lowerAfter before rest, isSmall c = true := by
  induction rest generalizing before with
  | nil => exact nofun
  | cons c rest ih =>
    unfold lowerAfter
    dsimp only
    rw [List.forall_mem_append]
    refine ⟨?_, ih⟩
    split_ifs with hsigma hlast hdotted
    · exact List.all_eq_true.1 (by decide)
    · exact List.all_eq_true.1 (by decide)
    · exact List.all_eq_true.1 (by decide)
    · simp [isSmall_lowerSimple hdotted]

/-- Lower case is final. -/
@[simp] theorem lower_lower (text : String) : lower (lower text) = lower text := by
  unfold lower
  rw [String.toList_ofList, lowerAfter_of_isSmall isSmall_of_mem_lowerAfter]

end HrirAtlas.Text
