import Mathlib.Data.List.Basic
import TypeCatalog.Text.Identifier
import TypeCatalog.Text.LetterCase

/-!
What capitals do to letters and numbers. The tables of code points are checked range by range, which
says something of each character in the ranges. Main statements: `toUpper_of_number` (a number has
no capitals) and `toUpper_of_letter` (the capitals of a letter start with a letter).
-/

namespace TypeCatalog.Text
namespace CodePoints

/-! ### Ranges of code points -/

-- `Nat.ble` and not `≤`, since the kernel runs these checks over whole tables

/-- Whether ranges hold all code points from `low` to `high`. -/
def coversAll : List Range → Nat → Nat → Bool
  | [], _, _ => false
  | (first, last) :: rest, low, high =>
    Nat.ble first low && (Nat.ble high last || coversAll rest low high)

/-- Whether ranges hold no code point from `low` to `high`. -/
def coversNone : List Range → Nat → Nat → Bool
  | [], _, _ => true
  | (first, last) :: rest, low, high =>
    Nat.blt high first || (Nat.blt last low && coversNone rest low high)

variable {ranges : List Range} {shifts : List Shift} {low high c : Nat}

theorem covers_of_coversAll (h : coversAll ranges low high = true) (hlow : low ≤ c)
    (hhigh : c ≤ high) : covers ranges c = true := by
  induction ranges with
  | nil => cases h
  | cons r rest ih =>
    obtain ⟨first, last⟩ := r
    simp only [coversAll, Bool.and_eq_true, Bool.or_eq_true, Nat.ble_eq] at h
    obtain ⟨hfirst, hlast | hrest⟩ := h
    · have hc : first ≤ c ∧ c ≤ last := by omega
      simp [covers, hc.2, Nat.not_lt.2 hc.1]
    · have hc : ¬ c < first := by omega
      simp [covers, hc, ih hrest]

theorem covers_of_coversNone (h : coversNone ranges low high = true) (hlow : low ≤ c)
    (hhigh : c ≤ high) : covers ranges c = false := by
  induction ranges with
  | nil => rfl
  | cons r rest ih =>
    obtain ⟨first, last⟩ := r
    simp only [coversNone, Bool.and_eq_true, Bool.or_eq_true, Nat.blt_eq] at h
    rcases h with hfirst | ⟨hlast, hrest⟩
    · have hc : c < first := by omega
      simp [covers, hc]
    · have hc : ¬ c ≤ last := by omega
      simp [covers, hc, ih hrest]

/-- What holds of all ranges that hold a code point holds of one around it. -/
theorem exists_range_of_covers (h : covers ranges c = true) :
    ∃ r ∈ ranges, r.1 ≤ c ∧ c ≤ r.2 := by
  induction ranges with
  | nil => cases h
  | cons r rest ih =>
    obtain ⟨first, last⟩ := r
    rw [covers] at h
    split at h
    · cases h
    · rename_i hfirst
      simp only [Bool.or_eq_true, decide_eq_true_eq] at h
      rcases h with hlast | hrest
      · exact ⟨_, List.mem_cons_self, Nat.not_lt.1 hfirst, hlast⟩
      · obtain ⟨r, hr, hc⟩ := ih hrest
        exact ⟨r, List.mem_cons_of_mem _ hr, hc⟩

/-- A code point either stays or has the distance of a stretch that it is in. -/
theorem shift_cases (shifts : List Shift) (c : Nat) : shift shifts c = 0 ∨
    ∃ s ∈ shifts, s.1 ≤ c ∧ c ≤ s.2.1 ∧ (c - s.1) % s.2.2.1 = 0 ∧
      shift shifts c = s.2.2.2 := by
  induction shifts with
  | nil => exact .inl rfl
  | cons s rest ih =>
    obtain ⟨first, last, step, distance⟩ := s
    rw [shift]
    split
    · exact .inl rfl
    · rename_i hfirst
      split
      · rename_i hc
        exact .inr ⟨_, List.mem_cons_self, Nat.not_lt.1 hfirst, hc.1, hc.2, rfl⟩
      · rcases ih with h | ⟨s, hs, hc⟩
        · exact .inl h
        · exact .inr ⟨s, List.mem_cons_of_mem _ hs, hc⟩

end CodePoints

/-! ### The tables -/

/-- Whether all code points from `low` to `high` are letters. -/
def allLetters (low high : Nat) : Bool :=
  CodePoints.coversAll alphanumericRanges low high && CodePoints.coversNone numberRanges low high

/-- Whether the code points of a stretch are no numbers and are mapped to letters. Where letters are
mapped to a range with gaps, each of them is looked at. -/
def mapsToLetters : CodePoints.Shift → Bool
  | (first, last, step, distance) =>
    CodePoints.coversNone numberRanges first last &&
      (allLetters (first + distance).toNat (last + distance).toNat ||
        (List.range (last + 1 - first)).all fun i =>
          !Nat.beq (i % step) 0 ||
            allLetters ((first + i : Nat) + distance).toNat ((first + i : Nat) + distance).toNat)

theorem capitalShifts_mapToLetters : capitalShifts.all mapsToLetters = true := by
  decide +kernel

/-- Only letters have capitals of several characters, and these start with a letter. -/
theorem capitalExpansions_startWithLetters : (capitalExpansions.all fun e =>
    CodePoints.coversNone numberRanges e.1 e.1 && e.2.head?.any fun c => allLetters c c) = true := by
  decide +kernel

/-- There are no surrogates among the alphanumeric code points. -/
theorem alphanumericRanges_valid : (alphanumericRanges.all fun r =>
    Nat.blt r.2 0xd800 || (Nat.blt 0xdfff r.1 && Nat.blt r.2 0x110000)) = true := by
  decide +kernel

section
variable {low high n : Nat} {c : Char}

theorem toNat_ofNat (h : CodePoints.covers alphanumericRanges n = true) :
    (Char.ofNat n).toNat = n := by
  obtain ⟨r, hr, hlow, hhigh⟩ := CodePoints.exists_range_of_covers h
  have hrange := List.all_eq_true.1 alphanumericRanges_valid r hr
  simp only [Bool.or_eq_true, Bool.and_eq_true, Nat.blt_eq] at hrange
  have hvalid : n.isValidChar := by
    rcases hrange with hbefore | ⟨hbehind, hlast⟩
    · exact .inl (by omega)
    · exact .inr ⟨by omega, by omega⟩
  rw [Char.ofNat, dif_pos hvalid]
  rfl

theorem isLetter_of_allLetters (h : allLetters low high = true) (hlow : low ≤ n)
    (hhigh : n ≤ high) : isLetter (Char.ofNat n) = true := by
  simp only [allLetters, Bool.and_eq_true] at h
  have hall := CodePoints.covers_of_coversAll h.1 hlow hhigh
  have hnone := CodePoints.covers_of_coversNone h.2 hlow hhigh
  rw [isLetter, isAlphanumeric, isNumber, toNat_ofNat hall, hall, hnone]
  rfl

theorem capitals_of_lookup {e : List Nat} (h : capitalExpansions.lookup c.toNat = some e) :
    isNumber c = false ∧ ∃ n more, e = n :: more ∧ isLetter (Char.ofNat n) = true := by
  obtain ⟨before, behind, htable, -⟩ := List.lookup_eq_some_iff.1 h
  have hmem : (c.toNat, e) ∈ capitalExpansions := by simp [htable]
  have hchecked := List.all_eq_true.1 capitalExpansions_startWithLetters _ hmem
  rw [Bool.and_eq_true] at hchecked
  refine ⟨CodePoints.covers_of_coversNone hchecked.1 (Nat.le_refl _) (Nat.le_refl _), ?_⟩
  cases e with
  | nil => cases hchecked.2
  | cons n more =>
    exact ⟨n, more, rfl, isLetter_of_allLetters hchecked.2 (Nat.le_refl _) (Nat.le_refl _)⟩

theorem capital_of_shift (h : CodePoints.shift capitalShifts c.toNat ≠ 0) :
    isNumber c = false ∧
      isLetter (Char.ofNat (c.toNat + CodePoints.shift capitalShifts c.toNat).toNat) = true := by
  obtain ⟨⟨first, last, step, distance⟩, hs, hfirst, hlast, hstep, hdistance⟩ :=
    (CodePoints.shift_cases capitalShifts c.toNat).resolve_left h
  have hchecked := List.all_eq_true.1 capitalShifts_mapToLetters _ hs
  simp only at hfirst hlast hstep hdistance
  simp only [mapsToLetters, Bool.and_eq_true, Bool.or_eq_true] at hchecked
  rw [hdistance]
  refine ⟨CodePoints.covers_of_coversNone hchecked.1 hfirst hlast, ?_⟩
  rcases hchecked.2 with hrange | hpoints
  · exact isLetter_of_allLetters hrange (by omega) (by omega)
  · have hpoint := List.all_eq_true.1 hpoints (c.toNat - first) (List.mem_range.2 (by omega))
    rw [hstep, Nat.add_sub_cancel' hfirst] at hpoint
    exact isLetter_of_allLetters hpoint (Nat.le_refl _) (Nat.le_refl _)

/-- A number has no capitals. -/
theorem toUpper_of_number (h : isNumber c = true) : toUpper c = [c] := by
  have hexpansion : capitalExpansions.lookup c.toNat = none :=
    Option.eq_none_iff_forall_ne_some.2 fun e he => by
      rw [(capitals_of_lookup he).1] at h
      cases h
  have hshift : CodePoints.shift capitalShifts c.toNat = 0 := by
    by_contra hne
    rw [(capital_of_shift hne).1] at h
    cases h
  rw [toUpper, CodePoints.map, hexpansion]
  simp [hshift]

/-- The capitals of a letter start with a letter. -/
theorem toUpper_of_letter (h : isLetter c = true) :
    ∃ d more, toUpper c = d :: more ∧ isLetter d = true := by
  rw [toUpper, CodePoints.map]
  cases hexpansion : capitalExpansions.lookup c.toNat with
  | some e =>
    obtain ⟨-, n, more, rfl, hletter⟩ := capitals_of_lookup hexpansion
    exact ⟨_, _, rfl, hletter⟩
  | none =>
    refine ⟨_, _, rfl, ?_⟩
    by_cases hshift : CodePoints.shift capitalShifts c.toNat = 0
    · rw [hshift]
      simpa using h
    · exact (capital_of_shift hshift).2

end

end TypeCatalog.Text
