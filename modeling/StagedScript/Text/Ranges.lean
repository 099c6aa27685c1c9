/-!
# Sets of characters as ranges

A property of characters is a list of closed ranges of code points in ascending order. The tables
beside this module are such lists; membership is one pass that ends at the first range past the
code point.

**Results.** On an ascending list `covers` is membership in one of the ranges (`covers_iff`).
-/

namespace StagedScript
namespace Text

/-- Closed ranges of code points. -/
abbrev CodeRanges :=
  List (Nat × Nat)

namespace CodeRanges

/-- Whether a code point lies in one of the ranges, which are in ascending order. -/
def covers : CodeRanges → Nat → Bool
  | [], _ => false
  | (low, high) :: rest, point =>
      if point < low then
        false
      else if point ≤ high then
        true
      else
        covers rest point

/-- The ranges ascend and do not overlap. -/
def Ascending (ranges : CodeRanges) : Prop :=
  ranges.Pairwise fun earlier later => earlier.2 < later.1

/-- A covered code point lies in a range, whatever the order of the ranges. -/
theorem exists_range_of_covers {ranges : CodeRanges} {point : Nat}
    (h : ranges.covers point = true) :
    ∃ range ∈ ranges, range.1 ≤ point ∧ point ≤ range.2 := by
  induction ranges with
  | nil =>
      simp [covers] at h
  | cons range rest ih =>
      obtain ⟨low, high⟩ := range
      unfold covers at h
      split at h
      · simp at h
      · split at h
        · exact ⟨(low, high), by simp, by omega, by omega⟩
        · obtain ⟨range, hmem, hrange⟩ := ih h
          exact ⟨range, by simp [hmem], hrange⟩

/-- On ascending ranges, to be covered is to lie in a range. -/
theorem covers_iff {ranges : CodeRanges} (ascending : ranges.Ascending)
    (valid : ∀ range ∈ ranges, range.1 ≤ range.2) (point : Nat) :
    ranges.covers point = true ↔
      ∃ range ∈ ranges, range.1 ≤ point ∧ point ≤ range.2 := by
  refine ⟨exists_range_of_covers, ?_⟩
  rintro ⟨range, hmem, hlow, hhigh⟩
  induction ranges with
  | nil =>
      simp at hmem
  | cons first rest ih =>
      obtain ⟨low, high⟩ := first
      have later := List.pairwise_cons.1 ascending
      have hfirst : low ≤ high := valid (low, high) (by simp)
      unfold covers
      rcases List.mem_cons.1 hmem with rfl | hrest
      · simp_all
      · have : high < range.1 := later.1 range hrest
        have hnot : ¬ point < low := by omega
        have hnot' : ¬ point ≤ high := by omega
        simp only [hnot, hnot', if_false]
        exact ih later.2 (fun r hr => valid r (by simp [hr])) hrest

end CodeRanges
end Text
end StagedScript
