/-!
# Sets of characters

Sets of characters as the tables of character properties give them: closed ranges of
character numbers in ascending order.

## Main Definitions

* `CodePoints`: a table of ranges, which are in order.
* `CodePoints.contains`: whether a number is in one of the ranges.

## Main Results

* `CodePoints.contains_iff`: `contains` finds every member of a table.

## Design Notes

The tables of the library follow version 17.0 of Unicode.  A look-up stops at the first
range that does not end before the number, so the order of the table is what makes it complete;
a table carries the proof that it is in order.
-/

namespace HciSerial

namespace CodePoints

/-- Ranges that are in order, with at least one number between two of them. -/
def isAscending : List (Nat × Nat) → Bool
  | [] => true
  | [range] => decide (range.1 ≤ range.2)
  | range :: next :: rest =>
    decide (range.1 ≤ range.2) && decide (range.2 + 1 < next.1) && isAscending (next :: rest)

/-- Whether a number is in the first of the ranges that does not end before it. -/
def lookUp : List (Nat × Nat) → Nat → Bool
  | [], _ => false
  | range :: rest, number =>
    if number ≤ range.2 then decide (range.1 ≤ number) else lookUp rest number

/-- Every later range begins after the end of the first. -/
theorem lt_of_isAscending {range other : Nat × Nat} {rest : List (Nat × Nat)}
    (ascending : isAscending (range :: rest) = true) (mem : other ∈ rest) :
    range.2 < other.1 := by
  induction rest generalizing range with
  | nil => simp at mem
  | cons next rest ih =>
    simp only [isAscending, Bool.and_eq_true, decide_eq_true_eq] at ascending
    obtain ⟨⟨_, apart⟩, tail⟩ := ascending
    rcases List.mem_cons.mp mem with rfl | mem
    · omega
    · have later := ih tail mem
      have nonempty : next.1 ≤ next.2 := by
        cases rest <;> simp [isAscending] at tail <;> omega
      omega

/-- What remains of ascending ranges without the first is ascending. -/
theorem isAscending_tail {range : Nat × Nat} {rest : List (Nat × Nat)}
    (ascending : isAscending (range :: rest) = true) : isAscending rest = true := by
  cases rest with
  | nil => rfl
  | cons next rest =>
    simp only [isAscending, Bool.and_eq_true] at ascending
    exact ascending.2

/-- In ascending ranges the look-up finds exactly the numbers of the ranges. -/
theorem lookUp_iff {ranges : List (Nat × Nat)} (ascending : isAscending ranges = true)
    (number : Nat) :
    lookUp ranges number = true ↔ ∃ range ∈ ranges, range.1 ≤ number ∧ number ≤ range.2 := by
  induction ranges with
  | nil => simp [lookUp]
  | cons range rest ih =>
    by_cases within : number ≤ range.2
    · simp only [lookUp, within, if_true, decide_eq_true_eq, List.mem_cons]
      constructor
      · intro first
        exact ⟨range, .inl rfl, first, within⟩
      · rintro ⟨other, rfl | mem, first, _⟩
        · exact first
        · have := lt_of_isAscending ascending mem
          omega
    · simp only [lookUp, within, if_false, ih (isAscending_tail ascending), List.mem_cons]
      constructor
      · rintro ⟨other, mem, bounds⟩
        exact ⟨other, .inr mem, bounds⟩
      · rintro ⟨other, rfl | mem, bounds⟩
        · omega
        · exact ⟨other, mem, bounds⟩

end CodePoints

/-- A set of characters, as a table of ranges in order. -/
structure CodePoints where
  ranges : List (Nat × Nat)
  ascending : CodePoints.isAscending ranges = true

namespace CodePoints

/-- Whether a number is in one of the ranges. -/
def contains (set : CodePoints) (number : Nat) : Bool :=
  lookUp set.ranges number

/-- A set contains exactly the numbers of its ranges. -/
theorem contains_iff (set : CodePoints) (number : Nat) :
    set.contains number = true ↔ ∃ range ∈ set.ranges, range.1 ≤ number ∧ number ≤ range.2 :=
  lookUp_iff set.ascending number

end CodePoints

end HciSerial
