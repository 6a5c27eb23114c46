import HciSerial.Text.Decimal
import Mathlib

/-!
# The texts that stand for numbers

Which texts are read as numbers below a bound, and as which numbers.

## Main Definitions

* `Decimal.Writes`: digits and the number that they stand for.
* `Decimal.Signed`: the same with an optional plus sign in front.

## Main Results

* `Decimal.accumulate_eq_ok_iff`: digits are read exactly if their number is below the bound.
* `Decimal.writes_toString`: what is written for a number stands for it.
* `Decimal.natural_eq_ok_iff`: the texts that are read, and what they stand for.

## Design Notes

The reader gives up as soon as what it has read so far reaches the bound.  That is no other
condition than one on the whole number, since more digits never make a number smaller.
-/

namespace HciSerial.Decimal

variable {bound start value : Nat} {text digits : List Char} {c : Char}

/-- Digits, at least one of them, and the number that they stand for. -/
structure Writes (digits : List Char) (value : Nat) : Prop where
  nonempty : digits ≠ []
  digital : ∀ c ∈ digits, c.isDigit = true
  value_eq : Nat.ofDigitChars 10 digits 0 = value

/-- Digits with an optional plus sign in front, and the number that they stand for. -/
def Signed (text : List Char) (value : Nat) : Prop :=
  ∃ sign ∈ [[], ['+']], ∃ digits, text = sign ++ digits ∧ Writes digits value

/-! ## Digits -/

theorem digit?_of_isDigit (digit : c.isDigit = true) :
    digit? c = some (c.toNat - '0'.toNat) := by
  obtain ⟨least, greatest⟩ := Char.isDigit_iff_toNat.mp digit
  exact if_pos ⟨UInt32.le_iff_toNat_le.mpr least, UInt32.le_iff_toNat_le.mpr greatest⟩

theorem digit?_of_not_isDigit (other : c.isDigit ≠ true) : digit? c = none := by
  refine if_neg fun range => other (Char.isDigit_iff_toNat.mpr ?_)
  exact ⟨UInt32.le_iff_toNat_le.mp range.1, UInt32.le_iff_toNat_le.mp range.2⟩

theorem le_ofDigitChars (digits : List Char) (start : Nat) :
    start ≤ Nat.ofDigitChars 10 digits start := by
  rw [Nat.ofDigitChars_eq_ofDigitChars_zero]
  exact Nat.le_add_right_of_le (Nat.le_mul_of_pos_left start (Nat.pow_pos (by decide)))

/-- Digits behind a number are read exactly if the number that they lead to is below the
bound. -/
theorem accumulate_eq_ok_iff (below : start < bound) :
    accumulate bound start digits = .ok value ↔
      (∀ c ∈ digits, c.isDigit = true) ∧ Nat.ofDigitChars 10 digits start = value ∧
        value < bound := by
  induction digits generalizing start with
  | nil =>
    rw [accumulate, Nat.ofDigitChars_nil, Except.ok.injEq]
    constructor
    · rintro rfl
      exact ⟨nofun, rfl, below⟩
    · exact fun ⟨_, same, _⟩ => same
  | cons c rest ih =>
    rw [List.forall_mem_cons, Nat.ofDigitChars_cons, Nat.mul_comm, accumulate]
    by_cases digit : c.isDigit = true
    · rw [digit?_of_isDigit digit]
      simp only
      by_cases small : start * 10 + (c.toNat - '0'.toNat) < bound
      · rw [if_pos small, ih small, and_iff_right digit]
      · rw [if_neg small]
        constructor
        · nofun
        · rintro ⟨_, rfl, inside⟩
          exact absurd (Nat.lt_of_le_of_lt (le_ofDigitChars rest _) inside) small
    · rw [digit?_of_not_isDigit digit]
      constructor
      · nofun
      · exact fun ⟨⟨here, _⟩, _⟩ => absurd here digit

/-! ## Numbers -/

/-- A number is written with digits that stand for it. -/
theorem writes_toString (value : Nat) : Writes (toString value).toList value := by
  rw [Nat.toString_eq_ofList_toDigits, String.toList_ofList]
  exact ⟨Nat.toDigits_ne_nil, fun c => Nat.isDigit_of_mem_toDigits (by decide) (by decide),
    Nat.ofDigitChars_ten_toDigits⟩

/-- Digits alone are read exactly if there are some and their number is below the bound. -/
theorem unsigned_eq_ok_iff (positive : 0 < bound) :
    unsigned bound digits = .ok value ↔ Writes digits value ∧ value < bound := by
  cases digits with
  | nil =>
    constructor
    · nofun
    · exact fun ⟨writes, _⟩ => absurd rfl writes.nonempty
  | cons c rest =>
    rw [unsigned, accumulate_eq_ok_iff positive]
    · constructor
      · rintro ⟨digital, same, inside⟩
        exact ⟨⟨List.cons_ne_nil _ _, digital, same⟩, inside⟩
      · rintro ⟨⟨_, digital, same⟩, inside⟩
        exact ⟨digital, same, inside⟩
    · nofun

/-- A text is read exactly if it is a number below the bound, with or without a plus sign. -/
theorem natural_eq_ok_iff (positive : 0 < bound) :
    natural bound text = .ok value ↔ Signed text value ∧ value < bound := by
  have signs : Signed text value ↔
      Writes text value ∨ ∃ digits, text = '+' :: digits ∧ Writes digits value := by
    simp [Signed]
  rw [signs]
  fun_cases natural bound text with
  | case1 =>
    constructor
    · nofun
    · rintro ⟨writes | ⟨_, same, _⟩, _⟩
      · exact absurd rfl writes.nonempty
      · cases same
  | case2 digits =>
    rw [unsigned_eq_ok_iff positive]
    refine and_congr_left fun _ => ⟨fun writes => .inr ⟨digits, rfl, writes⟩, ?_⟩
    rintro (writes | ⟨_, same, writes⟩)
    · cases writes.digital '+' List.mem_cons_self
    · cases same
      exact writes
  | case3 digits nonempty unsignedText =>
    rw [unsigned_eq_ok_iff positive]
    refine and_congr_left fun _ => ⟨.inl, ?_⟩
    rintro (writes | ⟨digits, same, _⟩)
    · exact writes
    · exact absurd same (unsignedText digits)

namespace Signed

theorem ne_nil (signed : Signed text value) : text ≠ [] := by
  obtain ⟨sign, _, digits, rfl, writes⟩ := signed
  exact List.append_ne_nil_of_right_ne_nil sign writes.nonempty

theorem isDigit_getLast (signed : Signed text value) :
    (text.getLast signed.ne_nil).isDigit = true := by
  obtain ⟨sign, _, digits, rfl, writes⟩ := signed
  rw [List.getLast_append_of_right_ne_nil _ _ writes.nonempty]
  exact writes.digital _ (List.getLast_mem writes.nonempty)

/-- A number begins with a digit or a plus sign. -/
theorem isDigit_or_eq_plus_of_mem (signed : Signed text value) (member : c ∈ text) :
    c.isDigit = true ∨ c = '+' := by
  obtain ⟨sign, known, digits, rfl, writes⟩ := signed
  rcases List.mem_append.mp member with inSign | inDigits
  · simp only [List.mem_cons, List.not_mem_nil, or_false] at known
    rcases known with rfl | rfl
    · cases inSign
    · exact .inr (List.mem_singleton.mp inSign)
  · exact .inl (writes.digital c inDigits)

end Signed

end HciSerial.Decimal
