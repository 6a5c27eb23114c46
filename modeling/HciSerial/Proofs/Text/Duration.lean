import HciSerial.Proofs.Text.Decimal
import HciSerial.Text.Duration

/-!
# The texts that stand for spans of time

Which texts are read as spans of time, and as which ones.

## Main Definitions

* `Blank.codes`: the white space characters of Unicode.
* `Duration.Denotes`: a number with a unit, and the span of time that it stands for.
* `Duration.Reads`: the same with blanks around it.

## Main Results

* `Blank.eq_trim`, `Blank.trim_append`: what is left of a text without the blanks at its ends.
* `Duration.splitUnit_cases`: how the unit is split off.
* `Duration.parse_eq_ok_iff`: the texts that are read, and what they stand for.

## Design Notes

The unit of milliseconds ends in that of seconds, so the longer one is looked for first.  No
number ends in either letter, which makes the unit of a text unique.
-/

namespace HciSerial

/-! ## Blanks -/

namespace Blank

/-- The code points of white space. -/
def codes : List Nat :=
  [0x9, 0xA, 0xB, 0xC, 0xD, 0x20, 0x85, 0xA0, 0x1680, 0x2000, 0x2001, 0x2002, 0x2003, 0x2004,
    0x2005, 0x2006, 0x2007, 0x2008, 0x2009, 0x200A, 0x2028, 0x2029, 0x202F, 0x205F, 0x3000]

theorem is_iff {c : Char} : is c = true ↔ c.toNat ∈ codes := by
  simp only [is, codes, Bool.or_eq_true, Bool.and_eq_true, decide_eq_true_eq, beq_iff_eq,
    List.mem_cons, List.not_mem_nil, or_false]
  omega

/-- Blanks at the ends, and nothing else, are taken off a text. -/
theorem eq_trim (text : List Char) :
    ∃ lead trail, text = lead ++ trim text ++ trail ∧
      (∀ c ∈ lead, is c = true) ∧ ∀ c ∈ trail, is c = true := by
  refine ⟨text.takeWhile is, ((trimFront text).reverse.takeWhile is).reverse, ?_, ?_, ?_⟩
  · have back := congrArg List.reverse
      (@List.takeWhile_append_dropWhile _ is (trimFront text).reverse)
    rw [List.reverse_append, List.reverse_reverse] at back
    rw [List.append_assoc, trim]
    show text = text.takeWhile is ++ (((trimFront text).reverse.dropWhile is).reverse ++ _)
    rw [back]
    exact List.takeWhile_append_dropWhile.symm
  · exact fun c member => List.mem_takeWhile_imp member
  · exact fun c member => List.mem_takeWhile_imp (List.mem_reverse.mp member)

/-- Without blanks in front nothing is taken off the front. -/
theorem trimFront_append {core rest : List Char} (nonempty : core ≠ [])
    (solid : ∀ c ∈ core, is c = false) : trimFront (core ++ rest) = core ++ rest := by
  obtain ⟨c, more, rfl⟩ := List.exists_cons_of_ne_nil nonempty
  exact List.dropWhile_cons_of_neg (by simp [solid c List.mem_cons_self])

/-- A stretch without blanks is left of a text that has only blanks around it. -/
theorem trim_append {lead core trail : List Char} (nonempty : core ≠ [])
    (blankLead : ∀ c ∈ lead, is c = true) (solid : ∀ c ∈ core, is c = false)
    (blankTrail : ∀ c ∈ trail, is c = true) : trim (lead ++ core ++ trail) = core := by
  have front : trimFront (lead ++ core ++ trail) = core ++ trail := by
    rw [List.append_assoc, trimFront, List.dropWhile_append_of_pos blankLead]
    exact trimFront_append nonempty solid
  have back : trimFront (core ++ trail).reverse = core.reverse := by
    rw [List.reverse_append, trimFront, List.dropWhile_append_of_pos]
    · have whole := @trimFront_append core.reverse [] (List.reverse_ne_nil_iff.mpr nonempty)
        fun c member => solid c (List.mem_reverse.mp member)
      rwa [List.append_nil] at whole
    · exact fun c member => blankTrail c (List.mem_reverse.mp member)
  rw [trim, front, back, List.reverse_reverse]

end Blank

namespace Duration

variable {text number : List Char} {duration : Duration}

/-! ## Numbers with units -/

/-- A number from one to the greatest machine word, with `ms`, `s` or no unit behind it, and the
span of time that it stands for. -/
inductive Denotes : List Char → Duration → Prop where
  | milliseconds {number : List Char} {count : Nat} (written : Decimal.Signed number count)
      (least : 1 ≤ count) (greatest : count ≤ 2 ^ 64 - 1) :
      Denotes (number ++ ['m', 's']) ⟨count / 1000, count % 1000 * 10 ^ 6⟩
  | seconds {number unit : List Char} {count : Nat} (written : Decimal.Signed number count)
      (least : 1 ≤ count) (greatest : count ≤ 2 ^ 64 - 1) (known : unit ∈ [[], ['s']]) :
      Denotes (number ++ unit) ⟨count, 0⟩

/-- How the unit is split off a text. -/
theorem splitUnit_cases (text : List Char) :
    (∃ number, text = number ++ ['m', 's'] ∧ splitUnit text = (number, true)) ∨
      ∃ number, ∃ unit ∈ [[], ['s']], text = number ++ unit ∧
        splitUnit text = (number, false) := by
  unfold splitUnit
  split
  case h_1 number split =>
    refine .inl ⟨number.reverse, ?_, rfl⟩
    rw [← List.reverse_reverse text, split]
    simp
  case h_2 number _ split =>
    refine .inr ⟨number.reverse, ['s'], by simp, ?_, rfl⟩
    rw [← List.reverse_reverse text, split]
    simp
  case h_3 => exact .inr ⟨text, [], by simp, (List.append_nil text).symm, rfl⟩

theorem splitUnit_milliseconds (number : List Char) :
    splitUnit (number ++ ['m', 's']) = (number, true) := by
  simp [splitUnit]

/-- Behind a digit the unit of seconds, or none, is split off. -/
theorem splitUnit_seconds {unit : List Char} (nonempty : number ≠ [])
    (digit : (number.getLast nonempty).isDigit = true) (known : unit ∈ [[], ['s']]) :
    splitUnit (number ++ unit) = (number, false) := by
  obtain ⟨front, last, rfl⟩ := List.eq_nil_or_concat number |>.resolve_left nonempty
  have letter : last ≠ 'm' ∧ last ≠ 's' := by
    constructor <;> rintro rfl <;> simp at digit
  simp only [List.mem_cons, List.not_mem_nil, or_false] at known
  rcases known with rfl | rfl <;> simp [splitUnit, letter]

/-- What a number stands for, once its unit has been split off. -/
theorem read_eq_ok_iff {milliseconds : Bool} :
    (match Decimal.natural wordCount number with
      | .error _ => .error (.invalid (String.ofList text))
      | .ok 0 => .error .zero
      | .ok value => .ok (if milliseconds then ofMilliseconds value else ofSeconds value) :
        Except Error Duration) = .ok duration ↔
      ∃ count, Decimal.Signed number count ∧ 1 ≤ count ∧ count ≤ 2 ^ 64 - 1 ∧
        duration = if milliseconds then ofMilliseconds count else ofSeconds count := by
  have bound : ∀ count, count < wordCount ↔ count ≤ 2 ^ 64 - 1 := fun count => by
    show count < 2 ^ 64 ↔ _
    omega
  have read : ∀ {count : Nat}, Decimal.natural wordCount number = .ok count ↔
      Decimal.Signed number count ∧ count < wordCount := Decimal.natural_eq_ok_iff (by decide)
  cases result : Decimal.natural wordCount number with
  | error error =>
    constructor
    · nofun
    · rintro ⟨count, written, -, greatest, -⟩
      cases result.symm.trans (read.mpr ⟨written, (bound count).mpr greatest⟩)
  | ok value =>
    obtain ⟨written, inside⟩ := read.mp result
    have unique : ∀ count, Decimal.Signed number count → count ≤ 2 ^ 64 - 1 → count = value := by
      intro count other greatest
      have same := result.symm.trans (read.mpr ⟨other, (bound count).mpr greatest⟩)
      exact (Except.ok.inj same).symm
    cases value with
    | zero =>
      constructor
      · nofun
      · rintro ⟨count, other, least, greatest, -⟩
        cases unique count other greatest
        cases least
    | succ value =>
      constructor
      · intro same
        exact ⟨value + 1, written, Nat.le_add_left 1 value, (bound _).mp inside,
          (Except.ok.inj same).symm⟩
      · rintro ⟨count, other, -, greatest, rfl⟩
        rw [unique count other greatest]
        rfl

/-- A text without blanks around it is read exactly if it is a number with a unit. -/
theorem parseTrimmed_eq_ok_iff : parseTrimmed text = .ok duration ↔ Denotes text duration := by
  by_cases empty : text = []
  · subst empty
    constructor
    · nofun
    · intro denotes
      generalize none : ([] : List Char) = text at denotes
      cases denotes with
      | milliseconds => simp at none
      | seconds written => exact absurd (List.append_eq_nil_iff.mp none.symm).1 written.ne_nil
  · have some : ¬ text.isEmpty = true := by simpa using empty
    rw [parseTrimmed, if_neg some]
    constructor
    · rcases splitUnit_cases text with ⟨number, whole, split⟩ | ⟨number, unit, known, whole, split⟩
      · rw [split]
        intro read
        obtain ⟨count, written, least, greatest, rfl⟩ := read_eq_ok_iff.mp read
        rw [whole]
        exact .milliseconds written least greatest
      · rw [split]
        intro read
        obtain ⟨count, written, least, greatest, rfl⟩ := read_eq_ok_iff.mp read
        rw [whole]
        exact .seconds written least greatest known
    · rintro (⟨written, least, greatest⟩ | ⟨written, least, greatest, known⟩)
      · rw [splitUnit_milliseconds]
        exact read_eq_ok_iff.mpr ⟨_, written, least, greatest, rfl⟩
      · rw [splitUnit_seconds written.ne_nil written.isDigit_getLast known]
        exact read_eq_ok_iff.mpr ⟨_, written, least, greatest, rfl⟩

/-! ## Texts -/

/-- A number with a unit and blanks around it, and the span of time that it stands for. -/
def Reads (text : List Char) (duration : Duration) : Prop :=
  ∃ lead core trail, text = lead ++ core ++ trail ∧
    (∀ c ∈ lead ++ trail, c.toNat ∈ Blank.codes) ∧ Denotes core duration

/-- A number with a unit is not empty, and no blank is in it. -/
theorem Denotes.solid (denotes : Denotes text duration) :
    text ≠ [] ∧ ∀ c ∈ text, Blank.is c = false := by
  have solid : ∀ {number : List Char} {count : Nat}, Decimal.Signed number count →
      ∀ c ∈ number, Blank.is c = false := by
    intro number count written c member
    rcases written.isDigit_or_eq_plus_of_mem member with digit | rfl
    · have range := Char.isDigit_iff_toNat.mp digit
      rw [← Bool.not_eq_true, Blank.is_iff]
      simp [Blank.codes] at range ⊢
      omega
    · decide
  cases denotes with
  | milliseconds written =>
    refine ⟨List.append_ne_nil_of_left_ne_nil written.ne_nil _, ?_⟩
    exact List.forall_mem_append.mpr ⟨solid written, by simp [Blank.is]⟩
  | seconds written _ _ known =>
    refine ⟨List.append_ne_nil_of_left_ne_nil written.ne_nil _, ?_⟩
    refine List.forall_mem_append.mpr ⟨solid written, ?_⟩
    simp only [List.mem_cons, List.not_mem_nil, or_false] at known
    rcases known with rfl | rfl <;> simp [Blank.is]

/-- A text is read exactly if it is a number with a unit and blanks around it. -/
theorem parse_eq_ok_iff {text : String} :
    parse text = .ok duration ↔ Reads text.toList duration := by
  rw [parse, parseTrimmed_eq_ok_iff]
  constructor
  · intro denotes
    obtain ⟨lead, trail, whole, blankLead, blankTrail⟩ := Blank.eq_trim text.toList
    refine ⟨lead, _, trail, whole, fun c member => Blank.is_iff.mp ?_, denotes⟩
    exact (List.mem_append.mp member).elim (blankLead c) (blankTrail c)
  · rintro ⟨lead, core, trail, whole, blank, denotes⟩
    obtain ⟨nonempty, solid⟩ := denotes.solid
    obtain ⟨blankLead, blankTrail⟩ := List.forall_mem_append.mp blank
    rw [whole, Blank.trim_append nonempty (fun c member => Blank.is_iff.mpr (blankLead c member))
      solid fun c member => Blank.is_iff.mpr (blankTrail c member)]
    exact denotes

/-- A span of time that is read is longer than nothing, its seconds are a machine word, and its
nanoseconds are less than a second. -/
theorem Denotes.range (denotes : Denotes text duration) :
    0 < duration.total ∧ duration.seconds < 2 ^ 64 ∧ duration.nanoseconds < 10 ^ 9 := by
  cases denotes with
  | milliseconds _ least greatest | seconds _ least greatest =>
    simp only [total]
    omega

end Duration

end HciSerial
