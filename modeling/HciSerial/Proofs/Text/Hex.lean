import HciSerial.Text.Hex
import Mathlib

/-!
# The texts that stand for bytes

Which texts are read as hexadecimal, and as which bytes: what is left of the text once it has
been split at separators, and the marks in front of its tokens are gone, is made of pairs of
characters, one pair for each byte.

## Main Definitions

* `Hex.DigitOf`: the digits of either case, by their values.
* `Hex.remaining`: what is left of a text without separators and marks.
* `Hex.Writes`, `Hex.Spells`: the pairs that stand for a byte, and for bytes.

## Main Results

* `Hex.digits_eq_remaining`: the reader leaves exactly what remains.
* `Hex.parse_eq_ok_iff`: the reader accepts exactly the texts whose rest spells bytes.
* `Hex.parse_reads_pairs`: what is left of an accepted text, character by character.
* `Hex.parse_plus_sign`: not all of it are digits.

## Design Notes

A pair is read as a number, and a number may have a plus sign in front.  So a plus sign takes
the place of the first digit of a byte below sixteen; everywhere else it is refused.
-/

namespace HciSerial.Hex

/-! ## Digits -/

/-- A digit of either case and the number below sixteen that it stands for. -/
def DigitOf (value : Nat) (c : Char) : Prop :=
  "0123456789abcdef".toList[value]? = some c ∨ "0123456789ABCDEF".toList[value]? = some c

instance (value : Nat) (c : Char) : Decidable (DigitOf value c) :=
  inferInstanceAs (Decidable (_ ∨ _))

variable {value : Nat} {c : Char}

theorem DigitOf.lt (digit : DigitOf value c) : value < 16 := by
  rcases digit with found | found <;> exact (List.getElem?_eq_some_iff.mp found).1

theorem toNat_le_of_le {least greatest : Char} (order : least ≤ greatest) :
    least.toNat ≤ greatest.toNat :=
  UInt32.le_iff_toNat_le.mp order

/-- Only ASCII characters have a value. -/
theorem toNat_lt_of_value? (read : value? c = some value) : c.toNat < 128 := by
  have bounded : ∀ greatest : Char, greatest.toNat < 128 → c ≤ greatest → c.toNat < 128 :=
    fun _ small order => Nat.lt_of_le_of_lt (toNat_le_of_le order) small
  unfold value? at read
  split at read
  case isTrue range => exact bounded '9' (by decide) range.2
  case isFalse =>
    split at read
    case isTrue range => exact bounded 'f' (by decide) range.2
    case isFalse =>
      split at read
      case isTrue range => exact bounded 'F' (by decide) range.2
      case isFalse => cases read

/-- The value of a character is the number that it stands for as a digit. -/
theorem value?_eq_some_iff : value? c = some value ↔ DigitOf value c := by
  constructor
  · intro read
    -- the ASCII characters are few enough to look at each of them
    have each : ∀ code < 128, (value? (Char.ofNat code)).all
        (fun value => DigitOf value (Char.ofNat code)) = true := by decide +kernel
    have this := each c.toNat (toNat_lt_of_value? read)
    rw [Char.ofNat_toNat, read] at this
    exact of_decide_eq_true this
  · intro digit
    have each : ∀ value < 16,
        ("0123456789abcdef".toList[value]?.all fun c => value? c = some value) = true ∧
        ("0123456789ABCDEF".toList[value]?.all fun c => value? c = some value) = true := by
      decide
    obtain ⟨lower, upper⟩ := each value digit.lt
    rcases digit with found | found
    · rw [found] at lower
      exact of_decide_eq_true lower
    · rw [found] at upper
      exact of_decide_eq_true upper

theorem DigitOf.ascii (digit : DigitOf value c) : c.toNat < 128 :=
  toNat_lt_of_value? (value?_eq_some_iff.mpr digit)

theorem not_digitOf_of_unread (unread : value? c = none) : ¬ DigitOf value c := by
  rw [← value?_eq_some_iff, unread]
  nofun

theorem not_digitOf_plus : ¬ DigitOf value '+' :=
  not_digitOf_of_unread rfl

/-! ## What is left of a text -/

/-- The characters that end a token. -/
def separators : List Char := [' ', '\t', '\n', '\x0c', '\r', ':']

/-- A token without the mark in front of it, if it has one. -/
def unmarked (token : List Char) : List Char :=
  if ['0', 'x'] <+: token ∨ ['0', 'X'] <+: token then token.drop 2 else token

/-- What is left of a text that is split at separators and whose tokens lose their marks. -/
def remaining (text : List Char) : List Char :=
  (text.splitOnP (· ∈ separators)).flatMap unmarked

theorem isSeparator_eq (c : Char) : isSeparator c = decide (c ∈ separators) := by
  rw [Bool.eq_iff_iff]
  simp [isSeparator, separators, or_assoc]

/-- The tokens are what stands between separators. -/
theorem tokens_eq_splitOnP (text : List Char) :
    tokens text = text.splitOnP (· ∈ separators) := by
  induction text with
  | nil => rfl
  | cons c rest ih =>
    rw [tokens, List.splitOnP_cons_eq_if_modifyHead, isSeparator_eq, ih]
    split
    · rfl
    · cases split : rest.splitOnP (· ∈ separators) with
      | nil => exact absurd split (List.splitOnP_ne_nil _ rest)
      | cons token more => rfl

/-- At most one mark is taken off a token. -/
theorem stripMark_eq_unmarked (token : List Char) : stripMark token = unmarked token := by
  unfold unmarked
  fun_cases stripMark token with
  | case1 rest => simp
  | case2 rest => simp
  | case3 _ plain crossed =>
    have none : ¬ (['0', 'x'] <+: token ∨ ['0', 'X'] <+: token) := by
      rintro (⟨rest, rfl⟩ | ⟨rest, rfl⟩)
      · exact plain rest rfl
      · exact crossed rest rfl
    rw [if_neg none]

/-- The reader leaves exactly what remains. -/
theorem digits_eq_remaining (text : List Char) : digits text = remaining text := by
  rw [digits, remaining, tokens_eq_splitOnP, funext stripMark_eq_unmarked]

/-! ## Pairs -/

/-- Two characters stand for a byte: the digits of its halves, or a plus sign and a digit. -/
def Writes (first second : Char) (byte : UInt8) : Prop :=
  (DigitOf (byte.toNat / 16) first ∨ first = '+' ∧ byte.toNat < 16) ∧
    DigitOf (byte.toNat % 16) second

variable {first second : Char} {byte : UInt8}

/-- A pair is read as the byte that it stands for. -/
theorem pairValue?_eq_some_iff :
    pairValue? first second = some byte ↔ Writes first second byte := by
  unfold pairValue? Writes
  by_cases plus : first = '+'
  · rw [if_pos plus, Option.map_eq_some_iff]
    constructor
    · rintro ⟨low, read, rfl⟩
      have digit := value?_eq_some_iff.mp read
      have small := digit.lt
      have whole : (UInt8.ofNat low).toNat = low :=
        UInt8.toNat_ofNat_of_lt (Nat.lt_trans small (by decide))
      rw [whole, Nat.mod_eq_of_lt small]
      exact ⟨.inr ⟨plus, small⟩, digit⟩
    · rintro ⟨digit | ⟨-, small⟩, low⟩
      · rw [plus] at digit
        exact absurd digit not_digitOf_plus
      · rw [Nat.mod_eq_of_lt small] at low
        exact ⟨byte.toNat, value?_eq_some_iff.mpr low, UInt8.ofNat_toNat⟩
  · rw [if_neg plus]
    constructor
    · intro read
      split at read
      case h_1 high low readHigh readLow =>
        have upper := value?_eq_some_iff.mp readHigh
        have lower := value?_eq_some_iff.mp readLow
        have := upper.lt
        have := lower.lt
        have small : 16 * high + low < 256 := by omega
        have whole : (UInt8.ofNat (16 * high + low)).toNat = 16 * high + low :=
          UInt8.toNat_ofNat_of_lt small
        obtain rfl := Option.some.inj read
        rw [whole, show (16 * high + low) / 16 = high by omega,
          show (16 * high + low) % 16 = low by omega]
        exact ⟨.inl upper, lower⟩
      case h_2 => cases read
    · rintro ⟨upper | ⟨same, -⟩, lower⟩
      · rw [value?_eq_some_iff.mpr upper, value?_eq_some_iff.mpr lower]
        simp only [Nat.div_add_mod, UInt8.ofNat_toNat]
      · exact absurd same plus

/-- Characters spell bytes, two for each of them. -/
inductive Spells : List Char → List UInt8 → Prop where
  | nil : Spells [] []
  | cons {first second : Char} {byte : UInt8} {rest : List Char} {bytes : List UInt8}
      (writes : Writes first second byte) (spells : Spells rest bytes) :
      Spells (first :: second :: rest) (byte :: bytes)

variable {text : List Char} {bytes : List UInt8}

namespace Spells

/-- There are two characters for each byte. -/
theorem length_eq (spells : Spells text bytes) : text.length = 2 * bytes.length := by
  induction spells with
  | nil => rfl
  | cons _ _ ih =>
    simp only [List.length_cons, ih]
    omega

/-- Every character is a digit, or a plus sign in front of the digit of its pair. -/
theorem digit_or_plus (spells : Spells text bytes) {position : Nat}
    (found : text[position]? = some c) :
    (∃ value, DigitOf value c) ∨ c = '+' ∧ position % 2 = 0 := by
  induction spells generalizing position with
  | nil => cases found
  | cons writes _ ih =>
    obtain ⟨first, second⟩ := writes
    match position with
    | 0 =>
      obtain rfl := Option.some.inj found
      rcases first with digit | ⟨plus, -⟩
      · exact .inl ⟨_, digit⟩
      · exact .inr ⟨plus, rfl⟩
    | 1 =>
      obtain rfl := Option.some.inj found
      exact .inl ⟨_, second⟩
    | position + 2 =>
      rw [Nat.add_mod_right]
      exact ih found

/-- Nothing but ASCII characters spells bytes. -/
theorem ascii (spells : Spells text bytes) (member : c ∈ text) : c.toNat < 128 := by
  obtain ⟨position, found⟩ := List.getElem?_of_mem member
  rcases spells.digit_or_plus found with ⟨_, digit⟩ | ⟨rfl, -⟩
  · exact digit.ascii
  · decide

end Spells

/-- An even number of characters is read exactly as the bytes that they spell. -/
theorem parsePairs_eq_ok_iff (even : text.length % 2 = 0) :
    parsePairs text = .ok bytes ↔ Spells text bytes := by
  fun_induction parsePairs text generalizing bytes with
  | case1 first second rest unread =>
    constructor
    · nofun
    · rintro ⟨⟩
      case cons writes _ => cases unread.symm.trans (pairValue?_eq_some_iff.mpr writes)
  | case2 first second rest byte read ih =>
    have evenRest : rest.length % 2 = 0 := by
      simp only [List.length_cons] at even
      omega
    constructor
    · intro parsed
      cases readRest : parsePairs rest with
      | error error =>
        rw [readRest] at parsed
        cases parsed
      | ok more =>
        rw [readRest] at parsed
        cases parsed
        exact .cons (pairValue?_eq_some_iff.mp read) ((ih evenRest).mp readRest)
    · rintro ⟨⟩
      case cons writes spells =>
        obtain rfl := Option.some.inj (read.symm.trans (pairValue?_eq_some_iff.mpr writes))
        rw [(ih evenRest).mpr spells]
        rfl
  | case3 single few =>
    have none : single = [] := by
      match single, few with
      | [], _ => rfl
      | [_], _ => cases even
      | first :: second :: rest, few => exact absurd rfl (few first second rest)
    subst none
    constructor
    · intro parsed
      cases parsed
      exact .nil
    · rintro ⟨⟩
      rfl

/-! ## Texts -/

theorem parse_eq (text : String) : parse text =
    if (remaining text.toList).any (128 ≤ ·.toNat) then .error .notAscii
    else if (remaining text.toList).length % 2 ≠ 0 then .error .oddDigits
    else parsePairs (remaining text.toList) := by
  rw [parse, parseChars, digits_eq_remaining]

/-- A text stands for exactly the bytes that the rest of it spells. -/
theorem parse_eq_ok_iff {text : String} :
    parse text = .ok bytes ↔ Spells (remaining text.toList) bytes := by
  rw [parse_eq]
  split
  case isTrue foreign =>
    obtain ⟨c, member, large⟩ := List.any_eq_true.mp foreign
    constructor
    · nofun
    · intro spells
      exact absurd (spells.ascii member) (Nat.not_lt.mpr (of_decide_eq_true large))
  case isFalse =>
    split
    case isTrue odd =>
      constructor
      · nofun
      · intro spells
        have := spells.length_eq
        omega
    case isFalse even => exact parsePairs_eq_ok_iff (Decidable.not_not.mp even)

/-- What is left of a text that is accepted.

A text is accepted exactly if its rest spells bytes, and stands for these.  Then there are two
characters for each byte, and every one of them is a digit, or a plus sign in place of the
first digit of its pair. -/
theorem parse_reads_pairs (text : String) (bytes : List UInt8) :
    (parse text = .ok bytes ↔ Spells (remaining text.toList) bytes) ∧
      (parse text = .ok bytes → (remaining text.toList).length = 2 * bytes.length ∧
        ∀ position c, (remaining text.toList)[position]? = some c →
          (∃ value, DigitOf value c) ∨ c = '+' ∧ position % 2 = 0) := by
  refine ⟨parse_eq_ok_iff, fun accepted => ?_⟩
  have spells := parse_eq_ok_iff.mp accepted
  exact ⟨spells.length_eq, fun _ _ found => spells.digit_or_plus found⟩

/-- A mark, a separator and a plus sign: two pairs are left, and the second of them is signed. -/
theorem parse_marked_signed :
    parse "0x0E +5" = .ok [0x0E, 0x05] ∧ (remaining "0x0E +5".toList).length = 4 ∧
      Spells (remaining "0x0E +5".toList) [0x0E, 0x05] := by
  have accepted : parse "0x0E +5" = .ok [0x0E, 0x05] := by cbv
  obtain ⟨spells, pairs⟩ := parse_reads_pairs "0x0E +5" [0x0E, 0x05]
  exact ⟨accepted, (pairs accepted).1, spells.mp accepted⟩

/-- A plus sign and a digit stand for a byte, although a plus sign is no digit. -/
theorem parse_plus_sign :
    parse "+f" = .ok [0x0F] ∧
      ¬ ∀ c ∈ remaining "+f".toList, ∃ value, DigitOf value c := by
  refine ⟨by cbv, fun digits => ?_⟩
  obtain ⟨value, digit⟩ := digits '+' (by decide +kernel)
  exact not_digitOf_plus digit

end HciSerial.Hex
