import HciSerial.Log.Directive
import HciSerial.Proofs.Text.Hex

/-!
# Every way to write bytes is read back

The digits of bytes can be cut into tokens anywhere, each token can be marked, and separators
can stand between tokens and around them.  All of this is read back.  The reader takes its
pairs out of the text by their byte positions, and no such cut ever goes wrong.

## Main Definitions

* `Hex.halves`: the numbers that the two digits of a byte stand for.
* `Hex.Token`, `Hex.Layout`: digits cut into tokens, with marks and separators.
* `Hex.cut?`, `Hex.parse?`: the reader, with every cut checked.

## Main Results

* `Hex.Layout.remaining_text`: what is left of a layout are its digits.
* `Hex.Layout.parse_text`, `Hex.parse_render`: digits are read back as the bytes they write.
* `Hex.parse?_eq`: no cut is outside the text or inside a character.

## Design Notes

The reader of pairs walks through characters, and cannot show how bytes are cut.  `parse?` goes
by the offsets of the pairs in the text that is left, and gives `none` where one of them is
beyond its end or splits a character.
-/

namespace HciSerial.Hex

/-! ## Digits of bytes -/

/-- The numbers that the two digits of a byte stand for. -/
def halves (byte : UInt8) : List Nat :=
  [byte.toNat / 16, byte.toNat % 16]

variable {value : Nat} {c : Char} {bytes : List UInt8}

/-- The digits of bytes spell them. -/
theorem spells_of_digits {digits : List Char}
    (written : List.Forall₂ DigitOf (bytes.flatMap halves) digits) : Spells digits bytes := by
  induction bytes generalizing digits with
  | nil =>
    cases written
    exact .nil
  | cons byte rest ih =>
    obtain ⟨⟩ | ⟨high, ⟨⟩ | ⟨low, more⟩⟩ := written
    exact .cons ⟨.inl high, low⟩ (ih more)

theorem digitOf_digit (small : value < 16) : DigitOf value (digit value) := by
  have each : ∀ value < 16, DigitOf value (digit value) := by decide
  exact each value small

/-- What is printed for bytes are their digits. -/
theorem digits_renderChars (bytes : List UInt8) :
    List.Forall₂ DigitOf (bytes.flatMap halves) (renderChars bytes) := by
  induction bytes with
  | nil => exact .nil
  | cons byte rest ih =>
    have high : byte.toNat / 16 < 16 := Nat.div_lt_of_lt_mul byte.toNat_lt
    exact .cons (digitOf_digit high) (.cons (digitOf_digit (Nat.mod_lt _ (by decide))) ih)

theorem DigitOf.not_separator (digit : DigitOf value c) : c ∉ separators := by
  intro member
  have each : ∀ c ∈ separators, value? c = none := by simp [separators, value?]
  exact not_digitOf_of_unread (each c member) digit

/-! ## Splitting at separators -/

theorem remaining_cons_separator (separator : c ∈ separators) (rest : List Char) :
    remaining (c :: rest) = remaining rest := by
  rw [remaining, List.splitOnP_cons_eq_if_modifyHead, if_pos (decide_eq_true separator)]
  rfl

theorem remaining_blank_append {gap : List Char} (blank : ∀ c ∈ gap, c ∈ separators)
    (rest : List Char) : remaining (gap ++ rest) = remaining rest := by
  induction gap with
  | nil => rfl
  | cons c more ih =>
    obtain ⟨separator, blankMore⟩ := List.forall_mem_cons.mp blank
    rw [List.cons_append, remaining_cons_separator separator, ih blankMore]

theorem remaining_token {token : List Char} (whole : ∀ c ∈ token, c ∉ separators) :
    remaining token = unmarked token := by
  have single := List.splitOnP_eq_singleton fun c member => decide_eq_false (whole c member)
  rw [remaining, single, List.flatMap_singleton]

/-- A token ends at the first separator. -/
theorem remaining_token_append {token gap : List Char} (whole : ∀ c ∈ token, c ∉ separators)
    (blank : ∀ c ∈ gap, c ∈ separators) (apart : gap ≠ []) (rest : List Char) :
    remaining (token ++ gap ++ rest) = unmarked token ++ remaining rest := by
  obtain ⟨c, more, rfl⟩ := List.exists_cons_of_ne_nil apart
  obtain ⟨separator, blankMore⟩ := List.forall_mem_cons.mp blank
  have split := List.splitOnP_append_cons_of_forall_mem
    (fun c member => decide_eq_false (whole c member)) c (decide_eq_true separator) (more ++ rest)
  rw [List.append_assoc, List.cons_append, remaining, split, List.flatMap_cons]
  exact congrArg (unmarked token ++ ·) (remaining_blank_append blankMore rest)

/-! ## Layouts -/

/-- A stretch of digits, the mark in front of it, and the separators behind it. -/
structure Token where
  mark : List Char
  digits : List Char
  gap : List Char
  marked : mark ∈ [[], ['0', 'x'], ['0', 'X']]
  blank : ∀ c ∈ gap, c ∈ separators

/-- The characters of a token, with the separators behind it. -/
def Token.text (token : Token) : List Char :=
  token.mark ++ token.digits ++ token.gap

/-- Tokens in order, with separators in front of them; only the last of them can be without
separators behind it. -/
structure Layout where
  lead : List Char
  tokens : List Token
  blank : ∀ c ∈ lead, c ∈ separators
  apart : ∀ token ∈ tokens.dropLast, token.gap ≠ []

namespace Layout

/-- The text of a layout. -/
def text (layout : Layout) : String :=
  String.ofList (layout.lead ++ layout.tokens.flatMap Token.text)

/-- The digits of a layout, without marks and separators. -/
def digits (layout : Layout) : List Char :=
  layout.tokens.flatMap Token.digits

end Layout

namespace Token

variable {token : Token}

/-- A mark and digits are a whole token. -/
theorem whole (digital : ∀ c ∈ token.digits, ∃ value, DigitOf value c) :
    ∀ c ∈ token.mark ++ token.digits, c ∉ separators := by
  have marks : ∀ mark ∈ [[], ['0', 'x'], ['0', 'X']], ∀ c ∈ mark, c ∉ separators := by
    simp [separators]
  intro c member
  rcases List.mem_append.mp member with marking | digit
  · exact marks token.mark token.marked c marking
  · obtain ⟨value, digit⟩ := digital c digit
    exact digit.not_separator

/-- A token loses its mark and no digit. -/
theorem unmarked_eq (digital : ∀ c ∈ token.digits, ∃ value, DigitOf value c) :
    unmarked (token.mark ++ token.digits) = token.digits := by
  -- no digit is mistaken for the second character of a mark
  have crossed : ∀ c ∈ ['x', 'X'], c ∉ token.digits := by
    intro c crossing member
    obtain ⟨value, digit⟩ := digital c member
    have each : ∀ c ∈ ['x', 'X'], value? c = none := by simp [value?]
    exact not_digitOf_of_unread (each c crossing) digit
  have marked := token.marked
  simp only [List.mem_cons, List.not_mem_nil, or_false] at marked
  unfold unmarked
  rcases marked with none | lower | upper
  · rw [none, List.nil_append, if_neg]
    rintro (begins | begins)
    · exact crossed 'x' (by decide) (begins.subset (by decide))
    · exact crossed 'X' (by decide) (begins.subset (by decide))
  · rw [lower, if_pos (.inl (List.prefix_append _ _))]
    rfl
  · rw [upper, if_pos (.inr (List.prefix_append _ _))]
    rfl

end Token

/-- What is left of tokens in order are their digits. -/
theorem remaining_tokens {tokens : List Token}
    (apart : ∀ token ∈ tokens.dropLast, token.gap ≠ [])
    (digital : ∀ c ∈ tokens.flatMap Token.digits, ∃ value, DigitOf value c) :
    remaining (tokens.flatMap Token.text) = tokens.flatMap Token.digits := by
  induction tokens with
  | nil => rfl
  | cons token rest ih =>
    rw [List.flatMap_cons, List.forall_mem_append] at digital
    obtain ⟨here, later⟩ := digital
    rw [List.flatMap_cons, List.flatMap_cons, Token.text]
    cases rest with
    | nil =>
      rw [List.flatMap_nil, List.flatMap_nil, List.append_nil, List.append_nil]
      by_cases none : token.gap = []
      · rw [none, List.append_nil, remaining_token (Token.whole here), Token.unmarked_eq here]
      · have ends := remaining_token_append (Token.whole here) token.blank none []
        rw [List.append_nil] at ends
        rw [ends, Token.unmarked_eq here]
        exact List.append_nil _
    | cons next more =>
      rw [List.dropLast_cons_cons, List.forall_mem_cons] at apart
      obtain ⟨behind, others⟩ := apart
      rw [remaining_token_append (Token.whole here) token.blank behind, Token.unmarked_eq here,
        ih others later]

/-- What is left of a layout are its digits. -/
theorem Layout.remaining_text (layout : Layout)
    (digital : ∀ c ∈ layout.digits, ∃ value, DigitOf value c) :
    remaining layout.text.toList = layout.digits := by
  rw [text, String.toList_ofList, remaining_blank_append layout.blank]
  exact remaining_tokens layout.apart digital

/-- Digits are read back as the bytes that they write, however they are laid out. -/
theorem Layout.parse_text {layout : Layout}
    (written : List.Forall₂ DigitOf (bytes.flatMap halves) layout.digits) :
    parse layout.text = .ok bytes := by
  have digital : ∀ c ∈ layout.digits, ∃ value, DigitOf value c := by
    intro c member
    obtain ⟨position, inside, rfl⟩ := List.getElem_of_mem member
    exact ⟨_, written.get (written.length_eq ▸ inside) inside⟩
  rw [parse_eq_ok_iff, layout.remaining_text digital]
  exact spells_of_digits written

/-- What is printed for bytes is read back. -/
theorem parse_render (bytes : List UInt8) : parse (render bytes) = .ok bytes := by
  let printed : Layout := {
    lead := []
    tokens := [⟨[], renderChars bytes, [], List.mem_cons_self, nofun⟩]
    blank := nofun
    apart := nofun }
  have digits : printed.digits = renderChars bytes := List.flatMap_singleton _ _
  have text : printed.text = render bytes := by
    show String.ofList ([] ++ ([] ++ renderChars bytes ++ [] ++ [])) = _
    simp only [List.nil_append, List.append_nil]
    rfl
  rw [← text]
  exact Layout.parse_text (digits ▸ digits_renderChars bytes)

/-! ## Cuts -/

open Log.Directive (dropBytes? takeBytes?)

/-- The number of bytes of a text. -/
def byteCount (text : List Char) : Nat :=
  (text.map Char.utf8Size).sum

/-- The text between two byte offsets, `none` if one of them is outside the text or inside a
character. -/
def cut? (text : List Char) (first last : Nat) : Option (List Char) :=
  (dropBytes? first text).bind (takeBytes? (last - first))

/-- Reads pairs at the given offsets; the first bad one is reported.  A cut that goes wrong, or
that is no pair, gives `none`. -/
def readCuts? (text : List Char) : List Nat → Option (Except Error (List UInt8))
  | [] => some (.ok [])
  | offset :: rest =>
    match cut? text offset (offset + 2) with
    | some [first, second] =>
      match pairValue? first second with
      | none => some (.error (.badPair first second))
      | some byte => (readCuts? text rest).map fun read => read.map (byte :: ·)
    | _ => none

/-- The bytes that a text stands for, read by offsets with every cut checked. -/
def parse? (text : String) : Option (Except Error (List UInt8)) :=
  let left := remaining text.toList
  if left.any (128 ≤ ·.toNat) then some (.error .notAscii)
  else if byteCount left % 2 ≠ 0 then some (.error .oddDigits)
  else readCuts? left (List.range' 0 (byteCount left / 2) 2)

variable {text : List Char}

theorem utf8Size_of_ascii (ascii : c.toNat < 128) : c.utf8Size = 1 :=
  Char.utf8Size_eq_one_iff.mpr (UInt32.le_iff_toNat_le.mpr (Nat.le_of_lt_succ ascii))

/-- An ASCII text has as many bytes as characters. -/
theorem byteCount_of_ascii (ascii : ∀ c ∈ text, c.toNat < 128) :
    byteCount text = text.length := by
  induction text with
  | nil => rfl
  | cons c rest ih =>
    obtain ⟨here, later⟩ := List.forall_mem_cons.mp ascii
    have more := ih later
    unfold byteCount at more ⊢
    rw [List.map_cons, List.sum_cons, more, utf8Size_of_ascii here, List.length_cons,
      Nat.add_comm]

/-- In an ASCII text every offset is between two characters. -/
theorem dropBytes?_of_ascii (ascii : ∀ c ∈ text, c.toNat < 128) {offset : Nat}
    (inside : offset ≤ text.length) : dropBytes? offset text = some (text.drop offset) := by
  induction text generalizing offset with
  | nil =>
    obtain rfl := Nat.le_zero.mp inside
    rfl
  | cons c rest ih =>
    obtain ⟨here, later⟩ := List.forall_mem_cons.mp ascii
    cases offset with
    | zero => rfl
    | succ offset =>
      rw [dropBytes?, utf8Size_of_ascii here, if_pos (Nat.le_add_left 1 offset)]
      exact ih later (Nat.le_of_succ_le_succ inside)

theorem takeBytes?_of_ascii {first second : Char} (rest : List Char)
    (asciiFirst : first.toNat < 128) (asciiSecond : second.toNat < 128) :
    takeBytes? 2 (first :: second :: rest) = some [first, second] := by
  simp [takeBytes?, utf8Size_of_ascii asciiFirst, utf8Size_of_ascii asciiSecond]

/-- At even offsets an ASCII text is cut into its pairs. -/
theorem readCuts?_eq (ascii : ∀ c ∈ text, c.toNat < 128) (count : Nat) {offset : Nat}
    (whole : offset + 2 * count = text.length) :
    readCuts? text (List.range' offset count 2) = some (parsePairs (text.drop offset)) := by
  induction count generalizing offset with
  | zero =>
    rw [List.drop_eq_nil_of_le (by omega)]
    rfl
  | succ count ih =>
    have rest : readCuts? text (List.range' (offset + 2) count 2) =
        some (parsePairs (text.drop (offset + 2))) := ih (by omega)
    have first : offset < text.length := by omega
    have second : offset + 1 < text.length := by omega
    have pair : text.drop offset = text[offset] :: text[offset + 1] :: text.drop (offset + 2) := by
      rw [List.drop_eq_getElem_cons first, List.drop_eq_getElem_cons second]
    have cut : cut? text offset (offset + 2) = some [text[offset], text[offset + 1]] := by
      rw [cut?, dropBytes?_of_ascii ascii (Nat.le_of_lt first), Option.bind_some, pair,
        Nat.add_sub_cancel_left]
      exact takeBytes?_of_ascii _ (ascii _ (List.getElem_mem _)) (ascii _ (List.getElem_mem _))
    rw [List.range'_succ, readCuts?, cut, pair, parsePairs]
    simp only
    cases pairValue? text[offset] text[offset + 1] with
    | none => rfl
    | some byte =>
      simp only [rest]
      rfl

/-- No cut is outside the text or inside a character, and the cuts are the pairs that are
read. -/
theorem parse?_eq (text : String) : parse? text = some (parse text) := by
  rw [parse_eq]
  unfold parse?
  simp only
  by_cases foreign : (remaining text.toList).any (128 ≤ ·.toNat) = true
  · rw [if_pos foreign, if_pos foreign]
  · have ascii : ∀ c ∈ remaining text.toList, c.toNat < 128 := by
      intro c member
      by_contra large
      exact foreign (List.any_eq_true.mpr ⟨c, member, decide_eq_true (Nat.not_lt.mp large)⟩)
    rw [if_neg foreign, if_neg foreign, byteCount_of_ascii ascii]
    split
    case isTrue => rfl
    case isFalse even =>
      have whole : 0 + 2 * ((remaining text.toList).length / 2) =
          (remaining text.toList).length := by omega
      exact readCuts?_eq ascii _ whole

end HciSerial.Hex
