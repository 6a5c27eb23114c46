import HciSerial.Proofs.Text.Decimal
import HciSerial.Proofs.Text.HexLayout
import HciSerial.Text.JsonString

/-!
# Reading JSON objects back

Strings, and objects whose values are strings and numbers, are read back from their JSON text
with nothing lost.

## Main Definitions

* `JsonString.readRest?`, `JsonString.read?`: a reader of strings.
* `JsonObject.Value`: the values of entries.
* `JsonObject.render`: the text of an object.
* `JsonObject.readEntries?`, `JsonObject.read?`: a reader of objects.

## Main Results

* `JsonString.read?_render_append`: a string is read back, whatever follows it.
* `JsonObject.read?_render`: an object is read back, entry by entry.
* `JsonObject.newline_notMem_render`: an object takes one line.

## Design Notes

Every part says itself where it ends, a string by its quote and a number by what is no digit, so
each reader is given the part with the rest of the text behind it.
-/

namespace HciSerial

/-! ## Strings -/

namespace JsonString

/-- The character that stands behind a backslash for another one. -/
def unescape? : Char → Option Char
  | '"' => some '"'
  | '\\' => some '\\'
  | 'n' => some '\n'
  | 'r' => some '\r'
  | 't' => some '\t'
  | 'b' => some '\x08'
  | 'f' => some '\x0c'
  | _ => none

/-- Reads a string whose opening quote has been read: its characters, and what follows it. -/
def readRest? : List Char → Option (List Char × List Char)
  | [] => none
  | '"' :: rest => some ([], rest)
  | '\\' :: 'u' :: '0' :: '0' :: high :: low :: rest =>
    match Hex.value? high, Hex.value? low with
    | some high, some low =>
      (readRest? rest).map (Prod.map (Char.ofNat (16 * high + low) :: ·) id)
    | _, _ => none
  | '\\' :: c :: rest =>
    match unescape? c with
    | some c => (readRest? rest).map (Prod.map (c :: ·) id)
    | none => none
  | c :: rest =>
    if c.toNat < 32 then none
    else (readRest? rest).map (Prod.map (c :: ·) id)

/-- Reads a string: its text, and what follows it. -/
def read? : List Char → Option (String × List Char)
  | '"' :: rest => (readRest? rest).map (Prod.map String.ofList id)
  | _ => none

/-- A character that is not escaped stands for itself. -/
theorem readRest?_of_plain {c : Char} (quote : c ≠ '"') (backslash : c ≠ '\\')
    (printed : ¬ c.toNat < 32) (rest : List Char) :
    readRest? (c :: rest) = (readRest? rest).map (Prod.map (c :: ·) id) := by
  rw [readRest?, if_neg printed]
  · exact quote
  · exact fun _ _ _ same _ => backslash same
  · exact fun _ _ same _ => backslash same

/-- A control character is read back from its code. -/
theorem readRest?_of_control {c : Char} (control : c.toNat < 32) (rest : List Char) :
    readRest? ('\\' :: 'u' :: '0' :: '0' :: (Hex.pair (UInt8.ofNat c.toNat) ++ rest)) =
      (readRest? rest).map (Prod.map (c :: ·) id) := by
  have byte : (UInt8.ofNat c.toNat).toNat = c.toNat :=
    UInt8.toNat_ofNat_of_lt' (Nat.lt_trans control (by decide))
  have high : Hex.value? (Hex.digit (c.toNat / 16)) = some (c.toNat / 16) :=
    Hex.value?_eq_some_iff.mpr (Hex.digitOf_digit (by omega))
  have low : Hex.value? (Hex.digit (c.toNat % 16)) = some (c.toNat % 16) :=
    Hex.value?_eq_some_iff.mpr (Hex.digitOf_digit (by omega))
  have whole : Char.ofNat (16 * (c.toNat / 16) + c.toNat % 16) = c := by
    rw [Nat.div_add_mod, Char.ofNat_toNat]
  rw [Hex.pair, byte]
  show readRest? ('\\' :: 'u' :: '0' :: '0' :: _ :: _ :: rest) = _
  rw [readRest?, high, low]
  simp only [whole]

theorem readRest?_escape_append (c : Char) (rest : List Char) :
    readRest? (escape c ++ rest) =
      (readRest? rest).map (Prod.map (c :: ·) id) := by
  fun_cases escape c with
  | case8 _ _ _ _ _ _ _ control => exact readRest?_of_control control rest
  | case9 quote backslash _ _ _ _ _ printed =>
    exact readRest?_of_plain quote backslash printed rest
  | case1 same | case2 _ same | case3 _ _ same | case4 _ _ _ same | case5 _ _ _ _ same
  | case6 _ _ _ _ _ same | case7 _ _ _ _ _ _ same =>
    subst same
    rfl

/-- Characters are read back from what is written for them, up to the closing quote. -/
theorem readRest?_escapes_append (text rest : List Char) :
    readRest? (text.flatMap escape ++ '"' :: rest) = some (text, rest) := by
  induction text with
  | nil => rfl
  | cons c text ih =>
    rw [List.flatMap_cons, List.append_assoc, readRest?_escape_append, ih]
    rfl

/-- A string is read back, whatever follows it. -/
theorem read?_render_append (text : String) (rest : List Char) :
    read? ((render text).toList ++ rest) = some (text, rest) := by
  have whole : (render text).toList ++ rest =
      '"' :: (text.toList.flatMap escape ++ '"' :: rest) := by
    rw [render, String.toList_ofList, List.append_assoc]
    rfl
  rw [whole, read?, readRest?_escapes_append, Option.map_some, Prod.map, String.ofList_toList,
    id_eq]

/-- No newline is written for a character. -/
theorem newline_notMem_escape (c : Char) : '\n' ∉ escape c := by
  fun_cases escape c with
  | case8 _ _ _ _ _ _ _ control =>
    have separator : '\n' ∈ Hex.separators := by simp [Hex.separators]
    have digit : ∀ value < 16, '\n' ≠ Hex.digit value := by
      intro value small same
      exact (Hex.digitOf_digit small).not_separator (same ▸ separator)
    have byte : (UInt8.ofNat c.toNat).toNat < 256 := UInt8.toNat_lt _
    rw [List.mem_append, Hex.pair, List.mem_pair]
    rintro (mark | high | low)
    · exact absurd mark (by decide)
    · exact digit _ (by omega) high
    · exact digit _ (by omega) low
  | case9 _ _ newline => exact fun member => newline (List.mem_singleton.mp member).symm
  | _ => decide

/-- A string takes one line. -/
theorem newline_notMem_render (text : String) : '\n' ∉ (render text).toList := by
  rw [render, String.toList_ofList, List.mem_append, List.mem_cons, List.mem_flatMap]
  rintro ((quote | ⟨c, _, escaped⟩) | quote)
  · exact absurd quote (by decide)
  · exact newline_notMem_escape c escaped
  · exact absurd quote (by decide)

end JsonString

/-! ## Objects -/

namespace JsonObject

/-- The values of entries. -/
inductive Value where
  | text (content : String)
  | number (count : Nat)
deriving DecidableEq

namespace Value

/-- The JSON text of a value. -/
def render : Value → String
  | text content => JsonString.render content
  | number count => toString count

/-- Reads a value, a string or else a number: the value, and what follows it. -/
def read? (text : List Char) : Option (Value × List Char) :=
  match JsonString.read? text with
  | some (content, left) => some (.text content, left)
  | none =>
    match text.takeWhile Char.isDigit with
    | [] => none
    | digits => some (.number (Nat.ofDigitChars 10 digits 0), text.dropWhile Char.isDigit)

/-- A value is read back if what follows it begins with no digit. -/
theorem read?_render_append (value : Value) {next : Char} (stops : next.isDigit = false)
    (rest : List Char) :
    read? (value.render.toList ++ next :: rest) = some (value, next :: rest) := by
  cases value with
  | text content => rw [read?, render, JsonString.read?_render_append]
  | number count =>
    obtain ⟨nonempty, digital, value_eq⟩ := Decimal.writes_toString count
    rw [render]
    generalize (toString count).toList = digits at nonempty digital value_eq
    have taken : (digits ++ next :: rest).takeWhile Char.isDigit = digits := by
      rw [List.takeWhile_append_of_pos digital, List.takeWhile_cons_of_neg (by simp [stops]),
        List.append_nil]
    have left : (digits ++ next :: rest).dropWhile Char.isDigit = next :: rest := by
      rw [List.dropWhile_append_of_pos digital, List.dropWhile_cons_of_neg (by simp [stops])]
    obtain ⟨first, others, rfl⟩ := List.exists_cons_of_ne_nil nonempty
    have unquoted : JsonString.read? (first :: others ++ next :: rest) = none := by
      unfold JsonString.read?
      split
      case h_1 same =>
        cases same
        exact absurd (digital '"' List.mem_cons_self) (by decide)
      case h_2 => rfl
    rw [read?, unquoted, taken, left, ← value_eq]

/-- A value takes one line. -/
theorem newline_notMem_render (value : Value) : '\n' ∉ value.render.toList := by
  cases value with
  | text content => exact JsonString.newline_notMem_render content
  | number count =>
    intro member
    exact absurd ((Decimal.writes_toString count).digital _ member) (by decide)

end Value

/-- The characters of an entry: its key and its value. -/
def renderEntry (entry : String × Value) : String :=
  JsonString.render entry.1 ++ ":" ++ entry.2.render

/-- The JSON text of an object, from its entries in order. -/
def render (entries : List (String × Value)) : String :=
  "\x7b" ++ String.intercalate "," (entries.map renderEntry) ++ "\x7d"

/-- Reads an entry: key and value, and what follows them. -/
def readEntry? (text : List Char) : Option ((String × Value) × List Char) :=
  match JsonString.read? text with
  | some (key, ':' :: rest) => (Value.read? rest).map fun (value, left) => ((key, value), left)
  | _ => none

/-- Reads at most so many entries, up to the closing brace: the entries, and what follows it. -/
def readEntries? : Nat → List Char → Option (List (String × Value) × List Char)
  | 0, _ => none
  | limit + 1, text =>
    match readEntry? text with
    | some (entry, ',' :: rest) => (readEntries? limit rest).map (Prod.map (entry :: ·) id)
    | some (entry, '\x7d' :: rest) => some ([entry], rest)
    | _ => none

/-- Reads an object of at most so many entries that stands alone. -/
def read? (limit : Nat) : List Char → Option (List (String × Value))
  | '\x7b' :: text =>
    match readEntries? limit text with
    | some (entries, []) => some entries
    | _ => none
  | _ => none

/-- An entry is read back if what follows it begins with no digit. -/
theorem readEntry?_renderEntry_append (entry : String × Value) {next : Char}
    (stops : next.isDigit = false) (rest : List Char) :
    readEntry? ((renderEntry entry).toList ++ next :: rest) = some (entry, next :: rest) := by
  have whole : (renderEntry entry).toList ++ next :: rest =
      (JsonString.render entry.1).toList ++ ':' :: (entry.2.render.toList ++ next :: rest) := by
    simp [renderEntry]
  rw [whole, readEntry?, JsonString.read?_render_append]
  simp only [Value.read?_render_append entry.2 stops]
  rfl

/-- Entries are read back, up to the closing brace. -/
theorem readEntries?_append {limit : Nat} (entry : String × Value)
    (entries : List (String × Value)) (few : entries.length < limit) (rest : List Char) :
    readEntries? limit ((String.intercalate "," ((entry :: entries).map renderEntry)).toList ++
      '\x7d' :: rest) = some (entry :: entries, rest) := by
  induction entries generalizing limit entry with
  | nil =>
    obtain ⟨limit, rfl⟩ := Nat.exists_eq_succ_of_ne_zero (Nat.ne_zero_of_lt few)
    rw [List.map_singleton, String.intercalate_singleton, readEntries?,
      readEntry?_renderEntry_append entry (by decide)]
    rfl
  | cons second entries ih =>
    obtain ⟨limit, rfl⟩ := Nat.exists_eq_succ_of_ne_zero (Nat.ne_zero_of_lt few)
    have whole : (String.intercalate ","
        ((entry :: second :: entries).map renderEntry)).toList ++ '\x7d' :: rest =
          (renderEntry entry).toList ++ ',' ::
            ((String.intercalate "," ((second :: entries).map renderEntry)).toList ++
              '\x7d' :: rest) := by
      rw [List.map_cons, List.map_cons, String.intercalate_cons_cons]
      simp
    rw [whole, readEntries?, readEntry?_renderEntry_append entry (by decide)]
    simp only [ih second (Nat.lt_of_succ_lt_succ few)]
    rfl

/-- An object is read back, entry by entry. -/
theorem read?_render {limit : Nat} {entries : List (String × Value)} (nonempty : entries ≠ [])
    (few : entries.length ≤ limit) : read? limit (render entries).toList = some entries := by
  obtain ⟨entry, entries, rfl⟩ := List.exists_cons_of_ne_nil nonempty
  have whole : (render (entry :: entries)).toList = '\x7b' ::
      ((String.intercalate "," ((entry :: entries).map renderEntry)).toList ++ ['\x7d']) := by
    rw [render, String.toList_append, String.toList_append]
    rfl
  rw [whole, read?, readEntries?_append entry entries few []]

/-- Entries with commas between them take one line. -/
theorem newline_notMem_entries (entries : List (String × Value)) :
    '\n' ∉ (String.intercalate "," (entries.map renderEntry)).toList := by
  have single : ∀ entry : String × Value, '\n' ∉ (renderEntry entry).toList := by
    intro entry
    simp [renderEntry, JsonString.newline_notMem_render, Value.newline_notMem_render]
  match entries with
  | [] => simp
  | [entry] =>
    rw [List.map_singleton, String.intercalate_singleton]
    exact single entry
  | entry :: second :: entries =>
    have rest := newline_notMem_entries (second :: entries)
    rw [List.map_cons] at rest
    rw [List.map_cons, List.map_cons, String.intercalate_cons_cons, String.toList_append,
      String.toList_append, List.mem_append, List.mem_append]
    rintro ((first | comma) | later)
    · exact single entry first
    · exact absurd comma (by decide)
    · exact rest later

/-- An object takes one line. -/
theorem newline_notMem_render (entries : List (String × Value)) :
    '\n' ∉ (render entries).toList := by
  rw [render, String.toList_append, String.toList_append, List.mem_append, List.mem_append]
  rintro ((opening | inside) | closing)
  · exact absurd opening (by decide)
  · exact newline_notMem_entries entries inside
  · exact absurd closing (by decide)

end JsonObject

end HciSerial
