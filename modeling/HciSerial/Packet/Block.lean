/-!
# Blocks of a byte stream

Bytes arrive one after the other and are taken off in blocks of a requested length.

## Main Definitions

* `splitBlock?`: the first block of a stream and what follows it.

## Design Notes

Only the block is walked through, never the whole stream, so a long stream can be
taken off in short blocks.
-/

namespace HciSerial

/-- The first `length` bytes and what follows them, `none` while there are fewer. -/
def splitBlock? (length : Nat) (bytes : List UInt8) : Option (List UInt8 × List UInt8) :=
  let block := bytes.take length
  if block.length < length then none else some (block, bytes.drop length)

/-- The block is in front of what follows it and has the requested length. -/
theorem splitBlock?_eq_some_iff {length : Nat} {bytes block rest : List UInt8} :
    splitBlock? length bytes = some (block, rest) ↔
      bytes = block ++ rest ∧ block.length = length := by
  constructor
  · intro found
    simp only [splitBlock?] at found
    split at found
    · simp at found
    · rename_i enough
      obtain ⟨rfl, rfl⟩ : bytes.take length = block ∧ bytes.drop length = rest := by
        simpa using found
      refine ⟨(List.take_append_drop length bytes).symm, ?_⟩
      have := List.length_take_le length bytes
      omega
  · rintro ⟨rfl, rfl⟩
    simp [splitBlock?]

/-- There is no block exactly while too few bytes have arrived. -/
theorem splitBlock?_eq_none_iff {length : Nat} {bytes : List UInt8} :
    splitBlock? length bytes = none ↔ bytes.length < length := by
  simp only [splitBlock?, List.length_take]
  split <;> simp <;> omega

end HciSerial
