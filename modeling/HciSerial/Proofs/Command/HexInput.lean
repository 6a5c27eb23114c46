import HciSerial.Command.Decode
import HciSerial.Command.Send
import HciSerial.Host.Offline
import HciSerial.Proofs.Text.HexLayout

/-!
# Hexadecimal input of commands

Bytes that are given to a command as text are understood however their digits are laid out.  A
text that stands for no bytes ends the command as wrongly used, before anything has been done.

## Main Results

* `decode_of_unread`, `send_of_unread`: commands that are given a text that is refused.
* `Hex.parse_laid_out`: what is read, what is refused, and where texts are cut.
-/

namespace HciSerial

/-! ## Refused input -/

section Refused

variable {W : Type} [Host W]

/-- A text that is refused is not decoded. -/
theorem decode_of_unread {text : String} {error : Hex.Error}
    (unread : Hex.parse text = .error error) (file : Option String) (format : ListingFormat)
    (world : W) :
    decode (some text) file format world = (.failed ⟨.usage, error.message⟩, world) := by
  have refused : decodeInput (some text) file world =
      (.error ⟨.usage, error.message⟩, world) := by
    simp only [decodeInput, unread]
  rw [decode, refused]

/-- Nothing is sent for a text that is refused. -/
theorem send_of_unread {choice : SendChoice} {timeout : Duration} {error : Hex.Error}
    (timed : Duration.parse choice.timeout = .ok timeout)
    (unread : Hex.parse choice.hex = .error error) (fuel : Nat) (format : ListingFormat)
    (world : W) : send fuel choice format world = (.failed ⟨.usage, error.message⟩, world) := by
  unfold send Send.prepare
  rw [timed]
  simp only [unread]

end Refused

/-! ## Reading and refusing -/

namespace Hex

theorem parse_of_foreign {text : String} (foreign : ∃ c ∈ remaining text.toList, 128 ≤ c.toNat) :
    parse text = .error .notAscii := by
  obtain ⟨c, member, large⟩ := foreign
  rw [parse_eq, if_pos (List.any_eq_true.mpr ⟨c, member, decide_eq_true large⟩)]

/-- An odd number of characters that are left is refused. -/
theorem parse_of_odd {text : String} (ascii : ∀ c ∈ remaining text.toList, c.toNat < 128)
    (odd : (remaining text.toList).length % 2 = 1) : parse text = .error .oddDigits := by
  have native : ¬ (remaining text.toList).any (128 ≤ ·.toNat) = true := by
    intro foreign
    obtain ⟨c, member, large⟩ := List.any_eq_true.mp foreign
    exact absurd (ascii c member) (Nat.not_lt.mpr (of_decide_eq_true large))
  rw [parse_eq, if_neg native, if_pos (by omega)]

/-- The digits of bytes are read back from every layout of them, and texts that leave something
else are refused.

The digits may be of either case and cut anywhere; tokens may be marked, and separators may
stand between and around them.  What is printed for bytes is one such layout.  A text that
leaves a character outside ASCII, or an odd number of ASCII characters, is refused, and a
command that is given a refused text fails as wrongly used and touches nothing.  On no text do
the byte offsets of the pairs lie outside what is left of it or inside one of its characters. -/
theorem parse_laid_out (bytes : List UInt8) (text : String) :
    (∀ layout : Layout, List.Forall₂ DigitOf (bytes.flatMap halves) layout.digits →
        parse layout.text = .ok bytes) ∧
      parse (render bytes) = .ok bytes ∧
      ((∃ c ∈ remaining text.toList, 128 ≤ c.toNat) → parse text = .error .notAscii) ∧
      ((∀ c ∈ remaining text.toList, c.toNat < 128) →
        (remaining text.toList).length % 2 = 1 → parse text = .error .oddDigits) ∧
      (∀ error, parse text = .error error →
        ∀ (W : Type) [Host W] (format : ListingFormat) (world : W),
          (∀ file, decode (some text) file format world =
            (.failed ⟨.usage, error.message⟩, world)) ∧
          ∀ fuel choice timeout, choice.hex = text →
            Duration.parse choice.timeout = .ok timeout →
              send fuel choice format world = (.failed ⟨.usage, error.message⟩, world)) ∧
      parse? text = some (parse text) := by
  refine ⟨fun _ written => Layout.parse_text written, parse_render bytes, parse_of_foreign,
    parse_of_odd, ?_, parse?_eq text⟩
  intro error unread W _ format world
  refine ⟨fun file => decode_of_unread unread file format world, ?_⟩
  rintro fuel choice timeout rfl timed
  exact send_of_unread timed unread fuel format world

/-- Bytes that are cut in the middle, with both marks and separators all around. -/
def scattered : Layout where
  lead := [' ']
  tokens := [
    ⟨['0', 'x'], ['0'], [':'], by simp, by simp [separators]⟩,
    ⟨[], ['4', '0'], [' ', '\t'], by simp, by simp [separators]⟩,
    ⟨['0', 'X'], ['e'], [], by simp, nofun⟩]
  blank := by simp [separators]
  apart := by simp

/-- Two bytes are read from scattered digits, and half a byte is refused. -/
theorem parse_scattered :
    List.Forall₂ DigitOf ([0x04, 0x0E].flatMap halves) scattered.digits ∧
      parse scattered.text = .ok [0x04, 0x0E] ∧
      (∃ c ∈ remaining "é0".toList, 128 ≤ c.toNat) ∧ parse "é0" = .error .notAscii ∧
      (∀ c ∈ remaining "0x040".toList, c.toNat < 128) ∧
      (remaining "0x040".toList).length % 2 = 1 ∧
      decode (some "0x040") none .json ({} : OfflineHost) =
        (.failed ⟨.usage, "hex input has an odd number of digits"⟩, {}) := by
  have written : List.Forall₂ DigitOf ([0x04, 0x0E].flatMap halves) scattered.digits :=
    .cons (by decide) (.cons (by decide) (.cons (by decide) (.cons (by decide) .nil)))
  have foreign : ∃ c ∈ remaining "é0".toList, 128 ≤ c.toNat := ⟨'é', by decide +kernel, by decide⟩
  have left : remaining "0x040".toList = ['0', '4', '0'] := by decide +kernel
  have ascii : ∀ c ∈ remaining "0x040".toList, c.toNat < 128 := by
    rw [left]
    simp
  have odd : (remaining "0x040".toList).length % 2 = 1 := by decide +kernel
  obtain ⟨layouts, -, refuses, -⟩ := parse_laid_out [0x04, 0x0E] "é0"
  obtain ⟨-, -, -, refusesOdd, usage, -⟩ := parse_laid_out [] "0x040"
  have refused := refusesOdd ascii odd
  have ends := (usage _ refused OfflineHost .json {}).1 none
  exact ⟨written, layouts scattered written, foreign, refuses foreign, ascii, odd, ends⟩

end Hex

end HciSerial
