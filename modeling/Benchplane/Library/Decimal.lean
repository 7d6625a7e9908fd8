import Benchplane.Library.Text

/-!
# Decimal numerals

Runs of ASCII digits and the numbers they write, as characters and as bytes, and
a reader that goes over the bytes one digit at a time.
-/

namespace Benchplane
namespace Library

/-- The number that a list of digits writes, behind a number read before it. -/
def decimalFrom (value : Nat) (digits : List Char) : Nat :=
  digits.foldl (fun value c => value * 10 + (c.toNat - 48)) value

/-- A run of digits that writes a number below a bound. -/
structure IsNumeral (bound : Nat) (digits : List Char) (value : Nat) : Prop where
  nonempty : digits ≠ []
  isDigit : ∀ c ∈ digits, c.isDigit = true
  writes : decimalFrom 0 digits = value
  below : value < bound

/-- Whether a byte is an ASCII digit. -/
def isDigitByte (b : UInt8) : Bool := 48 ≤ b && b ≤ 57

/-- The number that a list of digit bytes writes, behind a number read before it. -/
def decimalBytesFrom (value : Nat) (digits : Bytes) : Nat :=
  digits.foldl (fun value b => value * 10 + (b.toNat - 48)) value

/-! ## Characters and bytes -/

theorem toNat_of_isDigit {c : Char} (h : c.isDigit = true) : 48 ≤ c.toNat ∧ c.toNat ≤ 57 := by
  simp only [Char.isDigit, Bool.and_eq_true, decide_eq_true_eq] at h
  exact h

theorem isDigitByte_iff {b : UInt8} : isDigitByte b = true ↔ 48 ≤ b.toNat ∧ b.toNat ≤ 57 := by
  simp [isDigitByte, UInt8.le_iff_toNat_le]

/-- Digits are written as digit bytes, with the same value. -/
theorem utf8_ofDigits {digits : List Char} (h : ∀ c ∈ digits, c.isDigit = true) (value : Nat) :
    (∀ b ∈ utf8 (String.ofList digits), isDigitByte b = true) ∧
      decimalBytesFrom value (utf8 (String.ofList digits)) = decimalFrom value digits := by
  rw [utf8_ofList]
  induction digits generalizing value with
  | nil => exact ⟨by simp, rfl⟩
  | cons c rest ih =>
      obtain ⟨hlow, hhigh⟩ := toNat_of_isDigit (h c List.mem_cons_self)
      have hrest := ih (fun d hd => h d (List.mem_cons_of_mem _ hd)) (value * 10 + (c.toNat - 48))
      have hbyte : (UInt8.ofNat c.toNat).toNat = c.toNat :=
        UInt8.toNat_ofNat_of_lt' (show c.toNat < 2 ^ 8 by omega)
      rw [List.flatMap_cons, utf8EncodeChar_of_lt (by omega), List.singleton_append]
      constructor
      · intro b hb
        rcases List.mem_cons.mp hb with rfl | hb
        · rw [isDigitByte_iff, hbyte]
          omega
        · exact hrest.1 b hb
      · show decimalBytesFrom (value * 10 + ((UInt8.ofNat c.toNat).toNat - 48)) _ = _
        rw [hbyte, hrest.2]
        rfl

/-- Every run of digit bytes is written by digits. -/
theorem exists_digits {run : Bytes} (h : ∀ b ∈ run, isDigitByte b = true) :
    ∃ digits : List Char, utf8 (String.ofList digits) = run ∧ ∀ c ∈ digits, c.isDigit = true := by
  induction run with
  | nil => exact ⟨[], rfl, by simp⟩
  | cons b rest ih =>
      obtain ⟨digits, hdigits, hall⟩ := ih fun d hd => h d (List.mem_cons_of_mem _ hd)
      obtain ⟨hlow, hhigh⟩ := isDigitByte_iff.mp (h b List.mem_cons_self)
      have hchar : (Char.ofNat b.toNat).toNat = b.toNat := by
        interval_cases hb : b.toNat <;> rfl
      refine ⟨Char.ofNat b.toNat :: digits, ?_, ?_⟩
      · rw [utf8_ofList, List.flatMap_cons, utf8EncodeChar_of_lt (by omega), ← utf8_ofList, hdigits,
          hchar, UInt8.ofNat_toNat]
        rfl
      · intro c hc
        rcases List.mem_cons.mp hc with rfl | hc
        · simp only [Char.isDigit, Bool.and_eq_true, decide_eq_true_eq]
          exact ⟨show 48 ≤ (Char.ofNat b.toNat).toNat by omega,
            show (Char.ofNat b.toNat).toNat ≤ 57 by omega⟩
        · exact hall c hc

/-! ## Reading -/

theorem le_decimalBytesFrom (value : Nat) (digits : Bytes) :
    value ≤ decimalBytesFrom value digits := by
  induction digits generalizing value with
  | nil => exact le_refl value
  | cons b rest ih =>
      have hrest := ih (value * 10 + (b.toNat - 48))
      show value ≤ decimalBytesFrom (value * 10 + (b.toNat - 48)) rest
      omega

/-- The digits of a text go up to its first other byte, in one way only. -/
theorem takeWhile_isDigitByte {run rest : Bytes} (hrun : ∀ b ∈ run, isDigitByte b = true)
    (hrest : ∀ b ∈ rest.head?, isDigitByte b = false) :
    (run ++ rest).takeWhile isDigitByte = run ∧ (run ++ rest).dropWhile isDigitByte = rest := by
  induction run with
  | nil =>
      cases rest with
      | nil => exact ⟨rfl, rfl⟩
      | cons b tail =>
          have hb : isDigitByte b = false := hrest b rfl
          simp [hb]
  | cons b tail ih =>
      have hb : isDigitByte b = true := hrun b List.mem_cons_self
      have htail := ih fun d hd => hrun d (List.mem_cons_of_mem _ hd)
      simp [hb, htail]

end Library
end Benchplane
