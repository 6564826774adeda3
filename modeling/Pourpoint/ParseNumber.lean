import Pourpoint.F32

/-!
# Numbers in text

`str::parse` for the integer types and for `f32`. Integers take one sign (`-` only for signed types),
then digits, and must be in range. An `f32` is `inf`, `infinity`, `nan` in any case or a decimal
number with an optional exponent, rounded to nearest.
-/

namespace Pourpoint

/-- The value of a run of decimal digits. -/
def digitsValue (digits : List Char) : ℕ :=
  digits.foldl (fun n c => 10 * n + (c.toNat - '0'.toNat)) 0

/-- A nonempty run of decimal digits. -/
def parseDigits (text : List Char) : Option ℕ :=
  if text ≠ [] ∧ text.all Char.isDigit then some (digitsValue text) else none

/-- `str::parse` for the unsigned type with the given width. -/
def parseUnsigned (bits : ℕ) (text : String) : Option ℕ :=
  let digits := match text.toList with
    | '+' :: rest => rest
    | other => other
  (parseDigits digits).filter (· < 2 ^ bits)

/-- `str::parse` for the signed type with the given width. -/
def parseSigned (bits : ℕ) (text : String) : Option ℤ :=
  let value : Option ℤ := match text.toList with
    | '+' :: rest => (parseDigits rest).map fun n => (n : ℤ)
    | '-' :: rest => (parseDigits rest).map fun n => -(n : ℤ)
    | other => (parseDigits other).map fun n => (n : ℤ)
  value.filter fun v => -2 ^ (bits - 1) ≤ v ∧ v < 2 ^ (bits - 1)

def parseU8 (text : String) : Option UInt8 := (parseUnsigned 8 text).map UInt8.ofNat

/-- `parse::<i8>()` followed by `as u8`. -/
def parseI8AsU8 (text : String) : Option UInt8 := (parseSigned 8 text).map fun v => UInt8.ofInt v

def parseI32 (text : String) : Option ℤ := parseSigned 32 text

example : parseU8 "255" = some 255 ∧ parseU8 "256" = none ∧ parseU8 "-1" = none := by decide
example : parseI8AsU8 "-128" = some 128 ∧ parseI8AsU8 "+" = none := by decide
example : parseI32 "-9999.0" = none ∧ parseI32 "-9999" = some (-9999) := by decide

/-- The exponent part of a decimal number. -/
def parseExponent : List Char → Option ℤ
  | [] => some 0
  | c :: rest =>
    if c = 'e' ∨ c = 'E' then
      match rest with
      | '+' :: digits => (parseDigits digits).map fun n => (n : ℤ)
      | '-' :: digits => (parseDigits digits).map fun n => -(n : ℤ)
      | digits => (parseDigits digits).map fun n => (n : ℤ)
    else none

/-- An unsigned decimal number with an optional fraction and exponent. -/
def parseDecimal (text : List Char) : Option ℚ := do
  let whole := text.takeWhile Char.isDigit
  let afterWhole := text.dropWhile Char.isDigit
  let (fraction, afterFraction) := match afterWhole with
    | '.' :: rest => (rest.takeWhile Char.isDigit, rest.dropWhile Char.isDigit)
    | other => ([], other)
  if whole = [] ∧ fraction = [] then none
  else
    let exponent ← parseExponent afterFraction
    some (digitsValue (whole ++ fraction) * (10 : ℚ) ^ (exponent - fraction.length))

/-- An `f32` without its sign. -/
def parseF32Unsigned (text : List Char) : Option F32 :=
  let lower := text.map Char.toLower
  if lower = "inf".toList ∨ lower = "infinity".toList then some F32.infinity
  else if lower = "nan".toList then some F32.nan
  else (parseDecimal text).map F32.ofNonneg

/-- `parse::<f32>()`. -/
def parseF32 (text : String) : Option F32 :=
  match text.toList with
  | '+' :: rest => parseF32Unsigned rest
  | '-' :: rest => (parseF32Unsigned rest).map F32.neg
  | other => parseF32Unsigned other

example : parseF32 "NaN" = some F32.nan ∧ parseF32 "." = none := by decide
example : parseF32 "-9999.0" = some ⟨true, 0x461C3C00⟩ := by decide +kernel
example : parseF32 "1.5e-45" = some ⟨false, 1⟩ := by decide +kernel

end Pourpoint
