import Pourpoint.Library.Decimal

/-!
# JSON texts of strings and numbers

How a compact JSON writer escapes a string and writes a number, and that both are read back in front of
anything that follows (`readString_quoted`, `readNumber_decimal`). No character that is written is a
control character.
-/

namespace Library.JsonText

def quoteMark : Char := Char.ofNat 0x22

def backslash : Char := Char.ofNat 0x5c

/-! ## Strings -/

/-- The letter after the backslash for the control characters that have one. -/
def shortEscape (code : ℕ) : Option Char :=
  if code = 0x08 then some 'b'
  else if code = 0x09 then some 't'
  else if code = 0x0a then some 'n'
  else if code = 0x0c then some 'f'
  else if code = 0x0d then some 'r'
  else none

/-- A control character. -/
def escapeControl (code : ℕ) : List Char :=
  match shortEscape code with
  | some letter => [backslash, letter]
  | none => [backslash, 'u', '0', '0', Nat.digitChar (code / 16), Nat.digitChar (code % 16)]

/-- A character as it stands in a text. -/
def escapeChar (c : Char) : List Char :=
  if c = quoteMark ∨ c = backslash then [backslash, c]
  else if c.toNat < 0x20 then escapeControl c.toNat
  else [c]

/-- The text of a string, from its first character to the closing mark. -/
def quoted (text : List Char) : List Char := text.flatMap escapeChar ++ [quoteMark]

/-- The value of a hexadecimal digit. -/
def hexValue (digit : Char) : ℕ :=
  if digit.isDigit then digit.toNat - 0x30 else digit.toNat - 0x57

/-- The character of a letter after a backslash. -/
def unescapeLetter (letter : Char) : Char :=
  if letter = 'b' then Char.ofNat 0x08
  else if letter = 't' then Char.ofNat 0x09
  else if letter = 'n' then Char.ofNat 0x0a
  else if letter = 'f' then Char.ofNat 0x0c
  else if letter = 'r' then Char.ofNat 0x0d
  else letter

/-- Read a string up to its closing mark. -/
def readString : List Char → Option (List Char × List Char)
  | [] => none
  | c :: rest =>
    if c = quoteMark then some ([], rest)
    else if c = backslash then
      match rest with
      | 'u' :: a :: b :: c :: d :: rest =>
        (readString rest).map fun read =>
          (Char.ofNat (4096 * hexValue a + 256 * hexValue b + 16 * hexValue c + hexValue d) :: read.1,
            read.2)
      | letter :: rest => (readString rest).map fun read => (unescapeLetter letter :: read.1, read.2)
      | [] => none
    else (readString rest).map fun read => (c :: read.1, read.2)

/-- One escaped character is read back. -/
theorem readString_escapeChar (c : Char) (rest : List Char) :
    readString (escapeChar c ++ rest) = (readString rest).map fun read => (c :: read.1, read.2) := by
  unfold escapeChar
  split_ifs with hmark hcontrol
  · rcases hmark with rfl | rfl
    · simp [readString, quoteMark, backslash, unescapeLetter]
    · simp [readString, quoteMark, backslash, unescapeLetter]
  · obtain ⟨n, hn⟩ : ∃ n, c.toNat = n := ⟨_, rfl⟩
    obtain rfl : c = Char.ofNat n := by rw [← hn, Char.ofNat_toNat]
    rw [hn] at hcontrol ⊢
    interval_cases n <;> rfl
  · rw [not_or] at hmark
    rw [List.singleton_append, readString.eq_def]
    simp only [if_neg hmark.1, if_neg hmark.2]

/-- **Strings are read back.** -/
theorem readString_quoted (text rest : List Char) :
    readString (quoted text ++ rest) = some (text, rest) := by
  induction text with
  | nil =>
    rw [quoted, List.flatMap_nil, List.nil_append, List.singleton_append, readString.eq_def]
    exact if_pos rfl
  | cons c text ih =>
    rw [quoted, List.flatMap_cons, List.append_assoc, List.append_assoc, readString_escapeChar]
    rw [quoted, List.append_assoc] at ih
    rw [ih]
    rfl

/-- What is written holds no control character. -/
theorem le_of_mem_escapeChar {c d : Char} (h : d ∈ escapeChar c) : 0x20 ≤ d.toNat := by
  unfold escapeChar at h
  split_ifs at h with hmark hcontrol
  · rcases hmark with rfl | rfl <;> simp [backslash, quoteMark] at h
    · rcases h with rfl | rfl <;> decide
    · subst h
      decide
  · obtain ⟨n, hn⟩ : ∃ n, c.toNat = n := ⟨_, rfl⟩
    rw [hn] at hcontrol h
    have hall : (escapeControl n).all (fun d => Nat.ble 0x20 d.toNat) = true := by
      clear hn h
      interval_cases n <;> rfl
    exact Nat.le_of_ble_eq_true (List.all_eq_true.1 hall d h)
  · rw [List.mem_singleton.1 h]
    exact not_lt.1 hcontrol

theorem le_of_mem_quoted {text : List Char} {d : Char} (h : d ∈ quoted text) : 0x20 ≤ d.toNat := by
  rcases List.mem_append.1 h with h | h
  · obtain ⟨c, -, hd⟩ := List.mem_flatMap.1 h
    exact le_of_mem_escapeChar hd
  · rw [List.mem_singleton.1 h]
    decide

/-! ## Numbers -/

/-- Read a number. -/
def readNumber (text : List Char) : Option (ℕ × List Char) :=
  let digits := text.takeWhile Char.isDigit
  if digits = [] then none else some (Nat.ofDigitChars 10 digits 0, text.drop digits.length)

/-- **Numbers are read back.** -/
theorem readNumber_decimal (n : ℕ) {rest : List Char} (hrest : Pourpoint.NoDigitFirst rest) :
    readNumber (Nat.toDigits 10 n ++ rest) = some (n, rest) := by
  have hdigits : (Nat.toDigits 10 n ++ rest).takeWhile Char.isDigit = Nat.toDigits 10 n :=
    Pourpoint.takeWhile_isDigit_append
      (fun c hc => Nat.isDigit_of_mem_toDigits (by decide) (by decide) hc) hrest
  rw [readNumber, hdigits]
  rw [if_neg Nat.toDigits_ne_nil, List.drop_left, Nat.ofDigitChars_toDigits (by decide) (by decide)]

end Library.JsonText
