/-!
# Debug texts

The texts that `{:?}` gives for strings and lists. Of the characters beyond ASCII the table of the
printable ones is left out: they stand for themselves.
-/

namespace Library

/-- `char::escape_debug` in a string. -/
def escapeDebug (c : Char) : String :=
  if c = Char.ofNat 0 then "\\0"
  else if c = '\t' then "\\t"
  else if c = '\r' then "\\r"
  else if c = '\n' then "\\n"
  else if c = '"' then "\\\""
  else if c = '\\' then "\\\\"
  else if c.toNat < 32 ∨ c.toNat = 127 then
    "\\u\x7b" ++ String.ofList (Nat.toDigits 16 c.toNat) ++ "\x7d"
  else c.toString

/-- The `Debug` text of a string. -/
def debugStr (text : String) : String := "\"" ++ String.join (text.toList.map escapeDebug) ++ "\""

/-- The `Debug` text of a list, from those of its members. -/
def debugList (texts : List String) : String := "[" ++ ", ".intercalate texts ++ "]"

example : debugStr "a\"\n\x1b" = "\"a\\\"\\n\\u\x7b1b\x7d\"" := by decide +kernel

end Library
