import CallFrame.Text.Printable

/-! # Quoted text

A text is shown between double quotes so that a reader can tell its exact characters.

* **`Text.escape`** is the written form of one character. A quote or backslash follows a backslash,
  four control characters have a letter or digit of their own, and whatever else cannot stand for
  itself is written as its code point.
* **`Text.quote`** is the written form of a text. -/

namespace CallFrame.Text

/-- A code point in lower-case hexadecimal digits between braces. -/
def escapeCode (character : Char) : List Char :=
  "\\u\x7b".toList ++ Nat.toDigits 16 character.toNat ++ "\x7d".toList

/-- The written form of one character between double quotes. -/
def escape (character : Char) : List Char :=
  match character with
  | '\x00' => "\\0".toList
  | '\t' => "\\t".toList
  | '\n' => "\\n".toList
  | '\r' => "\\r".toList
  | '"' => "\\\"".toList
  | '\\' => "\\\\".toList
  | _ => if isShown character then [character] else escapeCode character

/-- The written form of a text. -/
def quote (text : String) : String :=
  String.ofList ('"' :: text.toList.flatMap escape ++ ['"'])

end CallFrame.Text
