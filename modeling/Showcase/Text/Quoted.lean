import Showcase.Text.Invisible

namespace Showcase

def hexText (n : Nat) : String := String.ofList (Nat.toDigits 16 n)

/-- Escapes the quote, the backslash and every character that would not show. -/
def escapeShown (c : Char) : String :=
  match c with
  | '\x00' => "\\0"
  | '\t' => "\\t"
  | '\n' => "\\n"
  | '\r' => "\\r"
  | '"' => "\\\""
  | '\\' => "\\\\"
  | c => if isInvisible c then "\\u\x7b" ++ hexText c.toNat ++ "\x7d" else c.toString

def quoted (s : String) : String :=
  "\"" ++ String.join (s.toList.map escapeShown) ++ "\""

end Showcase
