import RdfGateway.Text.Printable

/-!
# Quoted text in messages

A message quotes a text in double quotes. The quote and the backslash get a backslash, the usual
controls have letters, and every other character that cannot be shown on its own is written by its
code point.
-/

namespace RdfGateway.Text

/-- One character as it stands between the quotes. -/
def quotedChar (c : Char) : List Char :=
  match c with
  | '\x00' => ['\\', '0']
  | '\t' => ['\\', 't']
  | '\n' => ['\\', 'n']
  | '\r' => ['\\', 'r']
  | '"' => ['\\', '"']
  | '\\' => ['\\', '\\']
  | c => if isPrintable c then [c] else '\\' :: 'u' :: '\x7b' :: (Nat.toDigits 16 c.toNat ++ ['\x7d'])

/-- The text in double quotes, every character of it visible. -/
def quoted (text : String) : String :=
  .ofList ('"' :: (text.toList.flatMap quotedChar ++ ['"']))

end RdfGateway.Text
