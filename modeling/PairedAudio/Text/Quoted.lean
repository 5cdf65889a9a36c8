import PairedAudio.Text.Hidden
import PairedAudio.Text.Numeral

/-! Quoted text for messages: double quotes around it, and an escape for every character that
would not show as itself. -/

set_option autoImplicit false

namespace PairedAudio.Text

/-- A code point by number: a backslash, the letter u and hexadecimal digits in braces. -/
def escapeByNumber (c : Char) : List Char :=
  '\\' :: 'u' :: Char.ofNat 0x7b :: hexDigits c.toNat ++ [Char.ofNat 0x7d]

def escape (c : Char) : List Char :=
  match c with
  | '\x00' => ['\\', '0']
  | '\t' => ['\\', 't']
  | '\n' => ['\\', 'n']
  | '\r' => ['\\', 'r']
  | '\\' => ['\\', '\\']
  | '"' => ['\\', '"']
  | _ =>
    let n := c.toNat
    if n < 0x20 || n == 0x7f || (0x80 ≤ n && isHidden n) then escapeByNumber c else [c]

def quote (text : List Char) : String :=
  String.ofList ('"' :: text.flatMap escape ++ ['"'])

end PairedAudio.Text
