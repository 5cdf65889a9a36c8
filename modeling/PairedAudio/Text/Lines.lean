/-! Lines of a text. A line ends at a line feed, which takes one carriage return before it along;
what follows the last line feed is a line too unless it is empty. -/

set_option autoImplicit false

namespace PairedAudio.Text

def lines : List Char → List (List Char)
  | [] => []
  | '\n' :: rest => [] :: lines rest
  | '\r' :: '\n' :: rest => [] :: lines rest
  | c :: rest => match lines rest with
    | [] => [[c]]
    | line :: others => (c :: line) :: others

example : lines "a\r\n\nb\r".toList = ["a".toList, [], "b\r".toList] := by decide

end PairedAudio.Text
