/-! White space as the Unicode property White_Space has it, and its two uses: cutting it off both
ends of a text, and splitting a text into words at it. -/

set_option autoImplicit false

namespace PairedAudio.Text

/-- The 25 code points with the property White_Space. -/
def isWhite (c : Char) : Bool :=
  let n := c.toNat
  (9 ≤ n && n ≤ 13) || n == 0x20 || n == 0x85 || n == 0xa0 || n == 0x1680 ||
    (0x2000 ≤ n && n ≤ 0x200a) || n == 0x2028 || n == 0x2029 || n == 0x202f || n == 0x205f || n == 0x3000

def trimStart (text : List Char) : List Char := text.dropWhile isWhite

def trimEnd (text : List Char) : List Char := (trimStart text.reverse).reverse

def trim (text : List Char) : List Char := trimEnd (trimStart text)

/-- The longest runs without white space, in order. -/
def words : List Char → List (List Char)
  | [] => []
  | c :: rest =>
    if isWhite c then words rest
    else match rest.head?, words rest with
      | some next, word :: others => if isWhite next then [c] :: word :: others else (c :: word) :: others
      | _, others => [c] :: others

example : words "  pcm   24\t96000 \n".toList = ["pcm".toList, "24".toList, "96000".toList] := by decide

end PairedAudio.Text
