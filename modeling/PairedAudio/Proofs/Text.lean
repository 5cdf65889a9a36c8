import PairedAudio.Text.Lines
import PairedAudio.Text.Numeral
import PairedAudio.Text.White

/-! Laws of reading texts: lines, the white space around a text, and words.

What is written with a line feed behind each line and one space between two words is read back as
these lines and words, if no line or word holds what would cut it.
-/

set_option autoImplicit false

namespace PairedAudio.Text

def Bare (text : List Char) : Prop :=
  (∀ c ∈ text.head?, isWhite c = false) ∧ ∀ c ∈ text.getLast?, isWhite c = false

theorem isWhite_of_isDigit {c : Char} (digit : c.isDigit) : isWhite c = false := by
  simp only [Char.isDigit, Bool.and_eq_true, decide_eq_true_eq, ge_iff_le,
    UInt32.le_iff_toNat_le] at digit
  change 48 ≤ c.toNat ∧ c.toNat ≤ 57 at digit
  simp [isWhite]
  omega

theorem isWhite_of_mem_digits {n : Nat} {c : Char} (present : c ∈ digits n) : isWhite c = false :=
  isWhite_of_isDigit (isDigit_of_mem_digits n c present)

theorem not_mem_of_solid {text : List Char} (solid : ∀ c ∈ text, isWhite c = false) : '\n' ∉ text := by
  intro present
  have black := solid '\n' present
  revert black
  decide

theorem length_digits_le {n k : Nat} (small : n < Nat.pow 10 (k + 1)) : (digits n).length ≤ k + 1 := by
  -- Each digit behind the first divides the number by ten, and the bound with it.
  induction n using digits.induct generalizing k with
  | case1 n one =>
    rw [digits, if_pos one]
    simp
  | case2 n more ih =>
    cases k with
    | zero =>
      change n < 10 at small
      omega
    | succ k =>
      change n < Nat.pow 10 (k + 1) * 10 at small
      have shorter : (digits (n / 10)).length ≤ k + 1 := ih (by omega)
      rw [digits, if_neg more, List.length_append, List.length_singleton]
      omega

theorem utf8ByteSize_of_digits {text : List Char} (solid : ∀ c ∈ text, c.isDigit) :
    (String.ofList text).utf8ByteSize = text.length := by
  induction text with
  | nil => rfl
  | cons c rest ih =>
    have size : c.utf8Size = 1 := by
      have digit := solid c List.mem_cons_self
      simp only [Char.isDigit, Bool.and_eq_true, decide_eq_true_eq] at digit
      exact Char.utf8Size_eq_one_iff.mpr (UInt32.le_trans digit.2 (by decide))
    rw [String.ofList_cons, String.utf8ByteSize_append, String.utf8ByteSize_singleton, size,
      ih fun d present => solid d (List.mem_cons_of_mem c present), List.length_cons]
    omega

section Trim

variable {text : List Char}

theorem Bare.of_solid (solid : ∀ c ∈ text, isWhite c = false) : Bare text :=
  ⟨fun c first => solid c (List.mem_of_mem_head? first),
    fun c last => solid c (List.mem_of_mem_getLast? last)⟩

theorem isWhite_of_head?_trimStart : ∀ c ∈ (trimStart text).head?, isWhite c = false := by
  intro c first
  have stop := List.head?_dropWhile_not isWhite text
  rw [show (text.dropWhile isWhite).head? = some c from first] at stop
  exact stop

theorem trimStart_of_head? (first : ∀ c ∈ text.head?, isWhite c = false) : trimStart text = text := by
  cases text with
  | nil => rfl
  | cons c rest =>
    have black : isWhite c = false := first c rfl
    simp [trimStart, black]

theorem isPrefix_trimEnd (text : List Char) : trimEnd text <+: text := by
  have cut : trimStart text.reverse <:+ text.reverse := List.dropWhile_suffix isWhite
  rw [← List.reverse_prefix, List.reverse_reverse] at cut
  exact cut

theorem mem_of_mem_trim {c : Char} (present : c ∈ trim text) : c ∈ text :=
  (List.dropWhile_suffix isWhite).subset ((isPrefix_trimEnd _).subset present)

theorem bare_trim (text : List Char) : Bare (trim text) := by
  constructor
  · intro c first
    obtain ⟨rest, cut⟩ := isPrefix_trimEnd (trimStart text)
    have whole : c ∈ (trimStart text).head? := by
      rw [trim] at first
      rw [← cut, List.head?_append, first]
      rfl
    exact isWhite_of_head?_trimStart c whole
  · intro c last
    rw [trim, trimEnd, List.getLast?_reverse] at last
    exact isWhite_of_head?_trimStart c last

theorem trim_of_bare (bare : Bare text) : trim text = text := by
  have last : ∀ c ∈ text.reverse.head?, isWhite c = false := by
    rw [List.head?_reverse]
    exact bare.2
  rw [trim, trimStart_of_head? bare.1, trimEnd, trimStart_of_head? last, List.reverse_reverse]

end Trim

section Lines

theorem lines_cons {c : Char} {rest : List Char} (other : c = '\n' → False)
    (unended : ∀ after, c = '\r' → rest = '\n' :: after → False) :
    lines (c :: rest) = match lines rest with
      | [] => [[c]]
      | line :: others => (c :: line) :: others := by
  rw [lines] <;> first | rfl | assumption

/-- A line without a line feed, and without a carriage return at its end, is read back. -/
theorem lines_append_lineFeed {line : List Char} (rest : List Char) (whole : '\n' ∉ line)
    (unreturned : line.getLast? ≠ some '\r') :
    lines (line ++ '\n' :: rest) = line :: lines rest := by
  -- Over the line: no character of it ends a line, and the last one is no carriage return.
  induction line with
  | nil => rfl
  | cons c line ih =>
    obtain ⟨other, whole⟩ : '\n' ≠ c ∧ '\n' ∉ line := by simpa using whole
    have unended : ∀ after, c = '\r' → line ++ '\n' :: rest = '\n' :: after → False := by
      -- A return before the line feed would be the last character of the line.
      rintro after rfl cut
      cases line with
      | nil => exact unreturned rfl
      | cons d line =>
        cases cut
        simp at whole
    have unreturned : line.getLast? ≠ some '\r' := by
      cases line with
      | nil => simp
      | cons d line => simpa using unreturned
    rw [List.cons_append, lines_cons other.symm unended, ih whole unreturned]

theorem not_mem_of_mem_lines {text line : List Char} (present : line ∈ lines text) : '\n' ∉ line := by
  -- The cases are those of `lines`: the end, a line feed without and with a return before it, and
  -- any other character on the last line or on an earlier one.
  induction text using lines.induct generalizing line with
  | case1 => cases present
  | case2 rest ih | case3 rest ih =>
    rcases List.mem_cons.mp present with rfl | later
    · exact List.not_mem_nil
    · exact ih later
  | case4 c rest other unended last ih =>
    rw [lines_cons other unended, last] at present
    rw [List.mem_singleton.mp present]
    simpa using Ne.symm other
  | case5 c rest other unended first others split ih =>
    rw [lines_cons other unended, split] at present
    rcases List.mem_cons.mp present with rfl | later
    · have whole : '\n' ∉ first := ih (by simp [split])
      simpa [whole] using Ne.symm other
    · exact ih (by simp [split, later])

end Lines

section Words

variable {word : List Char}

theorem words_append_white {c : Char} (rest : List Char) (filled : word ≠ [])
    (solid : ∀ c ∈ word, isWhite c = false) (white : isWhite c = true) :
    words (word ++ c :: rest) = word :: words rest := by
  induction word with
  | nil => exact absurd rfl filled
  | cons x word ih =>
    have black := solid x List.mem_cons_self
    cases word with
    | nil =>
      simp only [List.cons_append, List.nil_append, words, black, white, List.head?_cons]
      cases words rest <;> simp [white]
    | cons y word =>
      have next := solid y (by simp)
      have later := ih (by simp) fun c present => solid c (List.mem_cons_of_mem x present)
      rw [List.cons_append, words, if_neg (by simp [black]), later]
      simp [next]

theorem words_of_solid (filled : word ≠ []) (solid : ∀ c ∈ word, isWhite c = false) :
    words word = [word] := by
  induction word with
  | nil => exact absurd rfl filled
  | cons x word ih =>
    have black := solid x List.mem_cons_self
    cases word with
    | nil => simp [words, black]
    | cons y word =>
      have next := solid y (by simp)
      have later := ih (by simp) fun c present => solid c (List.mem_cons_of_mem x present)
      rw [words, if_neg (by simp [black]), later]
      simp [next]

end Words

end PairedAudio.Text
