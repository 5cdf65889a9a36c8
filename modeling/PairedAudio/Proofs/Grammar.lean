import Mathlib.Data.Nat.Digits.Defs
import PairedAudio.Proofs.Text

/-! What texts are made of: numerals, words with white space between them, the white space around a
text, and lines.

Each is a relation between a text and its parts that is said without the function that takes the text
apart. Every text has such parts, and the function finds just these.
-/

set_option autoImplicit false

namespace PairedAudio.Text

def Blank (text : List Char) : Prop := ∀ c ∈ text, isWhite c = true

def Solid (text : List Char) : Prop := ∀ c ∈ text, isWhite c = false

section Numerals

def decimalValue (body : List Char) : Nat :=
  Nat.ofDigits 10 (body.reverse.map fun c => c.toNat - '0'.toNat)

inductive Numeral : List Char → Nat → Prop
  | plain {body : List Char} (filled : body ≠ []) (digits : ∀ c ∈ body, c.isDigit) :
      Numeral body (decimalValue body)
  | plus {body : List Char} (filled : body ≠ []) (digits : ∀ c ∈ body, c.isDigit) :
      Numeral ('+' :: body) (decimalValue body)

theorem digitsValue_eq (body : List Char) : digitsValue body = decimalValue body := by
  rw [digitsValue, decimalValue, Nat.ofDigits_eq_foldr, List.foldl_eq_foldr_reverse, List.foldr_map]
  congr 1
  funext c value
  exact Nat.add_comm ..

theorem numeral_plus_iff {body : List Char} {n : Nat} :
    Numeral ('+' :: body) n ↔ body ≠ [] ∧ (∀ c ∈ body, c.isDigit) ∧ decimalValue body = n := by
  constructor
  · intro numeral
    cases numeral with
    | plain filled digits => exact absurd (digits '+' List.mem_cons_self) (by decide)
    | plus filled digits => exact ⟨filled, digits, rfl⟩
  · rintro ⟨filled, digits, rfl⟩
    exact .plus filled digits

theorem numeral_plain_iff {body : List Char} {n : Nat} (unsigned : ∀ rest, body ≠ '+' :: rest) :
    Numeral body n ↔ body ≠ [] ∧ (∀ c ∈ body, c.isDigit) ∧ decimalValue body = n := by
  constructor
  · intro numeral
    cases numeral with
    | plain filled digits => exact ⟨filled, digits, rfl⟩
    | plus filled digits => exact absurd rfl (unsigned _)
  · rintro ⟨filled, digits, rfl⟩
    exact .plain filled digits

theorem numeral?_eq_some_iff {limit n : Nat} {text : List Char} :
    numeral? limit text = some n ↔ Numeral text n ∧ n ≤ limit := by
  have body (digits : List Char) :
      (if digits.isEmpty || !digits.all Char.isDigit || limit < digitsValue digits then none
        else some (digitsValue digits)) = some n ↔
      (digits ≠ [] ∧ (∀ c ∈ digits, c.isDigit) ∧ decimalValue digits = n) ∧ n ≤ limit := by
    rw [digitsValue_eq]
    simp only [Bool.or_eq_true, List.isEmpty_iff, Bool.not_eq_true', decide_eq_true_eq,
      ← Bool.not_eq_true, List.all_eq_true]
    split
    · rename_i refused
      simp only [reduceCtorEq, false_iff]
      rintro ⟨⟨filled, each, rfl⟩, small⟩
      rcases refused with (empty | other) | large
      · exact filled empty
      · exact other each
      · omega
    · rename_i accepted
      simp only [not_or, not_not, Nat.not_lt] at accepted
      obtain ⟨⟨filled, each⟩, small⟩ := accepted
      simp only [Option.some.injEq]
      exact ⟨fun same => ⟨⟨filled, each, same⟩, same ▸ small⟩, fun parts => parts.1.2.2⟩
  unfold numeral?
  split
  next rest => rw [numeral_plus_iff]; exact body rest
  next unsigned =>
    rw [numeral_plain_iff fun rest same => unsigned rest same]
    exact body text

end Numerals

section Words

/-- How words make up a text: each is a run without white space, and between two of them there is
some. -/
inductive Worded : List Char → List (List Char) → Prop
  | nil : Worded [] []
  | white {c : Char} {rest : List Char} {words : List (List Char)} (white : isWhite c = true)
      (others : Worded rest words) : Worded (c :: rest) words
  | last {word : List Char} (filled : word ≠ []) (solid : Solid word) : Worded word [word]
  | word {word : List Char} {c : Char} {rest : List Char} {words : List (List Char)}
      (filled : word ≠ []) (solid : Solid word) (white : isWhite c = true)
      (others : Worded rest words) : Worded (word ++ c :: rest) (word :: words)

theorem Solid.cons {c : Char} {word : List Char} (black : isWhite c = false) (solid : Solid word) :
    Solid (c :: word) := by
  intro d present
  rcases List.mem_cons.mp present with rfl | present
  · exact black
  · exact solid d present

theorem exists_worded (text : List Char) : ∃ words, Worded text words := by
  -- From the back of the text: how the rest is made up decides where a character goes.
  induction text with
  | nil => exact ⟨[], .nil⟩
  | cons c rest ih =>
    obtain ⟨words, worded⟩ := ih
    cases shade : isWhite c with
    | true => exact ⟨words, .white shade worded⟩
    | false =>
      have alone : Solid [c] := .cons shade nofun
      -- The character is a word of its own, or the first one of the word behind it.
      cases worded with
      | nil => exact ⟨_, .last (by simp) alone⟩
      | white white others => exact ⟨_, .word (by simp) alone white others⟩
      | last filled solid => exact ⟨_, .last (by simp) (.cons shade solid)⟩
      | word filled solid white others => exact ⟨_, .word (by simp) (.cons shade solid) white others⟩

theorem words_of_worded {text : List Char} {found : List (List Char)} (worded : Worded text found) :
    words text = found := by
  induction worded with
  | nil => rfl
  | white white others ih => rw [words, if_pos white, ih]
  | last filled solid => exact words_of_solid filled solid
  | word filled solid white others ih => rw [words_append_white _ filled solid white, ih]

theorem words_eq_iff {text : List Char} {found : List (List Char)} :
    words text = found ↔ Worded text found := by
  constructor
  · rintro rfl
    obtain ⟨found, worded⟩ := exists_worded text
    rw [words_of_worded worded]
    exact worded
  · exact words_of_worded

end Words

section Trim

variable {text middle : List Char}

def Trimmed (text middle : List Char) : Prop :=
  ∃ before after, text = before ++ middle ++ after ∧ Blank before ∧ Blank after ∧ Bare middle

theorem trimStart_append {before : List Char} (blank : Blank before) (rest : List Char) :
    trimStart (before ++ rest) = trimStart rest := List.dropWhile_append_of_pos blank

theorem trimEnd_append {after : List Char} (blank : Blank after) (rest : List Char) :
    trimEnd (rest ++ after) = trimEnd rest := by
  have turned : Blank after.reverse := fun c present => blank c (List.mem_reverse.mp present)
  rw [trimEnd, List.reverse_append, trimStart_append turned, trimEnd]

theorem exists_blank_trimStart (text : List Char) :
    ∃ before, text = before ++ trimStart text ∧ Blank before :=
  ⟨text.takeWhile isWhite, List.takeWhile_append_dropWhile.symm,
    List.all_eq_true.mp List.all_takeWhile⟩

theorem exists_blank_trimEnd (text : List Char) :
    ∃ after, text = trimEnd text ++ after ∧ Blank after := by
  obtain ⟨before, whole, blank⟩ := exists_blank_trimStart text.reverse
  refine ⟨before.reverse, ?_, fun c present => blank c (List.mem_reverse.mp present)⟩
  rw [trimEnd, ← List.reverse_append, ← whole, List.reverse_reverse]

theorem trimmed_trim (text : List Char) : Trimmed text (trim text) := by
  obtain ⟨before, front, blank⟩ := exists_blank_trimStart text
  obtain ⟨after, back, blank'⟩ := exists_blank_trimEnd (trimStart text)
  refine ⟨before, after, ?_, blank, blank', bare_trim text⟩
  rw [List.append_assoc, trim, ← back, ← front]

theorem trim_of_trimmed (trimmed : Trimmed text middle) : trim text = middle := by
  obtain ⟨before, after, rfl, front, back, bare⟩ := trimmed
  rw [List.append_assoc, trim, trimStart_append front]
  cases middle with
  | nil =>
    have none : trimStart (after ++ []) = [] := trimStart_append back []
    rw [List.append_nil] at none
    rw [List.nil_append, none]
    rfl
  | cons c rest =>
    rw [trimStart_of_head? (by simpa using bare.1), trimEnd_append back]
    have trimmed := trim_of_bare bare
    rwa [trim, trimStart_of_head? bare.1] at trimmed

theorem trim_eq_iff : trim text = middle ↔ Trimmed text middle := by
  constructor
  · rintro rfl
    exact trimmed_trim text
  · exact trim_of_trimmed

end Trim

section Lines

/-- How lines make up a text. A line ends with a line feed or with a carriage return and a line feed,
and the last line may also end with the text. -/
inductive Lined : List Char → List (List Char) → Prop
  | nil : Lined [] []
  | last {line : List Char} (filled : line ≠ []) (whole : '\n' ∉ line) : Lined line [line]
  | feed {line rest : List Char} {lines : List (List Char)} (whole : '\n' ∉ line)
      (unreturned : line.getLast? ≠ some '\r') (others : Lined rest lines) :
      Lined (line ++ '\n' :: rest) (line :: lines)
  | returnFeed {line rest : List Char} {lines : List (List Char)} (whole : '\n' ∉ line)
      (others : Lined rest lines) : Lined (line ++ '\r' :: '\n' :: rest) (line :: lines)

theorem exists_lined (text : List Char) : ∃ lines, Lined text lines := by
  -- From the back of the text, as for words.
  induction text with
  | nil => exact ⟨[], .nil⟩
  | cons c rest ih =>
    obtain ⟨lines, lined⟩ := ih
    by_cases feed : c = '\n'
    · subst feed
      exact ⟨[] :: lines, @Lined.feed [] rest lines List.not_mem_nil (by simp) lined⟩
    have longer {line : List Char} (whole : '\n' ∉ line) : '\n' ∉ c :: line := by
      simpa [whole] using Ne.symm feed
    -- The character is the first one of the line behind it, unless it is a return of the line end.
    cases lined with
    | nil => exact ⟨_, .last (by simp) (longer List.not_mem_nil)⟩
    | last filled whole => exact ⟨_, .last (by simp) (longer whole)⟩
    | @feed line rest lines whole unreturned others =>
      cases line with
      | nil =>
        by_cases back : c = '\r'
        · subst back
          exact ⟨[] :: lines, @Lined.returnFeed [] rest lines List.not_mem_nil others⟩
        · exact ⟨[c] :: lines, @Lined.feed [c] rest lines (longer whole) (by simpa using back) others⟩
      | cons d line => exact ⟨_, .feed (longer whole) (by simpa using unreturned) others⟩
    | returnFeed whole others => exact ⟨_, .returnFeed (longer whole) others⟩

theorem lines_of_whole {line : List Char} (filled : line ≠ []) (whole : '\n' ∉ line) :
    lines line = [line] := by
  -- Over the line: it has no line end, so neither has what is behind its first character.
  induction line with
  | nil => exact absurd rfl filled
  | cons c rest ih =>
    obtain ⟨other, whole⟩ : '\n' ≠ c ∧ '\n' ∉ rest := by simpa using whole
    have unended : ∀ after, c = '\r' → rest = '\n' :: after → False := by
      rintro after - rfl
      simp at whole
    rw [lines_cons other.symm unended]
    cases rest with
    | nil => rfl
    | cons d rest => rw [ih (by simp) whole]

theorem lines_append_returnFeed {line : List Char} (rest : List Char) (whole : '\n' ∉ line) :
    lines (line ++ '\r' :: '\n' :: rest) = line :: lines rest := by
  -- Over the line; the carriage return ends it even if there is another one before.
  induction line with
  | nil => rfl
  | cons c line ih =>
    obtain ⟨other, whole⟩ : '\n' ≠ c ∧ '\n' ∉ line := by simpa using whole
    have unended : ∀ after, c = '\r' → line ++ '\r' :: '\n' :: rest = '\n' :: after → False := by
      rintro after - cut
      cases line with
      | nil => cases cut
      | cons d line =>
        cases cut
        simp at whole
    rw [List.cons_append, lines_cons other.symm unended, ih whole]

theorem lines_of_lined {text : List Char} {found : List (List Char)} (lined : Lined text found) :
    lines text = found := by
  induction lined with
  | nil => rfl
  | last filled whole => exact lines_of_whole filled whole
  | feed whole unreturned others ih => rw [lines_append_lineFeed _ whole unreturned, ih]
  | returnFeed whole others ih => rw [lines_append_returnFeed _ whole, ih]

theorem lines_eq_iff {text : List Char} {found : List (List Char)} :
    lines text = found ↔ Lined text found := by
  constructor
  · rintro rfl
    obtain ⟨found, lined⟩ := exists_lined text
    rw [lines_of_lined lined]
    exact lined
  · exact lines_of_lined

end Lines

end PairedAudio.Text
