/-! Decimal numerals: how numbers are written, and which texts are read as a number. -/

set_option autoImplicit false

namespace PairedAudio.Text

def digit (n : Nat) : Char := Char.ofNat (48 + n % 10)

/-- The digits of `n` without leading zeros; a single zero for zero. -/
def digits (n : Nat) : List Char :=
  if n < 10 then [digit n] else digits (n / 10) ++ [digit n]
termination_by n

def decimal (n : Nat) : String := String.ofList (digits n)

def signedDecimal (i : Int) : String :=
  if i < 0 then "-" ++ decimal i.natAbs else decimal i.natAbs

def zeroPadded (width n : Nat) : List Char :=
  List.replicate (width - (digits n).length) '0' ++ digits n

def digitsValue (text : List Char) : Nat :=
  text.foldl (fun value c => 10 * value + (c.toNat - 48)) 0

/-- One or more ASCII digits after an optional plus sign, with a value of at most `limit`. -/
def numeral? (limit : Nat) (text : List Char) : Option Nat :=
  let body := match text with
    | '+' :: rest => rest
    | _ => text
  if body.isEmpty || !body.all Char.isDigit || limit < digitsValue body then none
  else some (digitsValue body)

example : numeral? 65535 "+0065535".toList = some 65535 ∧ numeral? 65535 "65536".toList = none ∧
    numeral? 65535 "-0".toList = none ∧ numeral? 65535 "+".toList = none := by decide

theorem digit_toNat (n : Nat) : (digit n).toNat = 48 + n % 10 := by
  have each : ∀ k < 10, (Char.ofNat (48 + k)).toNat = 48 + k := by decide
  exact each (n % 10) (Nat.mod_lt n (by decide))

theorem digit_isDigit (n : Nat) : (digit n).isDigit := by
  have small : n % 10 < 10 := Nat.mod_lt n (by decide)
  have value := digit_toNat n
  simp only [Char.isDigit, Bool.and_eq_true, decide_eq_true_eq, ge_iff_le, UInt32.le_iff_toNat_le]
  change 48 ≤ (digit n).toNat ∧ (digit n).toNat ≤ 57
  omega

theorem digits_ne_nil (n : Nat) : digits n ≠ [] := by
  rw [digits]
  split <;> simp

theorem isDigit_of_mem_digits (n : Nat) : ∀ c ∈ digits n, c.isDigit := by
  induction n using digits.induct with
  | case1 n small =>
    rw [digits, if_pos small]
    simp [digit_isDigit]
  | case2 n large ih =>
    rw [digits, if_neg large]
    intro c member
    rcases List.mem_append.mp member with member | member
    · exact ih c member
    · rw [List.mem_singleton.mp member]
      exact digit_isDigit n

theorem digitsValue_append_digit (text : List Char) (n : Nat) :
    digitsValue (text ++ [digit n]) = 10 * digitsValue text + n % 10 := by
  have value := digit_toNat n
  simp only [digitsValue, List.foldl_append, List.foldl_cons, List.foldl_nil]
  omega

theorem digitsValue_digits (n : Nat) : digitsValue (digits n) = n := by
  -- As the digits are made: the last one is the remainder by ten.
  induction n using digits.induct with
  | case1 n small =>
    have empty := digitsValue_append_digit [] n
    rw [digits, if_pos small]
    simp only [List.nil_append] at empty
    rw [empty]
    simp only [digitsValue, List.foldl_nil]
    omega
  | case2 n large ih =>
    rw [digits, if_neg large, digitsValue_append_digit, ih]
    omega

theorem numeral?_digits (limit n : Nat) (within : n ≤ limit) : numeral? limit (digits n) = some n := by
  have unsigned : ∀ rest, digits n ≠ '+' :: rest := by
    intro rest same
    have plus := isDigit_of_mem_digits n '+' (by simp [same])
    exact absurd plus (by decide)
  have all : (digits n).all Char.isDigit = true := List.all_eq_true.mpr (isDigit_of_mem_digits n)
  have some_digit : (digits n).isEmpty = false := by simp [digits_ne_nil]
  unfold numeral?
  split
  next rest same => exact absurd same (unsigned rest)
  next => simp [all, some_digit, digitsValue_digits, Nat.not_lt.mpr within]

def hexDigits (n : Nat) : List Char :=
  if n < 16 then [Nat.digitChar n] else hexDigits (n / 16) ++ [Nat.digitChar (n % 16)]
termination_by n

end PairedAudio.Text
