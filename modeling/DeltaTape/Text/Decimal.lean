/-
# DeltaTape.Text.Decimal — decimal numbers of bounded length

Numbers are unbounded, but their decimal text is not: no more than `maxDigits`
digits are written or read.  Leading zeros count when reading; the sign never
counts.

* `ofNat_eq_ok` and `ofNat_eq_error`: a number is written exactly when it is
  below `bound`;
* `ofInt_eq_error` and `mapM_ofInt_eq_error`: an integer is not written exactly
  when it is at least `bound` away from zero, and a list not when one of it is not.
-/

namespace DeltaTape

set_option autoImplicit false

/-- A number whose decimal text would be too long, and which way it was being
converted. -/
inductive DigitLimit where
  | reading (digits : Nat)
  | writing
  deriving DecidableEq

namespace Decimal

/-- The most digits a decimal number may have. -/
def maxDigits : Nat := 4300

/-- The least number with more digits than that. -/
def bound : Nat := Nat.pow 10 maxDigits

/-- The decimal text of a natural number, when it is short enough. -/
def ofNat (n : Nat) : Except DigitLimit String :=
  let digits := Nat.toDigits 10 n
  if digits.length ≤ maxDigits then .ok (String.ofList digits) else .error .writing

/-- The decimal text of an integer, when it is short enough. -/
def ofInt (n : Int) : Except DigitLimit String :=
  (ofNat n.natAbs).map fun digits => if n < 0 then "-" ++ digits else digits

/-- The number a run of decimal digits stands for, when it is short enough. -/
def toNat (digits : List Char) : Except DigitLimit Nat :=
  if digits.length ≤ maxDigits then .ok (Nat.ofDigitChars 10 digits 0)
  else .error (.reading digits.length)

theorem length_toDigits_le_iff_pow {n k : Nat} (positive : 0 < k) :
    (Nat.toDigits 10 n).length ≤ k ↔ n < Nat.pow 10 k :=
  Nat.length_toDigits_le_iff (by decide) positive

theorem length_toDigits_le {n : Nat} : (Nat.toDigits 10 n).length ≤ maxDigits ↔ n < bound := by
  unfold bound
  exact length_toDigits_le_iff_pow (by decide)

theorem ofNat_eq_ok {n : Nat} (short : n < bound) :
    ofNat n = .ok (String.ofList (Nat.toDigits 10 n)) :=
  if_pos (length_toDigits_le.2 short)

theorem ofNat_eq_error {n : Nat} (long : bound ≤ n) : ofNat n = .error .writing :=
  if_neg fun h => absurd (length_toDigits_le.1 h) (Nat.not_lt.2 long)

theorem ofInt_eq_error {n : Int} {limit : DigitLimit} :
    ofInt n = .error limit ↔ bound ≤ n.natAbs ∧ limit = .writing := by
  unfold ofInt
  by_cases short : n.natAbs < bound
  · simp [ofNat_eq_ok short, Except.map, Nat.not_le.2 short]
  · simp [ofNat_eq_error (Nat.not_lt.1 short), Except.map, Nat.not_lt.1 short, eq_comm]

/-- A list of integers is not written exactly when one of them is not. -/
theorem mapM_ofInt_eq_error {numbers : List Int} {limit : DigitLimit} :
    numbers.mapM ofInt = .error limit ↔
      (∃ n ∈ numbers, bound ≤ n.natAbs) ∧ limit = .writing := by
  induction numbers with
  | nil => simp [pure, Except.pure]
  | cons n numbers ih =>
      rw [List.mapM_cons]
      cases written : ofInt n with
      | error l =>
          obtain ⟨long, rfl⟩ := ofInt_eq_error.1 written
          simp [bind, Except.bind, long, eq_comm]
      | ok text =>
          have short : ¬ bound ≤ n.natAbs := by
            intro long
            rw [ofInt_eq_error.2 ⟨long, rfl⟩] at written
            cases written
          simp only [List.mem_cons, exists_eq_or_imp, short, false_or, ← ih]
          cases numbers.mapM ofInt <;> simp [bind, Except.bind, pure, Except.pure]

end Decimal

/-- The text of a digit limit failure; reading names the count of digits. -/
def DigitLimit.message : DigitLimit → String
  | reading digits =>
    "Exceeds the limit (4300 digits) for integer string conversion: value has " ++
      toString digits ++ " digits; use sys.set_int_max_str_digits() to increase the limit"
  | writing =>
    "Exceeds the limit (4300 digits) for integer string conversion; " ++
      "use sys.set_int_max_str_digits() to increase the limit"

end DeltaTape
