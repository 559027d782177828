/-
# Decimal text of integers

`std::to_string` and `operator<<` on an `int64_t` write it in decimal, with a leading `-`
when it is negative; the model writes it with `toString`, which does the same. Reading such
text back is what keeps the numbers of a built channel URI apart: `readInt` undoes
`toString` (`readInt_toString`), and decimal text starts with a digit or with `-`
(`head_toString`), so it never starts with a tag prefix that does not.
-/

import Mathlib.Tactic.IntervalCases
import Mathlib.Data.Nat.Digits

namespace Aeron

/-- The value of a decimal digit character. -/
def digitValue (c : Char) : Nat := c.toNat - '0'.toNat

/-- The number whose decimal digits are those already read into `acc` followed by
`digits`. -/
def readDigits (digits : List Char) (acc : Nat) : Nat :=
  digits.foldl (fun acc c => 10 * acc + digitValue c) acc

/-- The integer a decimal text stands for. -/
def readInt (text : List Char) : Int :=
  if text.head? = some '-' then -(readDigits text.tail 0 : Int) else readDigits text 0

@[simp] theorem readDigits_cons (c : Char) (digits : List Char) (acc : Nat) :
    readDigits (c :: digits) acc = readDigits digits (10 * acc + digitValue c) := rfl

theorem digitValue_digitChar {d : Nat} (hd : d < 10) : digitValue (Nat.digitChar d) = d := by
  interval_cases d <;> rfl

theorem isDigit_digitChar {d : Nat} (hd : d < 10) : (Nat.digitChar d).isDigit = true := by
  interval_cases d <;> rfl

/-- Reading the digits `toDigitsCore` puts in front of `ds` reads `n` first. -/
theorem readDigits_toDigitsCore {fuel n : Nat} (ds : List Char) (hfuel : n < fuel) :
    readDigits (Nat.toDigitsCore 10 fuel n ds) 0 = readDigits ds n := by
  induction fuel generalizing n ds with
  | zero => omega
  | succ fuel ih =>
    have hdigit := digitValue_digitChar (Nat.mod_lt n (by norm_num : 10 > 0))
    simp only [Nat.toDigitsCore]
    split
    · rw [readDigits_cons, hdigit]; congr 1; omega
    · rw [ih _ (by omega), readDigits_cons, hdigit, Nat.div_add_mod]

/-- `toDigitsCore` only ever adds digits. -/
theorem isDigit_of_mem_toDigitsCore (fuel n : Nat) {ds : List Char}
    (hds : ∀ c ∈ ds, c.isDigit = true) :
    ∀ c ∈ Nat.toDigitsCore 10 fuel n ds, c.isDigit = true := by
  induction fuel generalizing n ds with
  | zero => exact hds
  | succ fuel ih =>
    have hcons : ∀ c ∈ Nat.digitChar (n % 10) :: ds, c.isDigit = true := by
      intro c hc
      rcases List.mem_cons.mp hc with rfl | hc
      exacts [isDigit_digitChar (Nat.mod_lt n (by norm_num)), hds c hc]
    simp only [Nat.toDigitsCore]
    split
    · exact hcons
    · exact ih _ hcons

theorem isDigit_of_mem_toDigits (n : Nat) : ∀ c ∈ Nat.toDigits 10 n, c.isDigit = true :=
  isDigit_of_mem_toDigitsCore _ _ (by simp)

/-- Decimal text is made of digits and `-`. -/
theorem mem_toString (value : Int) {c : Char} (hc : c ∈ (toString value).toList) :
    c = '-' ∨ c.isDigit = true := by
  cases value with
  | ofNat m => exact .inr (isDigit_of_mem_toDigits m c hc)
  | negSucc m =>
    rcases List.mem_cons.mp (show c ∈ '-' :: Nat.toDigits 10 (m + 1) from hc) with rfl | hc
    exacts [.inl rfl, .inr (isDigit_of_mem_toDigits _ c hc)]

/-- Decimal text starts with `-` or with a digit. -/
theorem head_toString (value : Int) {c : Char} (hhead : (toString value).toList.head? = some c) :
    c = '-' ∨ c.isDigit = true :=
  mem_toString value (List.mem_of_mem_head? hhead)

/-- `readInt` is a left inverse of `toString`. -/
theorem readInt_toString (value : Int) : readInt (toString value).toList = value := by
  cases value with
  | ofNat m =>
    have hdigits : (toString (Int.ofNat m)).toList = Nat.toDigits 10 m := rfl
    have hnotMinus : (Nat.toDigits 10 m).head? ≠ some '-' := fun hminus =>
      absurd (isDigit_of_mem_toDigits m _ (List.mem_of_mem_head? hminus)) (by decide)
    rw [hdigits, readInt, if_neg hnotMinus, Nat.toDigits, readDigits_toDigitsCore _ (by omega)]
    rfl
  | negSucc m =>
    have hdigits : (toString (Int.negSucc m)).toList = '-' :: Nat.toDigits 10 (m + 1) := rfl
    rw [hdigits, readInt, if_pos (List.head?_cons ..), List.tail_cons, Nat.toDigits,
      readDigits_toDigitsCore _ (by omega), Int.negSucc_eq]
    rfl

end Aeron
