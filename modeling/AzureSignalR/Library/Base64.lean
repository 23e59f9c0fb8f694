import Mathlib.Data.List.Basic

/-!
Contract: bytes as digits of six bits.

Owns: the digits of a sequence of bytes, three bytes at a time, the bytes that digits stand for,
and that the digits of bytes stand for them.

Does not own: any alphabet or padding.
-/

set_option autoImplicit false

namespace AzureSignalR.Library.Base64

/-- The digits of up to three bytes. -/
def digits : List UInt8 → List Nat
  | [] => []
  | [first] => [first.toNat >>> 2, (first.toNat &&& 0x03) <<< 4]
  | [first, second] =>
      [first.toNat >>> 2, (first.toNat &&& 0x03) <<< 4 ||| second.toNat >>> 4,
        (second.toNat &&& 0x0f) <<< 2]
  | first :: second :: third :: rest =>
      first.toNat >>> 2 :: ((first.toNat &&& 0x03) <<< 4 ||| second.toNat >>> 4) ::
        ((second.toNat &&& 0x0f) <<< 2 ||| third.toNat >>> 6) :: (third.toNat &&& 0x3f) ::
          digits rest

/-- The bytes of digits; the bits behind the last whole byte are dropped, and one digit alone
stands for nothing. -/
def bytes : List Nat → Option (List UInt8)
  | [] => some []
  | [_] => none
  | [first, second] => some [UInt8.ofNat (first * 4 + second / 16)]
  | [first, second, third] =>
      some [UInt8.ofNat (first * 4 + second / 16), UInt8.ofNat (second % 16 * 16 + third / 4)]
  | first :: second :: third :: fourth :: rest =>
      (bytes rest).map fun behind =>
        UInt8.ofNat (first * 4 + second / 16) :: UInt8.ofNat (second % 16 * 16 + third / 4) ::
          UInt8.ofNat (third % 4 * 64 + fourth) :: behind

/-! ## The digits in numbers -/

theorem first_digit (first : UInt8) : first.toNat >>> 2 = first.toNat / 4 :=
  Nat.shiftRight_eq_div_pow first.toNat 2

theorem last_second_digit (first : UInt8) :
    (first.toNat &&& 0x03) <<< 4 = first.toNat % 4 * 16 := by
  have low : first.toNat &&& 0x03 = first.toNat % 4 :=
    Nat.and_two_pow_sub_one_eq_mod first.toNat 2
  rw [Nat.shiftLeft_eq, low]

theorem second_digit (first second : UInt8) :
    (first.toNat &&& 0x03) <<< 4 ||| second.toNat >>> 4 =
      first.toNat % 4 * 16 + second.toNat / 16 := by
  have small : second.toNat >>> 4 < 2 ^ 4 := by
    rw [Nat.shiftRight_eq_div_pow]
    have size := second.toNat_lt
    omega
  rw [← Nat.shiftLeft_add_eq_or_of_lt small, last_second_digit, Nat.shiftRight_eq_div_pow]

theorem last_third_digit (second : UInt8) :
    (second.toNat &&& 0x0f) <<< 2 = second.toNat % 16 * 4 := by
  have low : second.toNat &&& 0x0f = second.toNat % 16 :=
    Nat.and_two_pow_sub_one_eq_mod second.toNat 4
  rw [Nat.shiftLeft_eq, low]

theorem third_digit (second third : UInt8) :
    (second.toNat &&& 0x0f) <<< 2 ||| third.toNat >>> 6 =
      second.toNat % 16 * 4 + third.toNat / 64 := by
  have small : third.toNat >>> 6 < 2 ^ 2 := by
    rw [Nat.shiftRight_eq_div_pow]
    have size := third.toNat_lt
    omega
  rw [← Nat.shiftLeft_add_eq_or_of_lt small, last_third_digit, Nat.shiftRight_eq_div_pow]

theorem fourth_digit (third : UInt8) : third.toNat &&& 0x3f = third.toNat % 64 :=
  Nat.and_two_pow_sub_one_eq_mod third.toNat 6

theorem ofNat_eq {value : Nat} {byte : UInt8} (same : value = byte.toNat) :
    UInt8.ofNat value = byte := by
  rw [same, UInt8.ofNat_toNat]

/-- The digits are digits. -/
theorem digits_lt (input : List UInt8) : ∀ digit ∈ digits input, digit < 64 := by
  induction input using digits.induct with
  | case1 =>
      intro digit member
      cases member
  | case2 first =>
      have size := first.toNat_lt
      intro digit member
      rw [digits, first_digit, last_second_digit] at member
      simp only [List.mem_cons, List.not_mem_nil, or_false] at member
      omega
  | case3 first second =>
      have size := first.toNat_lt
      have sizeSecond := second.toNat_lt
      intro digit member
      rw [digits, first_digit, second_digit, last_third_digit] at member
      simp only [List.mem_cons, List.not_mem_nil, or_false] at member
      omega
  | case4 first second third rest inductionHypothesis =>
      have size := first.toNat_lt
      have sizeSecond := second.toNat_lt
      have sizeThird := third.toNat_lt
      intro digit member
      rw [digits, first_digit, second_digit, third_digit, fourth_digit] at member
      simp only [List.mem_cons] at member
      rcases member with isFirst | isSecond | isThird | isFourth | behind
      · omega
      · omega
      · omega
      · omega
      · exact inductionHypothesis digit behind

/-- The digits of bytes stand for them. -/
theorem bytes_digits (input : List UInt8) : bytes (digits input) = some input := by
  induction input using digits.induct with
  | case1 => rfl
  | case2 first =>
      have whole : first.toNat / 4 * 4 + first.toNat % 4 * 16 / 16 = first.toNat := by omega
      rw [digits, first_digit, last_second_digit, bytes, ofNat_eq whole]
  | case3 first second =>
      have size := second.toNat_lt
      have whole : first.toNat / 4 * 4 + (first.toNat % 4 * 16 + second.toNat / 16) / 16 =
          first.toNat := by
        omega
      have wholeSecond : (first.toNat % 4 * 16 + second.toNat / 16) % 16 * 16 +
          second.toNat % 16 * 4 / 4 = second.toNat := by
        omega
      rw [digits, first_digit, second_digit, last_third_digit, bytes, ofNat_eq whole,
        ofNat_eq wholeSecond]
  | case4 first second third rest inductionHypothesis =>
      have sizeSecond := second.toNat_lt
      have sizeThird := third.toNat_lt
      have whole : first.toNat / 4 * 4 + (first.toNat % 4 * 16 + second.toNat / 16) / 16 =
          first.toNat := by
        omega
      have wholeSecond : (first.toNat % 4 * 16 + second.toNat / 16) % 16 * 16 +
          (second.toNat % 16 * 4 + third.toNat / 64) / 4 = second.toNat := by
        omega
      have wholeThird : (second.toNat % 16 * 4 + third.toNat / 64) % 4 * 64 + third.toNat % 64 =
          third.toNat := by
        omega
      rw [digits, first_digit, second_digit, third_digit, fourth_digit, bytes,
        inductionHypothesis, ofNat_eq whole, ofNat_eq wholeSecond, ofNat_eq wholeThird]
      rfl

/-- No bytes have one digit more than whole groups. -/
theorem length_digits (input : List UInt8) : (digits input).length % 4 ≠ 1 := by
  induction input using digits.induct with
  | case1 => decide
  | case2 first =>
      show 2 % 4 ≠ 1
      decide
  | case3 first second =>
      show 3 % 4 ≠ 1
      decide
  | case4 first second third rest inductionHypothesis =>
      show ((digits rest).length + 4) % 4 ≠ 1
      rw [Nat.add_mod_right]
      exact inductionHypothesis

end AzureSignalR.Library.Base64
