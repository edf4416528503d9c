import Canopen.Proofs.Literal.Characters

/-!
# Numbers that are written as literals

Decimal digits are written without a zero in front of them, so that they are never taken for octal
ones.  Digits behind a hexadecimal mark are taken as they stand.
-/

namespace Canopen

namespace Number

/-- Only zero is written with a zero in front. -/
theorem eq_zero_of_head?_toDigits {n : Nat} (zero : (Nat.toDigits 10 n).head? = some '0') :
    n = 0 := by
  induction n using Nat.strongRecOn with
  | ind n ih =>
      rw [Nat.toDigits_eq_if (by decide)] at zero
      split at zero
      · exact Nat.digitChar_eq_zero.1 (Option.some.inj zero)
      · next large =>
        rw [List.head?_append_of_ne_nil _ Nat.toDigits_ne_nil] at zero
        have shorter := ih (n / 10) (Nat.div_lt_self (by omega) (by decide)) zero
        omega

theorem toDigits_eq_zero_cons {n : Nat} {rest : List Char}
    (leading : Nat.toDigits 10 n = '0' :: rest) : rest = [] := by
  have zero : n = 0 := eq_zero_of_head?_toDigits (by rw [leading]; rfl)
  rw [zero] at leading
  cases leading
  rfl

theorem isNumeral_toDigits (n : Nat) : Literal.IsNumeral .decimal (Nat.toDigits 10 n) n :=
  Literal.isNumeral_of_spelled Nat.toDigits_ne_nil (spelled?_decimalChars n)

end Number

namespace Literal

variable {mark : Char} {digits : List Char} {n : Nat}

/-- Written digits show no other base. -/
theorem detectBase_toDigits (n : Nat) :
    detectBase (Nat.toDigits 10 n) = (Nat.toDigits 10 n, .decimal) := by
  have unmarked : looksHexadecimal (Nat.toDigits 10 n) = false := by
    refine looksHexadecimal_eq_false fun mark body leading _ => ?_
    cases Number.toDigits_eq_zero_cons leading
  have other : looksOctal (Nat.toDigits 10 n) = false := by
    refine looksOctal_eq_false fun c rest leading _ => ?_
    cases Number.toDigits_eq_zero_cons leading
  simp [detectBase, unmarked, other]

/-- Written digits are read as their number, unless they are too many. -/
theorem integer_toDigits (short : (Nat.toDigits 10 n).length ≤ 4300) :
    integer .decimal (Nat.toDigits 10 n) = .ok n :=
  integer_decimal_eq_ok_iff.2 ⟨_, n, Number.isNumeral_toDigits n, short, .inr ⟨.inr rfl, rfl⟩⟩

/-- Digits behind a mark are hexadecimal, and none of them is dropped. -/
theorem detectBase_marked (marked : mark ∈ hexadecimalMarks)
    (numeral : IsNumeral .hexadecimal digits n) :
    detectBase ('0' :: mark :: digits) = ('0' :: mark :: digits, .hexadecimal) := by
  obtain ⟨c, rest, rfl⟩ := List.exists_cons_of_ne_nil numeral.filled
  have shown : looksHexadecimal ('0' :: mark :: c :: rest) = true := by
    rw [looksHexadecimal_cons marked, decide_eq_true]
    exact .inl (numeral.plain c List.mem_cons_self)
  have kept : ('0' :: mark :: c :: rest).filter (!isSuffixLetter ·) = '0' :: mark :: c :: rest := by
    refine List.filter_eq_self.2 (List.forall_mem_cons.2 ⟨by decide, List.forall_mem_cons.2 ⟨?_, ?_⟩⟩)
    · simpa [isSuffixLetter_eq] using (mark_other mark marked).2.2
    · intro d inside
      simpa [isSuffixLetter_eq] using not_mem_suffixLetters d (numeral.plain d inside)
  simp [detectBase, shown, kept]

theorem integer_marked (marked : mark ∈ hexadecimalMarks)
    (numeral : IsNumeral .hexadecimal digits n) :
    integer .hexadecimal ('0' :: mark :: digits) = .ok n := by
  have plain := fun c inside => not_mem_suffixLetters c (numeral.plain c inside)
  have kept : digits.filter (· ∉ suffixLetters) = digits := by
    refine List.filter_eq_self.2 fun c inside => ?_
    simpa using plain c inside
  have read := (reading_marked marked digits).2 ⟨n, kept.symm ▸ numeral, rfl⟩
  rwa [reading, detectBase_marked marked numeral] at read

end Literal

end Canopen
