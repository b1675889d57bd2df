import Switchboard.Headers
/-!
Numbers that are written and read again.

A natural number is written in decimal digits. The readers of bounded numbers stop at the first digit
that leads beyond the bound, so not every number is read again; but no other number is.

* `Number.eq_of_readNat`: what is read of digits is what they are worth.
* `Number.eq_of_readWord_decimal`: of a number that was written, no other number is read.
* `Headers.contentLength?_insert`: a length that is announced is told, if any is.
-/

namespace Switchboard

/-! ### Text without blanks -/

namespace Text

theorem dropWhile_of_forall {junk : Char → Bool} {text : List Char}
    (clean : ∀ c ∈ text, junk c = false) : text.dropWhile junk = text := by
  cases text with
  | nil => rfl
  | cons c rest =>
    have first : ¬ junk c = true := by
      rw [clean c List.mem_cons_self]
      exact Bool.false_ne_true
    exact List.dropWhile_cons_of_neg first

/-- A text without blanks is not trimmed. -/
theorem trimChars_of_forall {text : List Char} (clean : ∀ c ∈ text, isBlank c = false) :
    trimChars text = text := by
  have reversed : ∀ c ∈ text.reverse, isBlank c = false := fun c member =>
    clean c (List.mem_reverse.mp member)
  rw [trimChars, dropWhile_of_forall clean, dropEndWhile, dropWhile_of_forall reversed,
    List.reverse_reverse]

/-- A digit is no blank. -/
theorem isBlank_of_isDigit {c : Char} (digit : c.isDigit = true) : isBlank c = false := by
  obtain ⟨least, greatest⟩ := Char.isDigit_iff_toNat.mp digit
  have bounds : 48 ≤ c.toNat ∧ c.toNat ≤ 57 := ⟨least, greatest⟩
  simp only [isBlank, Bool.or_eq_false_iff, Bool.and_eq_false_iff, beq_eq_false_iff_ne, ne_eq,
    decide_eq_false_iff_not]
  omega

theorem isDigit_of_mem_decimal {n : Nat} {c : Char} (member : c ∈ (decimal n).toList) :
    c.isDigit = true := by
  rw [decimal, String.toList_ofList] at member
  exact Nat.isDigit_of_mem_toDigits (by decide) (by decide) member

/-- A number that was written is not trimmed. -/
theorem trim_decimal (n : Nat) : trim (decimal n) = decimal n := by
  rw [trim, trimChars_of_forall fun c member => isBlank_of_isDigit (isDigit_of_mem_decimal member),
    String.ofList_toList]

end Text

/-! ### Reading digits -/

namespace Number

/-- **What is read of digits** up to a bound is what the digits are worth. -/
theorem eq_of_readBounded {bound : Nat} {excess : IntegerFault} {text : List Char} :
    ∀ {value total : Nat}, readBounded bound excess value text = .ok total →
      total = Nat.ofDigitChars 10 text value := by
  induction text with
  | nil =>
    intro value total read
    cases read
    rfl
  | cons c rest ih =>
    intro value total read
    simp only [readBounded] at read
    split at read
    · cases read
    · rename_i digit isDigit
      split at read
      · have worth : c.toNat - '0'.toNat = digit := by
          unfold digitValue? at isDigit
          split at isDigit
          · exact Option.some.inj isDigit
          · cases isDigit
        rw [ih read, Nat.ofDigitChars_cons, worth, Nat.mul_comm]
      · cases read

/-- What is read of a text without a sign is what its digits are worth. -/
theorem eq_of_readNat {bound total : Nat} {text : String} (unsigned : '+' ∉ text.toList)
    (read : readNat bound text = .ok total) : total = Nat.ofDigitChars 10 text.toList 0 := by
  unfold readNat at read
  split at read
  · cases read
  · rename_i c isText
    rw [isText]
    split at read
    · cases read
    · exact eq_of_readBounded read
  · rename_i c rest _ isText
    rw [isText]
    rw [isText] at unsigned
    have noSign : ¬ (c == '+') = true := fun isPlus =>
      unsigned (beq_iff_eq.mp isPlus ▸ List.mem_cons_self)
    rw [if_neg noSign] at read
    exact eq_of_readBounded read

/-- **Of a number that was written**, no other number is read. -/
theorem eq_of_readWord_decimal {n total : Nat} (read : readWord (Text.decimal n) = .ok total) :
    total = n := by
  have unsigned : '+' ∉ (Text.decimal n).toList := fun member =>
    absurd (Text.isDigit_of_mem_decimal member) (by decide)
  rw [eq_of_readNat unsigned read, Text.decimal, String.toList_ofList,
    Nat.ofDigitChars_ten_toDigits]

end Number

/-! ### Announced lengths -/

namespace Headers

theorem contentLength?_of_get? {headers : Headers} {value : String}
    (found : headers.get? contentLengthName = some value) :
    headers.contentLength? = (Number.readWord (Text.trim value)).toOption := by
  rw [contentLength?, found, Option.bind_eq_bind, Option.bind_some]

/-- A length that is announced is told, unless it is beyond all numbers that are read. -/
theorem contentLength?_insert (headers : Headers) (length : Nat) :
    let announced := headers.insert contentLengthName (Text.decimal length)
    announced.contentLength? = some length ∨ announced.contentLength? = none := by
  intro announced
  rw [contentLength?_of_get? (headers.get?_insert _ _), Text.trim_decimal]
  cases read : Number.readWord (Text.decimal length) with
  | error fault => exact Or.inr rfl
  | ok total =>
    rw [Number.eq_of_readWord_decimal read]
    exact Or.inl rfl

end Headers

end Switchboard
