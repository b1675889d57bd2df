import Switchboard.Proofs.Text.Utf8
import Switchboard.Text.Percent
/-!
Percent coding that leaves text alone.

A character stays as it is if it is ASCII and not in the set of those to be escaped. What is written
consists of characters that stay, so writing it once more changes nothing.

* `Text.Percent.stays_of_mem_write`: what is written stays.
* `Text.Percent.write_eq_self`: what stays is written as it is.
* `Text.Percent.decodeBytes_encodeChars`: what has no percent sign is read as it is.
-/

namespace Switchboard.Text.Percent

variable {set : CharSet} {c : Char} {text : List Char}

/-- Says that a character is written as it is. -/
def Stays (set : CharSet) (c : Char) : Prop := c.toNat < 0x80 ∧ set c = false

/-- The characters of percent codes. -/
def codeChars : List Char := "%0123456789ABCDEF".toList

theorem mem_codeChars_digit {n : Nat} (small : n < 16) : digit n ∈ codeChars := by
  have all : ∀ m ∈ List.range 16, digit m ∈ codeChars := by decide
  exact all n (List.mem_range.mpr small)

theorem mem_codeChars_of_mem_writeByte {byte : UInt8} (member : c ∈ writeByte byte) :
    c ∈ codeChars := by
  have bound : byte.toNat < 256 := byte.toNat_lt
  simp only [writeByte, List.mem_cons, List.not_mem_nil, or_false] at member
  rcases member with rfl | rfl | rfl
  · decide
  · exact mem_codeChars_digit (by omega)
  · exact mem_codeChars_digit (by omega)

/-- **What is written** are characters of the text that stay and those of percent codes. -/
theorem of_mem_write (member : c ∈ write set text) :
    c ∈ text ∧ Stays set c ∨ c ∈ codeChars := by
  obtain ⟨d, isChar, written⟩ := List.mem_flatMap.mp member
  unfold writeChar at written
  split at written
  · obtain ⟨byte, _, isCode⟩ := List.mem_flatMap.mp written
    exact Or.inr (mem_codeChars_of_mem_writeByte isCode)
  · rename_i kept
    simp only [Bool.or_eq_true, decide_eq_true_eq, not_or, Bool.not_eq_true] at kept
    obtain rfl := List.mem_singleton.mp written
    exact Or.inl ⟨isChar, Nat.lt_of_not_le kept.1, kept.2⟩

/-- What is written stays, if percent codes do. -/
theorem stays_of_mem_write (codes : ∀ c ∈ codeChars, Stays set c) (member : c ∈ write set text) :
    Stays set c := by
  rcases of_mem_write member with ⟨-, stays⟩ | isCode
  · exact stays
  · exact codes c isCode

/-- **What stays is written as it is.** -/
theorem write_eq_self (stays : ∀ c ∈ text, Stays set c) : write set text = text := by
  induction text with
  | nil => rfl
  | cons c rest ih =>
    obtain ⟨first, others⟩ := List.forall_mem_cons.mp stays
    have kept : writeChar set c = [c] := by
      simp [writeChar, Nat.not_le.mpr first.1, first.2]
    show writeChar set c ++ write set rest = c :: rest
    rw [kept, ih others]
    rfl

instance (set : CharSet) (c : Char) : Decidable (Stays set c) :=
  inferInstanceAs (Decidable (_ ∧ _))

/-- Whether percent codes stay is told by their characters, one by one. -/
theorem stays_of_all (all : (codeChars.all fun c => decide (Stays set c)) = true) :
    ∀ c ∈ codeChars, Stays set c :=
  fun c member => of_decide_eq_true (List.all_eq_true.mp all c member)

theorem stays_path_of_mem_codeChars : ∀ c ∈ codeChars, Stays path c := stays_of_all (by decide)

theorem stays_query_of_mem_codeChars : ∀ c ∈ codeChars, Stays query c := stays_of_all (by decide)

theorem stays_webQuery_of_mem_codeChars : ∀ c ∈ codeChars, Stays webQuery c :=
  stays_of_all (by decide)

/-! ### Reading -/

theorem decodeBytes_cons_of_ne {byte : UInt8} (plain : byte ≠ 0x25) (rest : Bytes) :
    decodeBytes (byte :: rest) = byte :: decodeBytes rest := by
  rw [decodeBytes]
  intro high low others same
  exact absurd same plain

theorem decodeBytes_eq_self {bytes : Bytes} (plain : ∀ byte ∈ bytes, byte ≠ 0x25) :
    decodeBytes bytes = bytes := by
  induction bytes with
  | nil => simp [decodeBytes]
  | cons byte rest ih =>
    obtain ⟨first, others⟩ := List.forall_mem_cons.mp plain
    rw [decodeBytes_cons_of_ne first, ih others]

theorem decodeBytes_ne_nil {bytes : Bytes} (given : bytes ≠ []) : decodeBytes bytes ≠ [] := by
  unfold decodeBytes
  split
  · split <;> exact List.cons_ne_nil _ _
  · exact List.cons_ne_nil _ _
  · exact absurd rfl given

/-- The byte of a percent sign is that of nothing else. -/
theorem ne_percent_of_mem_encodeChar {byte : UInt8} (other : c ≠ '%')
    (member : byte ∈ Utf8.encodeChar c) : byte ≠ 0x25 := by
  by_cases ascii : c.toNat < 0x80
  · have plain : c ≠ '%' → (Utf8.encodeChar c).all (· != 0x25) = true :=
      of_ascii (fun c => c ≠ '%' → (Utf8.encodeChar c).all (· != 0x25) = true) (by decide +kernel)
        ascii
    exact bne_iff_ne.mp (List.all_eq_true.mp (plain other) byte member)
  · rintro rfl
    exact absurd (Utf8.le_of_mem_encodeChar (Nat.le_of_not_lt ascii) member) (by decide)

/-- Without a percent sign nothing is decoded. -/
theorem decodeBytes_encodeChars (free : '%' ∉ text) :
    decodeBytes (Utf8.encodeChars text) = Utf8.encodeChars text := by
  refine decodeBytes_eq_self fun byte member => ?_
  obtain ⟨c, isChar, inChar⟩ := List.mem_flatMap.mp member
  exact ne_percent_of_mem_encodeChar (fun same => free (same ▸ isChar)) inChar

end Switchboard.Text.Percent
