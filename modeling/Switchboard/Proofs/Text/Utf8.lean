import Switchboard.Text.Utf8
/-!
UTF-8 that is read back.

The bytes of a character are read as that character, whatever follows them: the lead byte announces
the bytes that come after it, and each of these carries six bits.

* `Text.Utf8.step_encodeChar`: the bytes of one character are read in one step.
* `Text.Utf8.decode?_encode`: the bytes of a text are read as that text.
* `Text.Utf8.decodeLossy_encode`: lenient reading makes no difference to them.
-/

namespace Switchboard.Text

theorem toNat_ofNat_of_isValidChar {n : Nat} (valid : n.isValidChar) :
    (Char.ofNat n).toNat = n := by
  rw [Char.ofNat, dif_pos valid]
  rfl

/-- What holds of all ASCII characters by evaluation. -/
theorem of_ascii (holds : Char → Prop) [DecidablePred holds]
    (all : ((List.range 0x80).all fun n => decide (holds (Char.ofNat n))) = true) {c : Char}
    (ascii : c.toNat < 0x80) : holds c := by
  have found := of_decide_eq_true (List.all_eq_true.mp all c.toNat (List.mem_range.mpr ascii))
  rwa [Char.ofNat_toNat] at found

/-- What holds of the bytes of all numbers below 256 holds of all bytes. -/
theorem forall_bytes {holds : UInt8 → Prop} (all : ∀ n ∈ List.range 256, holds (UInt8.ofNat n))
    (byte : UInt8) : holds byte := by
  have found := all byte.toNat (List.mem_range.mpr byte.toNat_lt)
  rwa [UInt8.ofNat_toNat] at found

end Switchboard.Text

namespace Switchboard.Text.Utf8

/-- The code of a character is none of those that are left out of Unicode. -/
theorem toNat_valid (c : Char) : c.toNat < 0xD800 ∨ 0xDFFF < c.toNat ∧ c.toNat < 0x110000 :=
  c.valid

theorem toNat_ofNat {n : Nat} (small : n < 256) : (UInt8.ofNat n).toNat = n := by
  simp [Nat.mod_eq_of_lt small]

/-- A byte that carries six bits is read onto the bits before it. -/
theorem readTail_ofNat (bits more width : Nat) {n : Nat} (small : n < 64) (rest : Bytes) :
    readTail bits (more + 1) width (UInt8.ofNat (0x80 + n) :: rest)
      = readTail (bits * 64 + n) more (width + 1) rest := by
  rw [readTail, toNat_ofNat (by omega)]
  have within : 0x80 ≤ 0x80 + n ∧ 0x80 + n ≤ 0xBF := by omega
  simp only [if_pos within, Nat.add_sub_cancel_left]

/-- The bytes after the lead byte are read onto what that announces. -/
theorem step_of_lead {first : UInt8} {lead : Lead} (announces : lead? first.toNat = some lead)
    {n : Nat} (small : n < 64) (within : lead.low ≤ 0x80 + n ∧ 0x80 + n ≤ lead.high)
    (rest : Bytes) : step first (UInt8.ofNat (0x80 + n) :: rest)
      = readTail (lead.bits * 64 + n) lead.more 2 rest := by
  have notAscii : ¬ first.toNat < 0x80 := by
    intro ascii
    rw [lead?, if_pos (by omega)] at announces
    cases announces
  rw [step, if_neg notAscii, announces]
  simp only [toNat_ofNat (show 0x80 + n < 256 by omega), if_pos within, Nat.add_sub_cancel_left]

/-! ### Lead bytes -/

theorem lead?_two {n : Nat} (least : 2 ≤ n) (small : n < 32) :
    lead? (0xC0 + n) = some ⟨n, 0x80, 0xBF, 0⟩ := by
  rw [lead?, if_neg (by omega), if_pos (by omega), Nat.add_sub_cancel_left]

/-- Of three bytes the second one is bounded, so that no overlong forms and no surrogates are
read. -/
theorem lead?_three {n : Nat} (small : n < 16) : lead? (0xE0 + n)
    = some ⟨n, if n = 0 then 0xA0 else 0x80, if n = 13 then 0x9F else 0xBF, 1⟩ := by
  rw [lead?, if_neg (by omega), if_neg (by omega)]
  by_cases least : n = 0
  · subst least
    rfl
  rw [if_neg (by omega), if_neg least]
  by_cases surrogate : n = 13
  · subst surrogate
    rfl
  rw [if_neg (by omega), if_pos (by omega), if_neg surrogate, Nat.add_sub_cancel_left]

/-- Of four bytes the second one is bounded, so that no overlong forms and nothing beyond Unicode is
read. -/
theorem lead?_four {n : Nat} (small : n < 5) : lead? (0xF0 + n)
    = some ⟨n, if n = 0 then 0x90 else 0x80, if n = 4 then 0x8F else 0xBF, 2⟩ := by
  rw [lead?, if_neg (by omega), if_neg (by omega), if_neg (by omega), if_neg (by omega),
    if_neg (by omega)]
  by_cases least : n = 0
  · subst least
    rfl
  rw [if_neg (by omega), if_neg least]
  by_cases greatest : n = 4
  · subst greatest
    rfl
  rw [if_pos (by omega), if_neg greatest, Nat.add_sub_cancel_left]

/-! ### Characters and texts -/

/-- **The bytes of a character are read in one step**, whatever follows them. -/
theorem step_encodeChar (c : Char) : ∃ first more, encodeChar c = first :: more ∧
    ∀ rest, step first (more ++ rest) = .char c (more.length + 1) := by
  have valid := toNat_valid c
  have sixBits : ∀ n, n % 64 < 64 := fun n => Nat.mod_lt n (by decide)
  unfold encodeChar
  dsimp only
  by_cases one : c.toNat < 0x80
  · rw [if_pos one]
    refine ⟨_, [], rfl, fun rest => ?_⟩
    rw [step, toNat_ofNat (by omega), if_pos one, Char.ofNat_toNat]
    rfl
  rw [if_neg one]
  by_cases two : c.toNat < 0x800
  · have announces := lead?_two (n := c.toNat / 64) (by omega) (by omega)
    rw [← toNat_ofNat (show 0xC0 + c.toNat / 64 < 256 by omega)] at announces
    have whole : c.toNat / 64 * 64 + c.toNat % 64 = c.toNat := by omega
    rw [if_pos two]
    refine ⟨_, _, rfl, fun rest => ?_⟩
    show step _ (UInt8.ofNat (0x80 + c.toNat % 64) :: rest) = _
    rw [step_of_lead announces (sixBits _) (by dsimp only; omega)]
    rw [readTail, whole, Char.ofNat_toNat]
    rfl
  rw [if_neg two]
  by_cases three : c.toNat < 0x10000
  · have announces := lead?_three (n := c.toNat / 4096) (by omega)
    rw [← toNat_ofNat (show 0xE0 + c.toNat / 4096 < 256 by omega)] at announces
    have whole : (c.toNat / 4096 * 64 + c.toNat / 64 % 64) * 64 + c.toNat % 64 = c.toNat := by omega
    rw [if_pos three]
    refine ⟨_, _, rfl, fun rest => ?_⟩
    show step _ (UInt8.ofNat (0x80 + c.toNat / 64 % 64) ::
      UInt8.ofNat (0x80 + c.toNat % 64) :: rest) = _
    rw [step_of_lead announces (sixBits _) (by dsimp only; split <;> split <;> omega),
      readTail_ofNat _ _ _ (sixBits _)]
    rw [readTail, whole, Char.ofNat_toNat]
    rfl
  · have announces := lead?_four (n := c.toNat / 262144) (by omega)
    rw [← toNat_ofNat (show 0xF0 + c.toNat / 262144 < 256 by omega)] at announces
    have whole : ((c.toNat / 262144 * 64 + c.toNat / 4096 % 64) * 64 + c.toNat / 64 % 64) * 64
        + c.toNat % 64 = c.toNat := by omega
    rw [if_neg three]
    refine ⟨_, _, rfl, fun rest => ?_⟩
    show step _ (UInt8.ofNat (0x80 + c.toNat / 4096 % 64) ::
      UInt8.ofNat (0x80 + c.toNat / 64 % 64) :: UInt8.ofNat (0x80 + c.toNat % 64) :: rest) = _
    rw [step_of_lead announces (sixBits _) (by dsimp only; split <;> split <;> omega),
      readTail_ofNat _ _ _ (sixBits _), readTail_ofNat _ _ _ (sixBits _)]
    rw [readTail, whole, Char.ofNat_toNat]
    rfl

/-- Bytes that belong to the character last read are skipped. -/
theorem decodeFrom_skip (index : Nat) (more rest : Bytes) :
    decodeFrom index more.length (more ++ rest) = decodeFrom (index + more.length) 0 rest := by
  induction more generalizing index with
  | nil => rfl
  | cons byte others ih =>
    rw [List.cons_append, List.length_cons, decodeFrom, ih]
    congr 1
    omega

theorem decodeFrom_encodeChars (index : Nat) (text : List Char) :
    decodeFrom index 0 (encodeChars text) = .ok text := by
  induction text generalizing index with
  | nil => rfl
  | cons c rest ih =>
    obtain ⟨first, more, bytes, reads⟩ := step_encodeChar c
    have whole : encodeChars (c :: rest) = first :: (more ++ encodeChars rest) := by
      show encodeChar c ++ encodeChars rest = _
      rw [bytes]
      rfl
    rw [whole, decodeFrom, reads]
    simp only [Nat.add_sub_cancel, decodeFrom_skip, ih]
    rfl

/-- **The bytes of a text are read as that text.** -/
theorem decode?_encode (text : String) : decode? (encode text) = .ok text := by
  rw [decode?, encode, decodeFrom_encodeChars]
  exact congrArg Except.ok (String.ofList_toList)

/-- **What is read strictly is read leniently as the same.** -/
theorem decodeLossyFrom_of_decodeFrom {index skip : Nat} {bytes : Bytes} {text : List Char}
    (read : decodeFrom index skip bytes = .ok text) : decodeLossyFrom skip bytes = text := by
  induction bytes generalizing index skip text with
  | nil =>
    rw [decodeFrom] at read
    rw [decodeLossyFrom]
    exact Except.ok.inj read
  | cons first rest ih =>
    cases skip with
    | succ skip =>
      rw [decodeFrom] at read
      rw [decodeLossyFrom]
      exact ih read
    | zero =>
      rw [decodeFrom] at read
      rw [decodeLossyFrom]
      split at read
      · rename_i c width _
        cases later : decodeFrom (index + 1) (width - 1) rest with
        | error fault =>
          rw [later] at read
          cases read
        | ok others =>
          rw [later] at read
          exact (congrArg (c :: ·) (ih later)).trans (Except.ok.inj read)
      · cases read
      · cases read

theorem decodeLossy_encode (text : String) : decodeLossy (encode text) = text := by
  rw [decodeLossy, encode, decodeLossyFrom_of_decodeFrom (decodeFrom_encodeChars 0 text.toList),
    String.ofList_toList]

/-- Something is read of bytes, if there are any. -/
theorem decode?_ne_empty {bytes : Bytes} (given : bytes ≠ []) : decode? bytes ≠ .ok "" := by
  obtain ⟨first, rest, rfl⟩ := List.exists_cons_of_ne_nil given
  rw [decode?, decodeFrom]
  split
  · rename_i c width _
    cases decodeFrom (0 + 1) (width - 1) rest with
    | error fault => nofun
    | ok text =>
      intro empty
      have chars := congrArg String.toList (Except.ok.inj empty)
      rw [String.toList_ofList] at chars
      cases chars
  · nofun
  · nofun

/-- ASCII characters are one byte each. -/
theorem encodeChars_of_ascii {text : List Char} (ascii : ∀ c ∈ text, c.toNat < 0x80) :
    encodeChars text = text.map fun c => UInt8.ofNat c.toNat := by
  induction text with
  | nil => rfl
  | cons c rest ih =>
    obtain ⟨first, others⟩ := List.forall_mem_cons.mp ascii
    have byte : encodeChar c = [UInt8.ofNat c.toNat] := if_pos first
    show encodeChar c ++ encodeChars rest = _
    rw [byte, ih others]
    rfl

/-- The bytes of a character beyond ASCII are none of ASCII. -/
theorem le_of_mem_encodeChar {c : Char} (beyond : 0x80 ≤ c.toNat) {byte : UInt8}
    (member : byte ∈ encodeChar c) : 0x80 ≤ byte.toNat := by
  have valid := toNat_valid c
  have high : ∀ {n : Nat}, 0x80 ≤ n → n < 256 → 0x80 ≤ (UInt8.ofNat n).toNat := by
    intro n least small
    rwa [toNat_ofNat small]
  unfold encodeChar at member
  dsimp only at member
  split at member
  · omega
  · split at member
    · simp only [List.mem_cons, List.not_mem_nil, or_false] at member
      rcases member with rfl | rfl <;> exact high (by omega) (by omega)
    · split at member
      · simp only [List.mem_cons, List.not_mem_nil, or_false] at member
        rcases member with rfl | rfl | rfl <;> exact high (by omega) (by omega)
      · simp only [List.mem_cons, List.not_mem_nil, or_false] at member
        rcases member with rfl | rfl | rfl | rfl <;> exact high (by omega) (by omega)

end Switchboard.Text.Utf8
