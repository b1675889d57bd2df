import Switchboard.Proofs.Text.Cuts
import Switchboard.Proofs.Text.Pairs
/-!
Pairs that are written and read back.

What is written of a name or a value holds neither of the two signs that pairs are cut at, so a pair
that is put behind others is read as it was given, whatever the others look like: they may be escaped
otherwise, be no proper codes, or be empty.

* `Text.Form.read_write`: a name or a value is what is read of its text.
* `Text.Form.readPairs_append`: pairs that stand side by side are read each by itself.
* `Text.Form.readPairs_writePair`: a pair is what is read of its text.
-/

namespace Switchboard.Text

/-! ### Bytes -/

namespace Percent

/-- A byte is decoded from its text, whatever follows, if percent signs are escaped. -/
theorem decodeBytes_escape {escapes : UInt8 → Bool} (percent : escapes 0x25 = true) (byte : UInt8)
    (rest : Bytes) : decodeBytes (escape escapes byte ++ rest) = byte :: decodeBytes rest := by
  by_cases escaped : escapes byte = true
  · rw [escape, if_pos escaped]
    exact decodeBytes_writeByte byte rest
  · rw [escape_of_not escaped]
    refine decodeBytes_cons_of_ne (fun isPercent => escaped ?_) rest
    rw [isPercent, percent]

/-- Bytes are decoded from their texts. -/
theorem decodeBytes_flatMap_escape {escapes : UInt8 → Bool} (percent : escapes 0x25 = true)
    (bytes : Bytes) : decodeBytes (bytes.flatMap (escape escapes)) = bytes := by
  induction bytes with
  | nil => simp [decodeBytes]
  | cons byte rest ih => rw [List.flatMap_cons, decodeBytes_escape percent, ih]

end Percent

namespace Form

/-- Says whether a byte is written as a code. -/
def isEscaped (byte : UInt8) : Bool := !(byte == 0x20 || isPlain byte.toNat)

/-- Once blanks are back in the place of plus signs, all other bytes are plain or codes. -/
theorem encodeChars_writeByte : ∀ byte,
    Utf8.encodeChars ((writeByte byte).map spaced) = Percent.escape isEscaped byte :=
  forall_bytes (by decide +kernel)

/-- **A name or a value is what is read of its text.** -/
theorem read_write (text : String) : read (write text) = text := by
  have bytes : Utf8.encodeChars ((write text).map spaced)
      = (Utf8.encode text).flatMap (Percent.escape isEscaped) := by
    unfold write Utf8.encodeChars
    rw [List.map_flatMap, List.flatMap_assoc]
    exact congrArg (List.flatMap · _) (funext encodeChars_writeByte)
  show Utf8.decodeLossy (Percent.decodeBytes (Utf8.encodeChars ((write text).map spaced))) = text
  rw [bytes, Percent.decodeBytes_flatMap_escape (by decide), Utf8.decodeLossy_encode]

/-! ### Pairs -/

/-- Neither of the signs that pairs are cut at is written of a name or a value. -/
theorem free_write {text : String} {c : Char} (sign : c ∈ ['&', '=']) : c ∉ write text := by
  have free : ∀ byte, (writeByte byte).all (fun c => c != '&' && c != '=') = true :=
    forall_bytes (by decide +kernel)
  intro member
  obtain ⟨byte, -, written⟩ := List.mem_flatMap.mp member
  have neither := List.all_eq_true.mp (free byte) c written
  simp only [List.mem_cons, List.not_mem_nil, or_false] at sign
  rcases sign with rfl | rfl <;> exact absurd neither (by decide)

theorem readPair_writePair (pair : String × String) : readPair (writePair pair) = pair := by
  have cut : cutAt '=' (writePair pair) = some (write pair.1, write pair.2) :=
    cutAt_append (free_write (by decide)) _
  rw [readPair, cut]
  exact Prod.ext (read_write pair.1) (read_write pair.2)

/-- **Pairs that stand side by side** are read each by itself. -/
theorem readPairs_append (front rest : List Char) :
    readPairs (front ++ '&' :: rest) = readPairs front ++ readPairs rest := by
  unfold readPairs
  rw [splitOn_append_sep, List.filter_append, List.map_append]

/-- **A pair is what is read of its text.** -/
theorem readPairs_writePair (pair : String × String) : readPairs (writePair pair) = [pair] := by
  have free : '&' ∉ writePair pair := by
    intro member
    rcases List.mem_append.mp member with inName | inRest
    · exact free_write (by decide) inName
    · rcases List.mem_cons.mp inRest with isMark | inValue
      · exact absurd isMark (by decide)
      · exact free_write (by decide) inValue
  have given : (writePair pair).isEmpty = false := by
    rw [List.isEmpty_eq_false_iff]
    exact List.append_ne_nil_of_right_ne_nil _ (List.cons_ne_nil _ _)
  unfold readPairs
  rw [splitOn_of_not_mem free, List.filter_cons_of_pos (by simp [given])]
  exact congrArg (· :: []) (readPair_writePair pair)

end Form

end Switchboard.Text
