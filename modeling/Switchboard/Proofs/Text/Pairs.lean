import Switchboard.Proofs.Text.Escapes
import Switchboard.Proofs.Text.Trim
import Switchboard.Text.Form
/-!
Pairs of a query of the web.

The schemes of the web escape one character more in their queries than others, the single quote.
Pairs are decoded when they are read, so a query that is written once more for such a scheme has the
pairs that it had.

* `Text.Percent.decodeBytes_escaped`: a byte that is escaped, and that is no part of a code, is
  decoded as if it had stayed.
* `Text.Form.readPairs_write_webQuery`: the pairs of a query that is written for the web.
-/

namespace Switchboard.Text

/-! ### Texts with something in the place of each character -/

section Cuts

variable {c : Char} {change : Char → List Char} (same : change c = [c]) {text : List Char}
include same

/-- A text of which only other characters change is cut where it was cut before. -/
theorem splitOn_flatMap (free : ∀ d ∈ text, d ≠ c → c ∉ change d) :
    splitOn c (text.flatMap change) = (splitOn c text).map (List.flatMap change) := by
  induction text with
  | nil => rfl
  | cons d rest ih =>
    obtain ⟨first, others⟩ := List.forall_mem_cons.mp free
    have cut := ih others
    rw [List.flatMap_cons]
    by_cases isSep : d = c
    · rw [isSep, same, List.singleton_append, splitOn_cons_sep, splitOn_cons_sep, cut]
      rfl
    · obtain ⟨piece, pieces, inRest, inAll⟩ := splitOn_front (first isSep) (rest.flatMap change)
      obtain ⟨own, more, inText⟩ := List.exists_cons_of_ne_nil (splitOn_ne_nil c rest)
      have whole : splitOn c (d :: rest) = (d :: own) :: more := by simp [splitOn, isSep, inText]
      rw [inRest, inText, List.map_cons] at cut
      obtain ⟨rfl, rfl⟩ := List.cons.inj cut
      rw [inAll, whole]
      rfl

theorem cutAt_flatMap (free : ∀ d ∈ text, d ≠ c → c ∉ change d) :
    cutAt c (text.flatMap change)
      = (cutAt c text).map (Prod.map (List.flatMap change) (List.flatMap change)) := by
  induction text with
  | nil => rfl
  | cons d rest ih =>
    obtain ⟨first, others⟩ := List.forall_mem_cons.mp free
    rw [List.flatMap_cons]
    by_cases isSep : d = c
    · simp [isSep, same, cutAt]
    · rw [cutAt_front (first isSep), ih others]
      cases cut : cutAt c rest <;> simp [cutAt, isSep, cut]

end Cuts

/-! ### Bytes that are escaped -/

namespace Percent

theorem writeChar_ne_nil (set : CharSet) (c : Char) : writeChar set c ≠ [] := by
  unfold writeChar
  split
  · obtain ⟨first, more, bytes, -⟩ := Utf8.step_encodeChar c
    rw [bytes]
    exact List.cons_ne_nil _ _
  · exact List.cons_ne_nil _ _

/-- A byte, escaped if it is one of some. -/
def escape (escapes : UInt8 → Bool) (byte : UInt8) : Bytes :=
  if escapes byte then (writeByte byte).map asciiByte else [byte]

theorem escape_of_not {escapes : UInt8 → Bool} {byte : UInt8} (stays : ¬ escapes byte = true) :
    escape escapes byte = [byte] :=
  if_neg stays

/-- Says whether two hexadecimal digits come first. -/
def startsCode : Bytes → Bool
  | high :: low :: _ => (hexByte? high).isSome && (hexByte? low).isSome
  | _ => false

/-- A percent sign that no code follows stays. -/
theorem decodeBytes_percent {bytes : Bytes} (noCode : startsCode bytes = false) :
    decodeBytes (0x25 :: bytes) = 0x25 :: decodeBytes bytes := by
  match bytes with
  | [] => simp [decodeBytes]
  | [_] => simp [decodeBytes]
  | high :: low :: rest =>
    rw [decodeBytes]
    split
    · rename_i isHigh isLow
      rw [startsCode, isHigh, isLow] at noCode
      cases noCode
    · rfl

section Escaped

variable {escapes : UInt8 → Bool}
  (quiet : ∀ byte, escapes byte = true → byte ≠ 0x25 ∧ hexByte? byte = none)
include quiet

/-- Codes begin where they began, since a percent sign is no digit. -/
theorem startsCode_escaped (bytes : Bytes) :
    startsCode (bytes.flatMap (escape escapes)) = startsCode bytes := by
  have noDigit : hexByte? 0x25 = none := by decide
  have front : ∀ byte, escapes byte = true → ∀ rest,
      startsCode (escape escapes byte ++ rest) = false := by
    intro byte escaped rest
    rw [escape, if_pos escaped]
    show ((hexByte? 0x25).isSome && (hexByte? (asciiByte (digit (byte.toNat / 16)))).isSome) = false
    rw [noDigit]
    rfl
  match bytes with
  | [] => rfl
  | [byte] =>
    by_cases escaped : escapes byte = true
    · exact front byte escaped []
    · rw [List.flatMap_singleton, escape_of_not escaped]
  | high :: low :: rest =>
    rw [List.flatMap_cons]
    by_cases escaped : escapes high = true
    · rw [front high escaped, startsCode, (quiet high escaped).2]
      rfl
    · rw [escape_of_not escaped, List.flatMap_cons]
      by_cases escapedToo : escapes low = true
      · rw [escape, if_pos escapedToo, startsCode, (quiet low escapedToo).2]
        show ((hexByte? high).isSome && (hexByte? 0x25).isSome) = _
        rw [noDigit]
      · rw [escape_of_not escapedToo]
        rfl

/-- **A byte that is escaped**, and that is no part of a code, is decoded as if it had stayed. -/
theorem decodeBytes_escaped (bytes : Bytes) :
    decodeBytes (bytes.flatMap (escape escapes)) = decodeBytes bytes := by
  have percent : ¬ escapes 0x25 = true := fun escaped => (quiet _ escaped).1 rfl
  induction bytes using decodeBytes.induct with
  | case1 high low rest h l isHigh isLow ih =>
    have digit : ∀ {byte n}, hexByte? byte = some n → ¬ escapes byte = true := by
      intro byte n isDigit escaped
      rw [(quiet byte escaped).2] at isDigit
      cases isDigit
    rw [List.flatMap_cons, List.flatMap_cons, List.flatMap_cons, escape_of_not percent,
      escape_of_not (digit isHigh), escape_of_not (digit isLow), List.singleton_append,
      List.singleton_append, List.singleton_append, decodeBytes, decodeBytes]
    simp only [isHigh, isLow, ih]
  | case2 high low rest noDigits ih =>
    have noCode : startsCode (high :: low :: rest) = false := by
      rw [startsCode]
      cases isHigh : hexByte? high with
      | none => rfl
      | some h =>
        cases isLow : hexByte? low with
        | none => rfl
        | some l => exact (noDigits h l isHigh isLow).elim
    rw [List.flatMap_cons, escape_of_not percent, List.singleton_append,
      decodeBytes_percent ((startsCode_escaped quiet _).trans noCode), ih, decodeBytes_percent noCode]
  | case3 byte rest noFront ih =>
    rw [List.flatMap_cons]
    by_cases escaped : escapes byte = true
    · rw [escape, if_pos escaped, decodeBytes_writeByte, ih,
        decodeBytes_cons_of_ne (quiet byte escaped).1]
    · rw [escape_of_not escaped, List.singleton_append]
      by_cases isPercent : byte = 0x25
      · have noCode : startsCode rest = false := by
          cases rest with
          | nil => rfl
          | cons high more =>
            cases more with
            | nil => rfl
            | cons low others => exact (noFront high low others isPercent rfl).elim
        rw [isPercent, decodeBytes_percent ((startsCode_escaped quiet _).trans noCode), ih,
          decodeBytes_percent noCode]
      · rw [decodeBytes_cons_of_ne isPercent, decodeBytes_cons_of_ne isPercent, ih]
  | case4 => rfl

end Escaped

end Percent

/-! ### Pairs -/

namespace Form

/-- The byte of the single quote. -/
def isQuote (byte : UInt8) : Bool := byte == 0x27

/-- A blank in the place of a plus sign. -/
def spaced (c : Char) : Char := if c == '+' then ' ' else c

variable {text : List Char} (stays : ∀ c ∈ text, Percent.Stays Percent.query c)
include stays

/-- Up to blanks, only single quotes are escaped in a query that is written for the web. -/
theorem encodeChars_write_webQuery :
    Utf8.encodeChars ((Percent.write Percent.webQuery text).map spaced)
      = (Utf8.encodeChars (text.map spaced)).flatMap (Percent.escape isQuote) := by
  have one : ∀ {c : Char}, Percent.Stays Percent.query c →
      Utf8.encodeChars ((Percent.writeChar Percent.webQuery c).map spaced)
        = (Utf8.encodeChar (spaced c)).flatMap (Percent.escape isQuote) := fun {c} staysToo =>
    of_ascii (fun c => Percent.Stays Percent.query c →
      Utf8.encodeChars ((Percent.writeChar Percent.webQuery c).map spaced)
        = (Utf8.encodeChar (spaced c)).flatMap (Percent.escape isQuote)) (by decide +kernel)
      staysToo.1 staysToo
  induction text with
  | nil => rfl
  | cons c rest ih =>
    obtain ⟨first, others⟩ := List.forall_mem_cons.mp stays
    have step := one first
    have later := ih others
    unfold Utf8.encodeChars Percent.write at *
    rw [List.flatMap_cons, List.map_append, List.flatMap_append, step, later, List.map_cons,
      List.flatMap_cons, List.flatMap_append]

theorem read_write_webQuery : read (Percent.write Percent.webQuery text) = read text := by
  have quiet : ∀ byte, isQuote byte = true → byte ≠ 0x25 ∧ Percent.hexByte? byte = none := by
    intro byte isQuote
    obtain rfl := beq_iff_eq.mp isQuote
    decide
  show Utf8.decodeLossy (Percent.decodeBytes (Utf8.encodeChars
    ((Percent.write Percent.webQuery text).map spaced))) = _
  rw [encodeChars_write_webQuery stays, Percent.decodeBytes_escaped quiet]
  rfl

omit stays in
/-- Nothing but percent codes takes the place of a character. -/
theorem free_writeChar {c : Char} (noQuote : c ∉ Percent.codeChars) {d : Char} (differs : d ≠ c) :
    c ∉ Percent.writeChar Percent.webQuery d := by
  intro member
  have written : c ∈ Percent.write Percent.webQuery [d] := by
    rw [Percent.write, List.flatMap_singleton]
    exact member
  rcases Percent.of_mem_write written with ⟨isChar, -⟩ | isCode
  · exact differs (List.mem_singleton.mp isChar).symm
  · exact noQuote isCode

theorem readPair_write_webQuery :
    readPair (Percent.write Percent.webQuery text) = readPair text := by
  have cut : cutAt '=' (Percent.write Percent.webQuery text) = _ :=
    cutAt_flatMap (show Percent.writeChar Percent.webQuery '=' = ['='] by decide)
      fun d _ differs => free_writeChar (by decide) differs
  unfold readPair
  rw [cut]
  cases parts : cutAt '=' text with
  | none => exact congrArg (·, "") (read_write_webQuery stays)
  | some pair =>
    obtain ⟨name, value⟩ := pair
    have whole := append_of_cutAt parts
    have staysName := fun c member => stays c (whole ▸ List.mem_append_left _ member)
    have staysValue := fun c member =>
      stays c (whole ▸ List.mem_append_right _ (List.mem_cons_of_mem _ member))
    exact Prod.ext (read_write_webQuery staysName) (read_write_webQuery staysValue)

/-- **The pairs of a query** that is written once more for the web are those that it had. -/
theorem readPairs_write_webQuery :
    readPairs (Percent.write Percent.webQuery text) = readPairs text := by
  have cut : splitOn '&' (Percent.write Percent.webQuery text) = _ :=
    splitOn_flatMap (show Percent.writeChar Percent.webQuery '&' = ['&'] by decide)
      fun d _ differs => free_writeChar (by decide) differs
  have given : ∀ piece : List Char,
      (Percent.write Percent.webQuery piece).isEmpty = piece.isEmpty := by
    intro piece
    cases piece with
    | nil => rfl
    | cons c rest =>
      refine List.isEmpty_eq_false_iff.mpr fun nothing => ?_
      exact Percent.writeChar_ne_nil _ c (List.append_eq_nil_iff.mp nothing).1
  have pairs : ∀ piece ∈ splitOn '&' text,
      readPair (Percent.write Percent.webQuery piece) = readPair piece := fun piece isPiece =>
    readPair_write_webQuery fun c member => stays c (mem_of_mem_splitOn isPiece member)
  have kept : ((splitOn '&' text).map (Percent.write Percent.webQuery)).filter (!·.isEmpty)
      = ((splitOn '&' text).filter (!·.isEmpty)).map (Percent.write Percent.webQuery) := by
    rw [List.filter_map]
    simp only [Function.comp_def, given]
  unfold readPairs
  rw [cut]
  show (((splitOn '&' text).map (Percent.write Percent.webQuery)).filter _).map readPair = _
  rw [kept, List.map_map]
  exact List.map_congr_left fun piece member => pairs piece (List.mem_filter.mp member).1

end Form

end Switchboard.Text
