import Switchboard.Proofs.Uri.Domain
import Switchboard.Uri.Host
/-!
Addresses in normal form.

An address of four bytes can be written in many ways, and so can one of eight words. Whichever of
them is read, the host is the address in normal form, and the normal form is read as itself.

* `Host.of_fourBytes` and `Host.fourBytes_addressText`: addresses of four bytes.
* `Host.of_bracketed` and `Host.bracketed_eightWordsText`: addresses of eight words.
-/

namespace Switchboard.Host

open Text

/-! ### Numbers -/

theorem exists_of_mem_toDigits {base n : Nat} (more : 1 < base) {c : Char}
    (member : c ∈ Nat.toDigits base n) : ∃ d, d < base ∧ c = Nat.digitChar d := by
  induction n using Nat.strongRecOn with
  | ind n ih =>
    rw [Nat.toDigits_eq_if more] at member
    split at member
    · rename_i less
      exact ⟨n, less, List.mem_singleton.mp member⟩
    · rename_i notLess
      rcases List.mem_append.mp member with early | isLast
      · exact ih (n / base) (Nat.div_lt_self (by omega) more) early
      · exact ⟨n % base, Nat.mod_lt _ (by omega), List.mem_singleton.mp isLast⟩

theorem hexValue?_digitChar {d : Nat} (small : d < 16) : hexValue? (Nat.digitChar d) = some d := by
  have all : ∀ m ∈ List.range 16, hexValue? (Nat.digitChar m) = some m := by decide
  exact all d (List.mem_range.mpr small)

/-- The digits of a number are read as the number. -/
theorem digitsValue?_toDigits {base : Nat} (more : 1 < base) (within : base ≤ 16) (n : Nat) :
    digitsValue? base (Nat.toDigits base n) = some n := by
  induction n using Nat.strongRecOn with
  | ind n ih =>
    rw [Nat.toDigits_eq_if more]
    split
    · rename_i less
      simp [digitsValue?, hexValue?_digitChar (Nat.lt_of_lt_of_le less within), less]
    · rename_i notLess
      have less : n % base < base := Nat.mod_lt _ (by omega)
      have front := ih (n / base) (Nat.div_lt_self (by omega) more)
      have whole : n / base * base + n % base = n := Nat.div_add_mod' n base
      rw [digitsValue?] at front
      rw [digitsValue?, List.foldlM_append, front]
      simp [hexValue?_digitChar (Nat.lt_of_lt_of_le less within), less, whole]

/-! ### Addresses of four bytes -/

section FourBytes

variable {value : Nat}

/-- The bytes of an address. -/
def bytesOf (value : Nat) : List Nat :=
  [value / 16777216, value / 65536 % 256, value / 256 % 256, value % 256]

theorem lt_of_mem_bytesOf (small : value < 4294967296) : ∀ byte ∈ bytesOf value, byte < 256 := by
  simp only [bytesOf, List.forall_mem_cons, List.not_mem_nil, false_implies, implies_true, and_true]
  omega

theorem toList_addressText (value : Nat) :
    (addressText value).toList = joinWith '.' ((bytesOf value).map (Nat.toDigits 10)) := by
  have isSep : ".".toList = ['.'] := rfl
  rw [addressText, Uri.toList_join_of isSep, List.map_map]
  exact congrArg (joinWith '.') (List.map_congr_left fun byte _ => String.toList_ofList)

theorem splitOn_addressText (value : Nat) :
    splitOn '.' (addressText value).toList = (bytesOf value).map (Nat.toDigits 10) := by
  rw [toList_addressText, splitOn_joinWith (by simp [bytesOf])]
  intro piece member isPoint
  obtain ⟨byte, -, rfl⟩ := List.mem_map.mp member
  have digit := Nat.isDigit_of_mem_toDigits (by decide) (by decide) isPoint
  exact absurd digit (by decide)

theorem addressNumber?_toDigits {byte : Nat} (small : byte < 256) :
    addressNumber? (Nat.toDigits 10 byte) = some byte := by
  have all : ∀ n ∈ List.range 256, addressNumber? (Nat.toDigits 10 n) = some n := by decide +kernel
  exact all byte (List.mem_range.mpr small)

theorem mapM_addressNumber? {bytes : List Nat} (small : ∀ byte ∈ bytes, byte < 256) :
    (bytes.map (Nat.toDigits 10)).mapM addressNumber? = some bytes := by
  induction bytes with
  | nil => rfl
  | cons byte rest ih =>
    obtain ⟨first, others⟩ := List.forall_mem_cons.mp small
    rw [List.map_cons, List.mapM_cons, addressNumber?_toDigits first, ih others]
    rfl

theorem addressValue?_bytesOf (small : value < 4294967296) :
    addressValue? (bytesOf value) = some value := by
  have front : [value / 16777216, value / 65536 % 256, value / 256 % 256].any (255 < ·) = false := by
    simp
    omega
  have last : ¬ 256 ^ 1 ≤ value % 256 := by omega
  show (if [value / 16777216, value / 65536 % 256, value / 256 % 256].any (255 < ·) then none
    else if 256 ^ 1 ≤ value % 256 then none
    else some ((((0 * 256 + value / 16777216) * 256 + value / 65536 % 256) * 256
      + value / 256 % 256) * 256 ^ 1 + value % 256)) = some value
  rw [front, if_neg Bool.false_ne_true, if_neg last]
  congr 1
  omega

/-- **The normal form of an address** of four bytes is read as it is. -/
theorem fourBytes_addressText (small : value < 4294967296) :
    fourBytes (addressText value).toList = .ok (addressText value) := by
  have areLabels : labels (addressText value).toList = (bytesOf value).map (Nat.toDigits 10) := by
    rw [labels, splitOn_addressText]
    simp [bytesOf, Nat.toDigits_ne_nil]
  have few : ¬ 4 < ((bytesOf value).map (Nat.toDigits 10)).length := by simp [bytesOf]
  rw [fourBytes, areLabels, if_neg few, mapM_addressNumber? (lt_of_mem_bytesOf small),
    Option.bind_some, addressValue?_bytesOf small]

/-- Bytes one after another are less than the power of their number. -/
theorem foldl_bytes_lt {bytes : List Nat} (small : ∀ byte ∈ bytes, byte < 256) (start : Nat) :
    bytes.foldl (fun value n => value * 256 + n) start < (start + 1) * 256 ^ bytes.length := by
  induction bytes generalizing start with
  | nil => simp
  | cons byte rest ih =>
    obtain ⟨first, others⟩ := List.forall_mem_cons.mp small
    calc (byte :: rest).foldl (fun value n => value * 256 + n) start
        < (start * 256 + byte + 1) * 256 ^ rest.length := ih others _
      _ ≤ ((start + 1) * 256) * 256 ^ rest.length := Nat.mul_le_mul_right _ (by omega)
      _ = (start + 1) * 256 ^ (rest.length + 1) := by
        rw [Nat.pow_succ, Nat.mul_assoc, Nat.mul_comm 256]

/-- Bytes and a last number that fills up their four places are an address. -/
theorem foldl_bytes_add_lt {bytes : List Nat} {last : Nat} (small : ∀ byte ∈ bytes, byte < 256)
    (few : bytes.length ≤ 4) (fits : last < 256 ^ (4 - bytes.length)) :
    bytes.foldl (fun value n => value * 256 + n) 0 * 256 ^ (4 - bytes.length) + last
      < 4294967296 := by
  have front := foldl_bytes_lt small 0
  generalize bytes.foldl (fun value n => value * 256 + n) 0 = start at front ⊢
  rw [Nat.zero_add, Nat.one_mul] at front
  calc start * 256 ^ (4 - bytes.length) + last
      < start * 256 ^ (4 - bytes.length) + 256 ^ (4 - bytes.length) := Nat.add_lt_add_left fits _
    _ = (start + 1) * 256 ^ (4 - bytes.length) := (Nat.succ_mul _ _).symm
    _ ≤ 256 ^ bytes.length * 256 ^ (4 - bytes.length) := Nat.mul_le_mul_right _ front
    _ = 4294967296 := by rw [← Nat.pow_add, Nat.add_sub_cancel' few]

theorem lt_of_addressValue? {numbers : List Nat} (few : numbers.length ≤ 4)
    (isValue : addressValue? numbers = some value) : value < 4294967296 := by
  unfold addressValue? at isValue
  split at isValue
  · cases isValue
  · rename_i last before reversed
    have count : before.length + 1 ≤ 4 := by
      rw [← List.length_reverse, reversed] at few
      exact few
    dsimp only at isValue
    split at isValue
    · cases isValue
    · rename_i small
      split at isValue
      · cases isValue
      · rename_i fits
        obtain rfl := Option.some.inj isValue
        have areBytes : ∀ byte ∈ before.reverse, byte < 256 := by
          intro byte member
          by_contra large
          exact small (List.any_eq_true.mpr ⟨byte, member, decide_eq_true (by omega)⟩)
        exact foldl_bytes_add_lt areBytes (by rw [List.length_reverse]; omega) (Nat.not_le.mp fits)

/-- **Whatever address of four bytes is read**, it is in normal form. -/
theorem of_fourBytes {name : List Char} {host : String} (read : fourBytes name = .ok host) :
    ∃ value, value < 4294967296 ∧ host = addressText value := by
  unfold fourBytes at read
  dsimp only at read
  split at read
  · rename_i value isValue
    refine ⟨value, ?_, (Except.ok.inj read).symm⟩
    split at isValue
    · cases isValue
    · rename_i few
      obtain ⟨numbers, areNumbers, isValue⟩ := Option.bind_eq_some_iff.mp isValue
      refine lt_of_addressValue? ?_ isValue
      have count := congrArg List.length
        (map_eq_of_mapM (fun _ => ()) (fun _ => ()) areNumbers fun _ _ _ _ => rfl)
      rw [List.length_map, List.length_map] at count
      omega
  · cases read

end FourBytes

/-! ### The longest zeros -/

/-- Says that a run of zeros is part of some words. -/
def IsRun (words : List Nat) (start length : Nat) : Prop :=
  ∃ front back, words = front ++ (List.replicate length 0 ++ back) ∧ front.length = start

/-- What is found as the longest zeros are zeros, if `seen` ends in those of the last run. -/
theorem isRun_longestZeros {seen rest : List Nat} {start length run : Nat}
    (best : IsRun (seen ++ rest) start length)
    (last : ∃ front, seen = front ++ List.replicate run 0) :
    IsRun (seen ++ rest) (longestZeros start length run seen.length rest).1
      (longestZeros start length run seen.length rest).2 := by
  induction rest generalizing seen start length run with
  | nil => exact best
  | cons word rest ih =>
    obtain ⟨front, isSeen⟩ := last
    generalize isRun : (if word = 0 then run + 1 else 0) = next
    -- The run that ends here is one of the words, whether or not it is the best so far.
    have later : ∃ front, seen ++ [word] = front ++ List.replicate next 0 := by
      rw [← isRun]
      split
      · rename_i zero
        exact ⟨front, by rw [zero, List.replicate_succ', ← List.append_assoc, ← isSeen]⟩
      · exact ⟨seen ++ [word], by simp⟩
    have count : (seen ++ [word]).length = seen.length + 1 := by simp
    rw [longestZeros, isRun, List.append_cons]
    rw [List.append_cons] at best
    split
    · have longer : IsRun (seen ++ [word] ++ rest) (seen.length + 1 - next) next := by
        obtain ⟨front, parts⟩ := later
        refine ⟨front, rest, by rw [parts, List.append_assoc], ?_⟩
        rw [← count, parts, List.length_append, List.length_replicate, Nat.add_sub_cancel]
      rw [← count] at longer ⊢
      exact ih longer later
    · rw [← count]
      exact ih best later

/-! ### Addresses of eight words -/

section EightWords

variable {words : List Nat}

/-- Says that some numbers are words. -/
def AreWords (words : List Nat) : Prop := ∀ word ∈ words, word < 65536

theorem toList_wordsText (words : List Nat) :
    (wordsText words).toList = joinWith ':' (words.map (Nat.toDigits 16)) := by
  have isSep : ":".toList = [':'] := rfl
  rw [wordsText, Uri.toList_join_of isSep, List.map_map]
  exact congrArg (joinWith ':') (List.map_congr_left fun word _ => String.toList_ofList)

/-- The first digit of a word. -/
theorem exists_toDigits_cons (word : Nat) : ∃ first digits, Nat.toDigits 16 word = first :: digits ∧
    first ≠ ':' := by
  cases parts : Nat.toDigits 16 word with
  | nil => exact absurd parts Nat.toDigits_ne_nil
  | cons first digits =>
    refine ⟨first, digits, rfl, ?_⟩
    have inDigits : first ∈ Nat.toDigits 16 word := parts ▸ List.mem_cons_self
    obtain ⟨d, small, isDigit⟩ := exists_of_mem_toDigits (by decide) inDigits
    rintro rfl
    have value := hexValue?_digitChar small
    rw [← isDigit] at value
    cases value

/-- The digits of a word are split off up to what is no digit. -/
theorem spanWord_toDigits {word : Nat} (small : word < 65536) {rest : List Char}
    (stops : ∀ c ∈ rest.head?, hexValue? c = none) :
    spanWord (Nat.toDigits 16 word ++ rest) = (Nat.toDigits 16 word, rest) := by
  have few : (Nat.toDigits 16 word).length ≤ 4 :=
    (Nat.length_toDigits_le_iff (by decide) (by decide)).mpr small
  have areDigits : ∀ c ∈ Nat.toDigits 16 word, (hexValue? c).isSome = true := by
    intro c member
    obtain ⟨d, small, rfl⟩ := exists_of_mem_toDigits (by decide) member
    rw [hexValue?_digitChar small]
    rfl
  have noMore : (rest.take (4 - (Nat.toDigits 16 word).length)).takeWhile
      (fun c => (hexValue? c).isSome) = [] := by
    cases rest with
    | nil => simp
    | cons c others =>
      cases 4 - (Nat.toDigits 16 word).length with
      | zero => rfl
      | succ more => simp [stops c rfl]
  have isSpan : ((Nat.toDigits 16 word ++ rest).take 4).takeWhile
      (fun c => (hexValue? c).isSome) = Nat.toDigits 16 word := by
    rw [List.take_append, List.take_of_length_le few, List.takeWhile_append_of_pos areDigits, noMore,
      List.append_nil]
  rw [spanWord, isSpan]
  simp

/-- Says that nothing follows a word, or a colon and more. -/
def GoesOn (rest : List Char) : Prop := rest = [] ∨ ∃ c more, rest = ':' :: c :: more

/-- What is read after a word. -/
def readOn (fuel : Nat) (words : List Nat) (gap : Option Nat) :
    List Char → Option (List Nat × Option Nat)
  | [] => some (words, gap)
  | _ :: rest => readWords fuel words gap rest

/-- A word is read up to where it goes on. -/
theorem readWords_word {fuel word : Nat} {gap : Option Nat} {rest : List Char}
    (small : word < 65536) (room : places words gap < 8) (goesOn : GoesOn rest) :
    readWords (fuel + 1) words gap (Nat.toDigits 16 word ++ rest)
      = readOn fuel (words ++ [word]) gap rest := by
  have stops : ∀ c ∈ rest.head?, hexValue? c = none := by
    rintro c isHead
    rcases goesOn with rfl | ⟨next, more, rfl⟩
    · cases isHead
    · obtain rfl := Option.some.inj isHead
      decide
  have span := spanWord_toDigits small stops
  have value : digitsValue? 16 (Nat.toDigits 16 word) = some word :=
    digitsValue?_toDigits (by decide) (by decide) word
  obtain ⟨first, digits, parts, noColon⟩ := exists_toDigits_cons word
  rw [parts] at span value ⊢
  rw [List.cons_append] at span ⊢
  rw [readWords, if_neg (by omega), span]
  · dsimp only
    rw [value]
    rcases goesOn with rfl | ⟨next, more, rfl⟩ <;> rfl
  · exact List.cons_ne_nil _ _
  · exact fun _ same => noColon (List.cons.inj same).1

/-- The digits of words with colons between them. -/
def digitsOf (words : List Nat) : List Char := joinWith ':' (words.map (Nat.toDigits 16))

theorem digitsOf_cons_cons (word next : Nat) (rest : List Nat) :
    digitsOf (word :: next :: rest) = Nat.toDigits 16 word ++ ':' :: digitsOf (next :: rest) := rfl

theorem length_le_digitsOf (words : List Nat) : words.length ≤ (digitsOf words).length := by
  induction words with
  | nil => exact Nat.zero_le _
  | cons word rest ih =>
    have one : 0 < (Nat.toDigits 16 word).length := Nat.length_toDigits_pos
    cases rest with
    | nil => exact one
    | cons next others =>
      have whole := congrArg List.length (digitsOf_cons_cons word next others)
      rw [List.length_append, List.length_cons] at whole
      rw [whole, List.length_cons]
      omega

theorem exists_digitsOf_cons (word : Nat) (rest : List Nat) :
    ∃ first digits, digitsOf (word :: rest) = first :: digits ∧ first ≠ ':' := by
  obtain ⟨first, digits, parts, noColon⟩ := exists_toDigits_cons word
  cases rest with
  | nil => exact ⟨first, digits, parts, noColon⟩
  | cons next others =>
    refine ⟨first, digits ++ ':' :: digitsOf (next :: others), ?_, noColon⟩
    rw [digitsOf_cons_cons, parts, List.cons_append]

/-- **Words are read** one after the other. -/
theorem readWords_append {more : List Nat} {gap : Option Nat} {rest : List Char} (fuel : Nat)
    (given : more ≠ []) (areWords : AreWords more) (room : places words gap + more.length ≤ 8)
    (goesOn : GoesOn rest) :
    readWords (fuel + more.length) words gap (digitsOf more ++ rest)
      = readOn fuel (words ++ more) gap rest := by
  induction more generalizing words with
  | nil => exact absurd rfl given
  | cons word others ih =>
    obtain ⟨small, areOthers⟩ := List.forall_mem_cons.mp areWords
    rw [List.length_cons] at room
    cases others with
    | nil => exact readWords_word small (by omega) goesOn
    | cons next others =>
      obtain ⟨first, digits, parts, -⟩ := exists_digitsOf_cons next others
      have goesOnToo : GoesOn (':' :: (digitsOf (next :: others) ++ rest)) :=
        Or.inr ⟨first, digits ++ rest, by rw [parts, List.cons_append]⟩
      have roomToo : places (words ++ [word]) gap + (next :: others).length ≤ 8 := by
        rw [places, List.length_append, List.length_singleton]
        rw [places] at room
        omega
      rw [digitsOf_cons_cons, List.append_assoc, List.cons_append, List.length_cons,
        ← Nat.add_assoc, readWords_word small (by omega) goesOnToo, readOn,
        ih (List.cons_ne_nil _ _) areOthers roomToo, List.append_assoc]
      rfl

/-- Words that end a text are read. -/
theorem readWords_digitsOf {more : List Nat} {gap : Option Nat} (fuel : Nat) (given : more ≠ [])
    (areWords : AreWords more) (room : places words gap + more.length ≤ 8) :
    readWords (fuel + more.length) words gap (digitsOf more) = some (words ++ more, gap) := by
  have reads := readWords_append fuel given areWords room (Or.inl rfl)
  rwa [List.append_nil] at reads

/-- What stands between the brackets of an address. -/
def innerText (words : List Nat) : List Char :=
  let (start, length) := longestZeros 0 0 0 0 words
  if length < 2 then digitsOf words
  else digitsOf (words.take start) ++ ':' :: ':' :: digitsOf (words.drop (start + length))

theorem toList_eightWordsText (words : List Nat) :
    (eightWordsText words).toList = '[' :: (innerText words ++ [']']) := by
  rw [eightWordsText, innerText]
  generalize longestZeros 0 0 0 0 words = run
  obtain ⟨start, length⟩ := run
  dsimp only
  split
  · simp [toList_wordsText, digitsOf]
  · simp [toList_wordsText, digitsOf]

/-- Puts zeros where the two colons were. -/
def filled? : List Nat × Option Nat → Option (List Nat)
  | (words, some before) =>
    if words.length < 8 then
      some (words.take before ++ List.replicate (8 - words.length) 0 ++ words.drop before)
    else none
  | (words, none) => if words.length = 8 then some words else none

theorem filled?_eq (words : List Nat) (gap : Option Nat) : (match gap with
    | some before => do
      guard (words.length < 8)
      return words.take before ++ List.replicate (8 - words.length) 0 ++ words.drop before
    | none => do
      guard (words.length = 8)
      return words : Option (List Nat)) = filled? (words, gap) := by
  cases gap with
  | none =>
    by_cases whole : words.length = 8 <;> simp [filled?, whole]
  | some before =>
    by_cases fewer : words.length < 8 <;> simp [filled?, fewer]

theorem eightWords?_of_ne {text : List Char} (noColon : text.head? ≠ some ':')
    (long : 2 ≤ text.length) :
    eightWords? text = (readWords (text.length + 1) [] none text).bind filled? := by
  cases text with
  | nil => exact absurd long (by decide)
  | cons first rest =>
    cases rest with
    | nil => exact absurd long (by simp)
    | cons second more =>
      have noColon : first ≠ ':' := fun isColon => noColon (congrArg some isColon)
      rw [eightWords?]
      · exact congrArg (Option.bind _) (funext fun result => filled?_eq result.1 result.2)
      · exact fun _ same => noColon (List.cons.inj same).1
      · exact fun _ same => noColon (List.cons.inj same).1
      · exact fun same => nomatch same
      · exact fun _ same => nomatch same

theorem eightWords?_of_colons (text : List Char) :
    eightWords? (':' :: ':' :: text)
      = (readWords (text.length + 1) [] (some 0) text).bind filled? :=
  congrArg (Option.bind _) (funext fun result => filled?_eq result.1 result.2)

theorem head?_digitsOf_append (given : words ≠ []) (text : List Char) :
    (digitsOf words ++ text).head? ≠ some ':' := by
  cases words with
  | nil => exact absurd rfl given
  | cons word rest =>
    obtain ⟨first, digits, parts, noColon⟩ := exists_digitsOf_cons word rest
    rw [parts]
    exact fun same => noColon (Option.some.inj same)

/-- The words after the two colons are read, if there are any. -/
theorem readWords_rest {back : List Nat} {before fuel : Nat} (areWords : AreWords back)
    (room : words.length + 1 + back.length ≤ 8) (enough : back.length < fuel) :
    readWords fuel words (some before) (digitsOf back) = some (words ++ back, some before) := by
  cases back with
  | nil =>
    obtain ⟨less, rfl⟩ : ∃ less, fuel = less + 1 := ⟨fuel - 1, by simp at enough; omega⟩
    rw [List.append_nil]
    rfl
  | cons word rest =>
    obtain ⟨less, rfl⟩ : ∃ less, fuel = less + (word :: rest).length :=
      ⟨fuel - (word :: rest).length, by omega⟩
    exact readWords_digitsOf less (List.cons_ne_nil _ _) areWords room

/-- Two colons stand for the zeros between words. -/
theorem eightWords?_colons {front back : List Nat} (areFront : AreWords front)
    (areBack : AreWords back) (room : front.length + 1 + back.length ≤ 8) :
    eightWords? (digitsOf front ++ ':' :: ':' :: digitsOf back)
      = some (front ++ List.replicate (8 - (front.length + back.length)) 0 ++ back) := by
  have fewer : (front ++ back).length < 8 := by
    rw [List.length_append]
    omega
  have isFilled : filled? (front ++ back, some front.length)
      = some (front ++ List.replicate (8 - (front.length + back.length)) 0 ++ back) := by
    rw [filled?, if_pos fewer, List.take_left, List.drop_left, List.length_append]
  have enough := length_le_digitsOf back
  cases front with
  | nil =>
    show eightWords? (':' :: ':' :: digitsOf back) = _
    rw [eightWords?_of_colons, readWords_rest areBack room (by omega)]
    exact isFilled
  | cons word rest =>
    have given := List.cons_ne_nil word rest
    generalize word :: rest = front at *
    -- Each word has a digit, so the length of the text is enough for all steps of the reading.
    have enoughFront := length_le_digitsOf front
    have count : (digitsOf front ++ ':' :: ':' :: digitsOf back).length
        = (digitsOf front).length + (digitsOf back).length + 2 := by simp; omega
    obtain ⟨fuel, isFuel⟩ : ∃ fuel, (digitsOf front).length + (digitsOf back).length + 2 + 1
        = fuel + 1 + front.length := ⟨(digitsOf front).length + (digitsOf back).length + 2
          - front.length, by omega⟩
    have roomFront : places [] none + front.length ≤ 8 := by
      simp [places]
      omega
    have noGap : ¬ (8 ≤ places front none ∨ (none : Option Nat).isSome = true) := by
      simp [places]
      omega
    rw [eightWords?_of_ne (head?_digitsOf_append given _) (by omega), count, isFuel,
      readWords_append _ given areFront roomFront (Or.inr ⟨_, _, rfl⟩), List.nil_append, readOn,
      readWords, if_neg noGap, readWords_rest areBack room (by omega)]
    exact isFilled

/-- What stands between the brackets of an address is read as its words. -/
theorem eightWords?_innerText (areWords : AreWords words) (whole : words.length = 8) :
    eightWords? (innerText words) = some words := by
  obtain ⟨front, back, parts, isStart⟩ : IsRun ([] ++ words) (longestZeros 0 0 0 0 words).1
      (longestZeros 0 0 0 0 words).2 := isRun_longestZeros ⟨[], words, rfl, rfl⟩ ⟨[], rfl⟩
  rw [innerText]
  generalize longestZeros 0 0 0 0 words = run at *
  obtain ⟨start, length⟩ := run
  dsimp only [List.nil_append] at *
  split
  · have enough := length_le_digitsOf words
    obtain ⟨fuel, isFuel⟩ : ∃ fuel, (digitsOf words).length + 1 = fuel + words.length :=
      ⟨(digitsOf words).length + 1 - words.length, by omega⟩
    have given : words ≠ [] := by
      rintro rfl
      cases whole
    have noColon := head?_digitsOf_append given []
    rw [List.append_nil] at noColon
    rw [eightWords?_of_ne noColon (by omega), isFuel,
      readWords_digitsOf fuel given areWords (by simp [places, whole])]
    simp [filled?, whole]
  · rename_i longer
    have isFront : words.take start = front := by rw [parts, ← isStart, List.take_left]
    have isBack : words.drop (start + length) = back := by
      rw [parts, ← isStart, List.drop_length_add_append, List.drop_left' (by simp)]
    have count := congrArg List.length parts
    simp only [whole, List.length_append, List.length_replicate] at count
    have isLength : 8 - (front.length + back.length) = length := by omega
    rw [isFront, isBack, eightWords?_colons _ _ (by omega), isLength, parts, List.append_assoc]
    · rw [← isFront]
      exact fun word member => areWords word (List.mem_of_mem_take member)
    · rw [← isBack]
      exact fun word member => areWords word (List.mem_of_mem_drop member)

/-- **The normal form of an address** of eight words is read as it is. -/
theorem bracketed_eightWordsText (areWords : AreWords words) (whole : words.length = 8) :
    bracketed (innerText words ++ [']']) = .ok (eightWordsText words) := by
  rw [bracketed, List.getLast?_concat, if_pos rfl, List.dropLast_concat,
    eightWords?_innerText areWords whole]

/-! ### What is read as an address of eight words -/

/-- Digits are less than the power of their number. -/
theorem foldlM_digits_lt {base start value : Nat} {text : List Char}
    (read : text.foldlM (fun value c => do
      let d ← hexValue? c
      if d < base then some (value * base + d) else none) start = some value) :
    value < (start + 1) * base ^ text.length := by
  induction text generalizing start with
  | nil =>
    obtain rfl := Option.some.inj read
    simp
  | cons c rest ih =>
    rw [List.foldlM_cons] at read
    obtain ⟨next, step, read⟩ := Option.bind_eq_some_iff.mp read
    obtain ⟨d, -, step⟩ := Option.bind_eq_some_iff.mp step
    split at step
    · rename_i less
      obtain rfl := Option.some.inj step
      calc value < (start * base + d + 1) * base ^ rest.length := ih read
        _ ≤ ((start + 1) * base) * base ^ rest.length :=
          Nat.mul_le_mul_right _ (by rw [Nat.succ_mul]; omega)
        _ = (start + 1) * base ^ (rest.length + 1) := by
          rw [Nat.pow_succ, Nat.mul_assoc, Nat.mul_comm base]
    · cases step

theorem getD_spanWord_lt (text : List Char) :
    (digitsValue? 16 (spanWord text).1).getD 0 < 65536 := by
  cases value : digitsValue? 16 (spanWord text).1 with
  | none => decide
  | some n =>
    have few : (spanWord text).1.length ≤ 4 :=
      Nat.le_trans (List.takeWhile_sublist _).length_le (List.length_take_le 4 text)
    have less := foldlM_digits_lt value
    calc n < (0 + 1) * 16 ^ (spanWord text).1.length := less
      _ ≤ (0 + 1) * 16 ^ 4 := Nat.mul_le_mul_left _ (Nat.pow_le_pow_right (by decide) few)

theorem lt_of_byte? {text : List Char} {byte : Nat} (read : byte? text = some byte) :
    byte < 256 := by
  unfold byte? at read
  dsimp only at read
  split at read
  · split at read
    · rename_i fits
      obtain rfl := Option.some.inj read
      exact fits.2.2.2
    · cases read
  · cases read

theorem areWords_lastWords? {text : List Char} {last : List Nat}
    (read : lastWords? text = some last) : AreWords last := by
  unfold lastWords? at read
  split at read
  · rename_i a b c d bytes
    obtain rfl := Option.some.inj read
    have small : ∀ byte, some byte ∈ [some a, some b, some c, some d] → byte < 256 := by
      intro byte member
      rw [← bytes] at member
      obtain ⟨part, -, isByte⟩ := List.mem_map.mp member
      exact lt_of_byte? isByte
    have smallA := small a (by simp)
    have smallB := small b (by simp)
    have smallC := small c (by simp)
    have smallD := small d (by simp)
    intro word member
    simp only [List.mem_cons, List.not_mem_nil, or_false] at member
    omega
  · cases read

theorem AreWords.append {more : List Nat} (areWords : AreWords words) (areMore : AreWords more) :
    AreWords (words ++ more) := fun word member =>
  (List.mem_append.mp member).elim (areWords word) (areMore word)

/-- Only words are read. -/
theorem areWords_of_readWords {fuel : Nat} {gap after : Option Nat} {text : List Char}
    {read : List Nat} (areWords : AreWords words)
    (reads : readWords fuel words gap text = some (read, after)) : AreWords read := by
  induction fuel generalizing words gap text with
  | zero => cases reads
  | succ fuel ih =>
    unfold readWords at reads
    split at reads
    · cases reads
      exact areWords
    · split at reads
      · cases reads
      · exact ih areWords reads
    · have withWord := fun text => areWords.append
        (List.forall_mem_singleton.mpr (getD_spanWord_lt text))
      split at reads
      · cases reads
      · dsimp only at reads
        split at reads
        · cases reads
          exact withWord _
        · split at reads
          · cases reads
          · obtain ⟨last, isLast, same⟩ := Option.map_eq_some_iff.mp reads
            cases same
            exact areWords.append (areWords_lastWords? isLast)
        · cases reads
        · exact ih (withWord _) reads
        · cases reads

theorem of_filled? {read : List Nat} {gap : Option Nat} (areRead : AreWords read)
    (fills : filled? (read, gap) = some words) : AreWords words ∧ words.length = 8 := by
  unfold filled? at fills
  split at fills
  · rename_i found before same
    cases same
    split at fills
    · rename_i fewer
      obtain rfl := Option.some.inj fills
      refine ⟨?_, ?_⟩
      · have areFront : AreWords (read.take before) := fun word member =>
          areRead word (List.mem_of_mem_take member)
        have areBack : AreWords (read.drop before) := fun word member =>
          areRead word (List.mem_of_mem_drop member)
        refine (areFront.append fun word member => ?_).append areBack
        rw [(List.mem_replicate.mp member).2]
        decide
      · simp only [List.length_append, List.length_take, List.length_drop, List.length_replicate]
        omega
    · cases fills
  · rename_i found same
    cases same
    split at fills
    · rename_i whole
      obtain rfl := Option.some.inj fills
      exact ⟨areRead, whole⟩
    · cases fills

theorem of_eightWords? {text : List Char} (read : eightWords? text = some words) :
    AreWords words ∧ words.length = 8 := by
  have start : ∀ {fuel gap text}, (readWords fuel [] gap text).bind filled? = some words →
      AreWords words ∧ words.length = 8 := by
    intro fuel gap text read
    obtain ⟨⟨found, after⟩, reads, fills⟩ := Option.bind_eq_some_iff.mp read
    exact of_filled? (areWords_of_readWords (List.forall_mem_nil _) reads) fills
  have isFilled := fun result : List Nat × Option Nat => filled?_eq result.1 result.2
  unfold eightWords? at read
  split at read
  · exact start <| (congrArg (Option.bind _) (funext isFilled)).symm.trans read
  · cases read
  · cases read
  · cases read
  · exact start <| (congrArg (Option.bind _) (funext isFilled)).symm.trans read

/-- **Whatever address of eight words is read**, it is in normal form. -/
theorem of_bracketed {text : List Char} {host : String} (read : bracketed text = .ok host) :
    ∃ words, AreWords words ∧ words.length = 8 ∧ host = eightWordsText words := by
  unfold bracketed at read
  split at read
  · split at read
    · rename_i words isWords
      obtain ⟨areWords, whole⟩ := of_eightWords? isWords
      exact ⟨words, areWords, whole, (Except.ok.inj read).symm⟩
    · cases read
  · cases read

end EightWords

end Switchboard.Host
