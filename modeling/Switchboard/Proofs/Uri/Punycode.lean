import Mathlib.Algebra.Group.Nat.Defs
import Mathlib.Data.Option.Basic
import Switchboard.Proofs.Text.Utf8
import Switchboard.Uri.Punycode
/-!
Labels in ASCII are written in one way only.

Whoever reads the points of a label inserts them in the order of code and position, and whoever
writes them passes over them in this order. So what was read, without capitals, is what is written
for the label.

* `Punycode.of_readDistance`: a distance that was read is written by the digits that it was read of.
* `Punycode.encode_of_decode?`: a label that was read is written as it was.
* `Punycode.of_mem_encode`: the characters that are written.
-/

namespace Switchboard.Punycode

/-! ### Distances -/

theorem threshold_bounds (k bias : Nat) : 1 ≤ threshold k bias ∧ threshold k bias ≤ 26 := by
  unfold threshold
  split
  · omega
  · split <;> omega

/-- Says that a character is no capital. -/
def Small (c : Char) : Prop := ¬ (65 ≤ c.toNat ∧ c.toNat ≤ 90)

/-- The value of a digit tells the digit, but for capitals. -/
theorem digit_of_value? {c : Char} {d : Nat} (small : Small c) (value : value? c = some d) :
    d < 36 ∧ digit d = c := by
  have fits : c.toNat ≤ 122 := by
    unfold value? at value
    dsimp only at value
    split at value
    · omega
    · split at value
      · omega
      · split at value
        · omega
        · cases value
  have all : ∀ n ∈ List.range 123, ¬ (65 ≤ (Char.ofNat n).toNat ∧ (Char.ofNat n).toNat ≤ 90) →
      ∀ e ∈ value? (Char.ofNat n), e < 36 ∧ digit e = Char.ofNat n := by
    decide +kernel
  have found := all c.toNat (List.mem_range.mpr (by omega))
  rw [Char.ofNat_toNat] at found
  exact found small d value

theorem readDistance_cons {bias i w k value : Nat} {c : Char} {text rest : List Char}
    (read : readDistance bias i w k (c :: text) = some (value, rest)) :
    ∃ d, value? c = some d ∧
      ((d < threshold k bias ∧ value = i + d * w ∧ rest = text) ∨
        (threshold k bias ≤ d ∧ w * (36 - threshold k bias) ≤ maxDistance ∧
          readDistance bias (i + d * w) (w * (36 - threshold k bias)) (k + 36) text
            = some (value, rest))) := by
  rw [readDistance] at read
  obtain ⟨d, isDigit, read⟩ := Option.bind_eq_some_iff.mp read
  obtain ⟨_, _, read⟩ := Option.bind_eq_some_iff.mp read
  refine ⟨d, isDigit, ?_⟩
  dsimp only at read
  split at read
  · rename_i last
    cases read
    exact Or.inl ⟨last, rfl, rfl⟩
  · rename_i more
    obtain ⟨_, fits, read⟩ := Option.bind_eq_some_iff.mp read
    exact Or.inr ⟨Nat.not_lt.mp more, (Option.guard_eq_some' _).mp fits, read⟩

/-- A distance is written by its first digit and those of what is left. -/
theorem writeDistance_succ {bias fuel k d q : Nat} (more : threshold k bias ≤ d) (less : d < 36) :
    writeDistance bias (fuel + 1) k (d + q * (36 - threshold k bias))
      = digit d :: writeDistance bias fuel (k + 36) q := by
  obtain ⟨least, greatest⟩ := threshold_bounds k bias
  have beyond : d + q * (36 - threshold k bias) - threshold k bias
      = (d - threshold k bias) + q * (36 - threshold k bias) := by omega
  have left : d - threshold k bias < 36 - threshold k bias := by omega
  rw [writeDistance, if_neg (by omega), beyond, Nat.add_mul_mod_self_right, Nat.mod_eq_of_lt left,
    Nat.add_mul_div_right _ _ (by omega), Nat.div_eq_of_lt left, Nat.zero_add,
    Nat.add_sub_of_le more]

/-- A distance has at least one digit. -/
theorem length_writeDistance_pos (bias fuel k q : Nat) :
    0 < (writeDistance bias (fuel + 1) k q).length := by
  rw [writeDistance]
  split <;> exact Nat.succ_pos _

/-- **A distance that was read** is written by the digits that it was read of. -/
theorem of_readDistance {bias fuel i w k value : Nat} {text rest : List Char}
    (enough : maxDistance < w * 10 ^ fuel) (within : w ≤ maxDistance) (small : ∀ c ∈ text, Small c)
    (read : readDistance bias i w k text = some (value, rest)) :
    ∃ q, value = i + q * w ∧ text = writeDistance bias fuel k q ++ rest := by
  -- The weight is general: it grows with each digit, and so do the digits that fit.
  induction text generalizing i w k fuel with
  | nil => cases read
  | cons c others ih =>
    obtain ⟨smallFirst, smallOthers⟩ := List.forall_mem_cons.mp small
    obtain ⟨least, greatest⟩ := threshold_bounds k bias
    obtain ⟨fuel, rfl⟩ : ∃ less, fuel = less + 1 := by
      cases fuel with
      | zero => omega
      | succ less => exact ⟨less, rfl⟩
    obtain ⟨d, isDigit, ⟨last, rfl, rfl⟩ | ⟨more, fits, later⟩⟩ := readDistance_cons read
    · obtain ⟨less, rfl⟩ := digit_of_value? smallFirst isDigit
      refine ⟨d, rfl, ?_⟩
      rw [writeDistance, if_pos last]
      rfl
    · obtain ⟨less, rfl⟩ := digit_of_value? smallFirst isDigit
      have enoughToo : maxDistance < w * (36 - threshold k bias) * 10 ^ fuel := by
        calc maxDistance < w * 10 ^ (fuel + 1) := enough
          _ = w * 10 * 10 ^ fuel := by rw [Nat.pow_succ, Nat.mul_comm (10 ^ fuel), Nat.mul_assoc]
          _ ≤ w * (36 - threshold k bias) * 10 ^ fuel :=
            Nat.mul_le_mul_right _ (Nat.mul_le_mul_left w (by omega))
      obtain ⟨q, isValue, isText⟩ := ih enoughToo fits smallOthers later
      refine ⟨d + q * (36 - threshold k bias), ?_, ?_⟩
      · rw [isValue, Nat.add_mul, Nat.add_assoc, Nat.mul_comm w, ← Nat.mul_assoc]
      · rw [writeDistance_succ more less, isText]
        rfl

/-! ### Codes -/

/-- Without duplicates a sorted list increases. -/
theorem pairwise_lt_eraseDups (codes : List Nat) (sorted : codes.Pairwise (· ≤ ·)) :
    codes.eraseDups.Pairwise (· < ·) := by
  match codes, sorted with
  | [], _ => exact List.Pairwise.nil
  | code :: rest, sorted =>
    obtain ⟨least, sortedRest⟩ := List.pairwise_cons.mp sorted
    rw [List.eraseDups_cons]
    refine List.pairwise_cons.mpr ⟨fun other member => ?_, ?_⟩
    · obtain ⟨inRest, differs⟩ := List.mem_filter.mp (List.mem_eraseDups.mp member)
      refine Nat.lt_of_le_of_ne (least other inRest) fun same => ?_
      simp [same] at differs
    · exact pairwise_lt_eraseDups _ (sortedRest.filter _)
termination_by codes.length
decreasing_by
  exact Nat.lt_succ_of_le (List.length_filter_le _ _)

theorem pairwise_codesOf (label : List Char) : (codesOf label).Pairwise (· < ·) := by
  apply pairwise_lt_eraseDups
  have sorted := List.pairwise_mergeSort
    (fun a b c (ab : decide (a ≤ b) = true) (bc : decide (b ≤ c) = true) =>
      decide_eq_true (Nat.le_trans (of_decide_eq_true ab) (of_decide_eq_true bc)))
    (fun a b => by simpa using Nat.le_total a b) ((label.map Char.toNat).filter fun n => 0x80 ≤ n)
  exact sorted.imp fun ordered => of_decide_eq_true ordered

theorem mem_codesOf {label : List Char} {code : Nat} :
    code ∈ codesOf label ↔ 0x80 ≤ code ∧ ∃ c ∈ label, c.toNat = code := by
  rw [codesOf, List.mem_eraseDups, List.mem_mergeSort, List.mem_filter, List.mem_map,
    decide_eq_true_iff, and_comm]

/-- The first of the codes beyond another one. -/
theorem filter_lt_of_least {codes : List Nat} (increases : codes.Pairwise (· < ·)) {code next : Nat}
    (member : next ∈ codes) (beyond : code < next)
    (least : ∀ other ∈ codes, code < other → next ≤ other) :
    codes.filter (code < ·) = next :: codes.filter (next < ·) := by
  induction codes with
  | nil => cases member
  | cons first rest ih =>
    obtain ⟨above, increasesRest⟩ := List.pairwise_cons.mp increases
    rcases List.mem_cons.mp member with rfl | inRest
    · have all : rest.filter (code < ·) = rest.filter (next < ·) :=
        List.filter_congr fun other isOther => by
          have more := above other isOther
          simp [more, Nat.lt_trans beyond more]
      rw [List.filter_cons_of_pos (by simpa using beyond), List.filter_cons_of_neg (by simp), all]
    · have notBeyond : ¬ code < first := fun more =>
        absurd (above next inRest) (Nat.not_lt.mpr (least first List.mem_cons_self more))
      have notBeyondToo : ¬ next < first := Nat.lt_asymm (above next inRest)
      rw [List.filter_cons_of_neg (by simpa using notBeyond),
        List.filter_cons_of_neg (by simpa using notBeyondToo)]
      exact ih increasesRest inRest fun other isOther => least other (List.mem_cons_of_mem _ isOther)

/-! ### Passing over a label -/

section Passing

variable {basic code : Nat}

/-- The characters of a text below a code. -/
def under (code : Nat) (text : List Char) : List Char := text.filter fun c => c.toNat < code

/-- The characters of a text up to a code. -/
def upTo (code : Nat) (text : List Char) : List Char := text.filter fun c => c.toNat ≤ code

theorem under_upTo {least greatest : Nat} (within : least ≤ greatest) (text : List Char) :
    under least (upTo greatest text) = under least text := by
  rw [under, upTo, List.filter_filter]
  refine List.filter_congr fun c _ => ?_
  by_cases below : c.toNat < least
  · simp [below, Nat.le_trans (Nat.le_of_lt below) within]
  · simp [below]

theorem upTo_upTo {least greatest : Nat} (within : least ≤ greatest) (text : List Char) :
    upTo least (upTo greatest text) = upTo least text := by
  rw [upTo, upTo, List.filter_filter]
  refine List.filter_congr fun c _ => ?_
  by_cases below : c.toNat ≤ least
  · simp [below, Nat.le_trans below within]
  · simp [below]

theorem upTo_under {least greatest : Nat} (within : least < greatest) (text : List Char) :
    upTo least (under greatest text) = upTo least text := by
  rw [upTo, under, List.filter_filter]
  refine List.filter_congr fun c _ => ?_
  by_cases below : c.toNat ≤ least
  · simp [below, Nat.lt_of_le_of_lt below within]
  · simp [below]

theorem under_eq_self {text : List Char} (below : ∀ c ∈ text, c.toNat < code) :
    under code text = text :=
  List.filter_eq_self.mpr fun c member => decide_eq_true (below c member)

theorem upTo_eq_self {text : List Char} (below : ∀ c ∈ text, c.toNat ≤ code) :
    upTo code text = text :=
  List.filter_eq_self.mpr fun c member => decide_eq_true (below c member)

/-- What has no character up to a code but those below it. -/
theorem under_of_upTo {text near : List Char} (isNear : upTo code text = near)
    (late : ∀ d ∈ near, d.toNat < code) :
    under code text = near ∧ ∀ d ∈ text, d.toNat ≠ code := by
  refine ⟨by rw [← under_upTo (Nat.le_refl code), isNear, under_eq_self late], ?_⟩
  intro d member same
  have inNear : d ∈ upTo code text := List.mem_filter.mpr ⟨member, by simp [same]⟩
  rw [isNear] at inNear
  exact absurd same (Nat.ne_of_lt (late d inNear))

theorem under_of_above {text : List Char} (above : ∀ d ∈ text, code < d.toNat) :
    under code text = [] :=
  List.filter_eq_nil_iff.mpr fun d member => by simpa using Nat.le_of_lt (above d member)

/-- What has no character of a code is passed, and its characters below the code are counted. -/
theorem foldl_passChar_of_free {part : List Char} (free : ∀ c ∈ part, c.toNat ≠ code)
    (state : Progress) : part.foldl (passChar basic code) state
      = { state with delta := state.delta + (under code part).length } := by
  induction part generalizing state with
  | nil => rfl
  | cons c rest ih =>
    obtain ⟨differs, freeRest⟩ := List.forall_mem_cons.mp free
    rw [List.foldl_cons, ih freeRest]
    by_cases below : c.toNat < code
    · have counted : under code (c :: rest) = c :: under code rest :=
        List.filter_cons_of_pos (decide_eq_true below)
      rw [passChar, if_pos below, counted, List.length_cons, Nat.add_right_comm, Nat.add_assoc]
    · have uncounted : under code (c :: rest) = under code rest :=
        List.filter_cons_of_neg (by simpa using below)
      rw [passChar, if_neg below, if_neg differs, uncounted]

/-- How far the writing of a label is after a character of the code. -/
def Progress.wrote (basic : Nat) (state : Progress) (delta : Nat) : Progress :=
  { written := state.written ++ writeDistance state.bias 64 36 delta
    delta := 0
    bias := adapt delta (state.points + 1) (state.points == basic)
    points := state.points + 1 }

/-- A character of the code is written with the distance that has been counted, and what is beyond
the code does not count. -/
theorem foldl_passChar_through {front beyond : List Char} {c : Char}
    (free : ∀ d ∈ front, d.toNat ≠ code) (isCode : c.toNat = code)
    (above : ∀ d ∈ beyond, code < d.toNat) (rest : List Char) (state : Progress) :
    (front ++ c :: (beyond ++ rest)).foldl (passChar basic code) state
      = rest.foldl (passChar basic code)
          (state.wrote basic (state.delta + (under code front).length)) := by
  rw [List.foldl_append, foldl_passChar_of_free free, List.foldl_cons, passChar,
    if_neg (Nat.not_lt.mpr (Nat.le_of_eq isCode.symm)), if_pos isCode, List.foldl_append,
    foldl_passChar_of_free fun d member => Nat.ne_of_gt (above d member), under_of_above above]
  rfl

/-- What remains to be written from a place in a label on where a code is looked for. -/
def writeOn (label : List Char) (basic code : Nat) (rest : List Char) (state : Progress) :
    Progress :=
  let passed := rest.foldl (passChar basic code) state
  writePoints label basic ((codesOf label).filter (code < ·)) (code + 1)
    { passed with delta := passed.delta + 1 }

/-- A character of the code is written before what comes after it. -/
theorem writeOn_through {label front beyond back rest : List Char} {c : Char}
    (parts : rest = front ++ c :: (beyond ++ back)) (free : ∀ d ∈ front, d.toNat ≠ code)
    (isCode : c.toNat = code) (above : ∀ d ∈ beyond, code < d.toNat) (state : Progress) :
    writeOn label basic code rest state = writeOn label basic code back
      (state.wrote basic (state.delta + (under code front).length)) := by
  rw [writeOn, parts, foldl_passChar_through free isCode above]
  rfl

/-- Where no character of a code is left the next code is looked for from the start. -/
theorem writeOn_of_free {label rest : List Char} {next : Nat}
    (codes : (codesOf label).filter (code < ·) = next :: (codesOf label).filter (next < ·))
    (free : ∀ c ∈ rest, c.toNat ≠ code) (state : Progress) :
    writeOn label basic code rest state = writeOn label basic next label
      { state with delta := state.delta + (under code rest).length + 1
          + (next - (code + 1)) * (state.points + 1) } := by
  rw [writeOn, foldl_passChar_of_free free, codes]
  rfl

end Passing

/-! ### Points -/

/-- The first of the points that are read, and the reading of the others. -/
theorem readPoints_succ {fuel n i bias : Nat} {rest label points : List Char} (given : rest ≠ [])
    (read : readPoints (fuel + 1) rest n i bias label = some points) :
    ∃ next others c, readDistance bias i 1 36 rest = some (next, others) ∧
      c.toNat = n + next / (label.length + 1) ∧
      readPoints fuel others c.toNat (next % (label.length + 1) + 1)
        (adapt (next - i) (label.length + 1) (i == 0))
        (label.take (next % (label.length + 1)) ++ c :: label.drop (next % (label.length + 1)))
        = some points := by
  rw [readPoints, if_neg (by simpa using given)] at read
  obtain ⟨⟨next, others⟩, distance, read⟩ := Option.bind_eq_some_iff.mp read
  obtain ⟨_, isScalar, read⟩ := Option.bind_eq_some_iff.mp read
  have bounds := (Option.guard_eq_some' _).mp isScalar
  have valid : (n + next / (label.length + 1)).isValidChar := by
    unfold Nat.isValidChar
    omega
  have isCode := Text.toNat_ofNat_of_isValidChar valid
  refine ⟨next, others, Char.ofNat (n + next / (label.length + 1)), distance, isCode, ?_⟩
  rw [isCode]
  exact read

/-- **Says that a label is written on** from a place where its characters up to a code are `passed`
before the place and those below the code are `ahead` after it: what is written is `rest`. -/
def Resumes (label : List Char) (basic code bias : Nat) (passed ahead rest : List Char) : Prop :=
  ∃ front back, label = front ++ back ∧ upTo code front = passed ∧ under code back = ahead ∧
    ∀ written, (writeOn label basic code back
      { written, delta := 0, bias, points := (passed ++ ahead).length }).written = written ++ rest

theorem exists_parts_of_upTo {code : Nat} {front passed : List Char} {c : Char}
    (upToLast : upTo code front = passed ++ [c]) : ∃ before beyond, front = before ++ c :: beyond ∧
      upTo code before = passed ∧ ∀ d ∈ beyond, code < d.toNat := by
  obtain ⟨before, after, rfl, isPassed, isLast⟩ := List.filter_eq_append_iff.mp upToLast
  obtain ⟨between, beyond, rfl, none, -, noMore⟩ := List.filter_eq_cons_iff.mp isLast
  refine ⟨before ++ between, beyond, (List.append_assoc ..).symm, ?_, fun d member => ?_⟩
  · rw [upTo, List.filter_append, isPassed, List.filter_eq_nil_iff.mpr none, List.append_nil]
  · simpa using List.filter_eq_nil_iff.mp noMore d member

section Inserted

variable {before more back near far : List Char} {c : Char} {code : Nat}
  (isNext : code < c.toNat) (above : ∀ d ∈ more, c.toNat < d.toNat)
  (isNear : upTo c.toNat before = near) (isFar : under c.toNat back = far)
  (within : ∀ d ∈ near ++ far, d.toNat ≤ code)
include isNext above isNear isFar within

/-- The characters up to a code are those around the one that was inserted for a later code. -/
theorem upTo_inserted : upTo code (before ++ c :: (more ++ back)) = near ++ far := by
  obtain ⟨withinNear, withinFar⟩ := List.forall_mem_append.mp within
  have noneMore : upTo code (c :: more) = [] := by
    refine List.filter_eq_nil_iff.mpr fun d member => ?_
    rcases List.mem_cons.mp member with rfl | inMore
    · simpa using isNext
    · simpa using Nat.lt_trans isNext (above d inMore)
  have parts : upTo code (before ++ c :: (more ++ back))
      = upTo code before ++ (upTo code (c :: more) ++ upTo code back) := by
    rw [← List.cons_append, upTo, List.filter_append, List.filter_append]
    rfl
  rw [parts, noneMore, ← upTo_upTo (Nat.le_of_lt isNext) before, isNear, upTo_eq_self withinNear,
    ← upTo_under isNext back, isFar, upTo_eq_self withinFar, List.nil_append]

/-- The code of the character that was inserted is the next one. -/
theorem codesOf_inserted (beyond : 0x80 ≤ code) :
    (codesOf (before ++ c :: (more ++ back))).filter (code < ·)
      = c.toNat :: (codesOf (before ++ c :: (more ++ back))).filter (c.toNat < ·) := by
  obtain ⟨withinNear, withinFar⟩ := List.forall_mem_append.mp within
  have isCode : c.toNat ∈ codesOf (before ++ c :: (more ++ back)) :=
    mem_codesOf.mpr ⟨Nat.le_trans beyond (Nat.le_of_lt isNext), c, by simp, rfl⟩
  refine filter_lt_of_least (pairwise_codesOf _) isCode isNext fun other member isBeyond => ?_
  obtain ⟨-, d, inLabel, rfl⟩ := mem_codesOf.mp member
  refine Nat.not_lt.mp fun less => Nat.not_le.mpr isBeyond ?_
  simp only [List.mem_append, List.mem_cons] at inLabel
  obtain inBefore | rfl | inMore | inBack := inLabel
  · exact withinNear d (isNear ▸ List.mem_filter.mpr ⟨inBefore, by simpa using Nat.le_of_lt less⟩)
  · exact absurd less (Nat.lt_irrefl _)
  · exact absurd (above d inMore) (Nat.lt_asymm less)
  · exact withinFar d (isFar ▸ List.mem_filter.mpr ⟨inBack, by simpa using less⟩)

end Inserted

section Resumes

variable {label passed ahead rest : List Char} {basic code bias : Nat}

/-- A label without characters beyond the code has been written. -/
theorem resumes_of_end (early : ∀ c ∈ passed, c.toNat ≤ code) (late : ∀ c ∈ ahead, c.toNat < code) :
    Resumes (passed ++ ahead) basic code bias passed ahead [] := by
  refine ⟨passed, ahead, rfl, upTo_eq_self early, under_eq_self late, fun written => ?_⟩
  have noMore : (codesOf (passed ++ ahead)).filter (code < ·) = [] := by
    refine List.filter_eq_nil_iff.mpr fun other member => ?_
    obtain ⟨-, c, inLabel, rfl⟩ := mem_codesOf.mp member
    rcases List.mem_append.mp inLabel with before | after
    · simpa using early c before
    · simpa using Nat.le_of_lt (late c after)
  rw [writeOn, foldl_passChar_of_free fun c member => Nat.ne_of_lt (late c member), noMore,
    List.append_nil]
  rfl

/-- Another character of the same code is written with the number of those before it. -/
theorem Resumes.of_same {near far : List Char} {c : Char} (isCode : c.toNat = code)
    (late : ∀ d ∈ near, d.toNat < code)
    (first : ((passed ++ (near ++ far)).length == basic) = (passed.length == 0))
    (resumes : Resumes label basic code
      (adapt near.length ((passed ++ (near ++ far)).length + 1) (passed.length == 0))
      ((passed ++ near) ++ [c]) far rest) :
    Resumes label basic code bias passed (near ++ far)
      (writeDistance bias 64 36 near.length ++ rest) := by
  obtain ⟨front, back, rfl, upToLast, isFar, writes⟩ := resumes
  obtain ⟨before, beyond, rfl, isBefore, above⟩ := exists_parts_of_upTo upToLast
  obtain ⟨front, middle, rfl, isPassed, isNear⟩ := List.filter_eq_append_iff.mp isBefore
  replace isNear : upTo code middle = near := isNear
  obtain ⟨nearUnder, free⟩ := under_of_upTo isNear late
  refine ⟨front, middle ++ c :: (beyond ++ back), by simp, isPassed, ?_, fun written => ?_⟩
  · have notUnder : under code (c :: (beyond ++ back)) = far := by
      rw [under, List.filter_cons_of_neg (by simp [isCode]), List.filter_append]
      show under code beyond ++ under code back = far
      rw [under_of_above above, isFar, List.nil_append]
    rw [under, List.filter_append]
    show under code middle ++ under code (c :: (beyond ++ back)) = near ++ far
    rw [nearUnder, notUnder]
  · rw [writeOn_through rfl free isCode above, nearUnder, Nat.zero_add]
    have points : ((passed ++ near ++ [c]) ++ far).length
        = (passed ++ (near ++ far)).length + 1 := by
      simp only [List.length_append, List.length_singleton]
      omega
    have others := writes (written ++ writeDistance bias 64 36 near.length)
    rw [points, ← first, List.append_assoc written] at others
    exact others

/-- The first character of the next code is written with all the places that are passed until
then. -/
theorem Resumes.of_next {near far : List Char} {c : Char} {distance : Nat} (beyond : 0x80 ≤ code)
    (isNext : code < c.toNat) (early : ∀ d ∈ passed, d.toNat ≤ code)
    (late : ∀ d ∈ ahead, d.toNat < code) (same : passed ++ ahead = near ++ far)
    (first : ((passed ++ ahead).length == basic) = (passed.length == 0))
    (isDistance : distance = ahead.length + 1
      + (c.toNat - (code + 1)) * ((passed ++ ahead).length + 1) + near.length)
    (resumes : Resumes label basic c.toNat
      (adapt distance ((passed ++ ahead).length + 1) (passed.length == 0)) (near ++ [c]) far rest) :
    Resumes label basic code bias passed ahead (writeDistance bias 64 36 distance ++ rest) := by
  obtain ⟨front, back, isLabel, upToLast, isFar, writes⟩ := resumes
  obtain ⟨before, more, rfl, isNear, above⟩ := exists_parts_of_upTo upToLast
  replace isLabel : label = before ++ c :: (more ++ back) := by simpa using isLabel
  have within : ∀ d ∈ near ++ far, d.toNat ≤ code := by
    rw [← same]
    exact fun d member => (List.mem_append.mp member).elim (early d) fun isLate =>
      Nat.le_of_lt (late d isLate)
  have upToCode : upTo code label = passed ++ ahead := by
    rw [isLabel, upTo_inserted isNext above isNear isFar within, same]
  have codes := codesOf_inserted isNext above isNear isFar within beyond
  rw [← isLabel] at codes
  -- The place that is resumed from divides the label where its characters up to the code divide.
  obtain ⟨start, others, parts, isPassed, isAhead⟩ := List.filter_eq_append_iff.mp upToCode
  obtain ⟨aheadUnder, freeOthers⟩ := under_of_upTo isAhead late
  obtain ⟨nearUnder, free⟩ := under_of_upTo isNear fun d member =>
    Nat.lt_of_le_of_lt (within d (List.mem_append_left _ member)) isNext
  refine ⟨start, others, parts, isPassed, aheadUnder, fun written => ?_⟩
  have points : ((near ++ [c]) ++ far).length = (passed ++ ahead).length + 1 := by
    rw [same]
    simp only [List.length_append, List.length_singleton]
    omega
  have after := writes (written ++ writeDistance bias 64 36 distance)
  rw [points, ← first, List.append_assoc written] at after
  rw [writeOn_of_free codes freeOthers, writeOn_through isLabel free rfl above, nearUnder,
    aheadUnder, Nat.zero_add, ← isDistance]
  exact after

end Resumes

/-! ### Reading step by step -/

/-- **What holds of a label** while points are inserted into it: `passed` has the last of them. -/
structure Midway (basic code : Nat) (passed ahead : List Char) : Prop where
  beyond : 0x80 ≤ code
  early : ∀ c ∈ passed, c.toNat ≤ code
  late : ∀ c ∈ ahead, c.toNat < code
  least : basic ≤ (passed ++ ahead).length
  first : (passed ++ ahead).length = basic ↔ passed = []

namespace Midway

variable {label passed ahead rest : List Char} {basic code bias next steps place : Nat} {c : Char}

theorem within (midway : Midway basic code passed ahead) :
    ∀ c ∈ passed ++ ahead, c.toNat ≤ code := fun c member =>
  (List.mem_append.mp member).elim (midway.early c) fun isLate => Nat.le_of_lt (midway.late c isLate)

theorem first_eq (midway : Midway basic code passed ahead) :
    ((passed ++ ahead).length == basic) = (passed.length == 0) := by
  rw [Bool.eq_iff_iff, beq_iff_eq, beq_iff_eq, midway.first, List.length_eq_zero_iff]

section Step

variable (midway : Midway basic code passed ahead)
  (isNext : next = steps * ((passed ++ ahead).length + 1) + place)
  (within : place ≤ (passed ++ ahead).length) (isCode : c.toNat = code + steps)
  (further : passed.length ≤ next)
include midway isNext within isCode further

/-- **A step of the reading** keeps what holds of the label. -/
theorem step : Midway basic c.toNat ((passed ++ ahead).take place ++ [c])
    ((passed ++ ahead).drop place) where
  beyond := by
    have least := midway.beyond
    omega
  early d member := by
    rcases List.mem_append.mp member with before | isLast
    · have least := midway.within d (List.mem_of_mem_take before)
      omega
    · obtain rfl := List.mem_singleton.mp isLast
      exact Nat.le_refl _
  late d member := by
    have least := midway.within d (List.mem_of_mem_drop member)
    cases steps with
    | succ more => omega
    | zero =>
      -- What is behind a place further on was ahead before.
      have kept : d ∈ ahead := by
        rw [List.drop_append, List.drop_eq_nil_of_le (by omega), List.nil_append] at member
        exact List.mem_of_mem_drop member
      have below := midway.late d kept
      omega
  least := by
    have least := midway.least
    simp only [List.length_append, List.length_take, List.length_drop, List.length_singleton] at *
    omega
  first := by
    have least := midway.least
    simp only [List.length_append, List.length_take, List.length_drop, List.length_singleton,
      List.append_eq_nil_iff, List.cons_ne_self, and_false, iff_false] at *
    omega

/-- What the rest of the reading resumes is resumed from the step before. -/
theorem resumes (others : Resumes label basic c.toNat
      (adapt (next - passed.length) ((passed ++ ahead).length + 1) (passed.length == 0))
      ((passed ++ ahead).take place ++ [c]) ((passed ++ ahead).drop place) rest) :
    Resumes label basic code bias passed ahead
      (writeDistance bias 64 36 (next - passed.length) ++ rest) := by
  cases steps with
  | zero =>
    obtain ⟨q, isPlace⟩ : ∃ q, place = passed.length + q := ⟨place - passed.length, by omega⟩
    obtain ⟨near, far, rfl, isNear⟩ : ∃ near far, ahead = near ++ far ∧ near.length = q := by
      refine ⟨ahead.take q, ahead.drop q, (List.take_append_drop q ahead).symm, ?_⟩
      rw [List.length_append] at within
      rw [List.length_take]
      omega
    have isTaken : (passed ++ (near ++ far)).take place = passed ++ near := by
      rw [isPlace, List.take_length_add_append, ← isNear, List.take_left]
    have isDropped : (passed ++ (near ++ far)).drop place = far := by
      rw [isPlace, List.drop_length_add_append, ← isNear, List.drop_left]
    have isDistance : next - passed.length = near.length := by omega
    rw [isTaken, isDropped, isDistance] at others
    rw [isDistance]
    have isSame : c.toNat = code := isCode
    rw [isSame] at others
    exact others.of_same isSame (fun d member => midway.late d (List.mem_append_left _ member))
      midway.first_eq
  | succ more =>
    refine others.of_next midway.beyond (by omega) midway.early midway.late
      (List.take_append_drop place _).symm midway.first_eq ?_
    have lessSteps : c.toNat - (code + 1) = more := by omega
    rw [lessSteps, List.length_take, Nat.min_eq_left within, isNext, Nat.succ_mul,
      List.length_append]
    omega

end Step

end Midway

/-- **Points that were read** are written as they were. -/
theorem resumes_of_readPoints {fuel basic code bias : Nat} {passed ahead rest label : List Char}
    (midway : Midway basic code passed ahead) (enough : rest.length < fuel)
    (small : ∀ c ∈ rest, Small c)
    (read : readPoints fuel rest code passed.length bias (passed ++ ahead) = some label) :
    Resumes label basic code bias passed ahead rest := by
  induction fuel generalizing code bias passed ahead rest with
  | zero => omega
  | succ fuel ih =>
    by_cases given : rest = []
    · subst given
      rw [readPoints, List.isEmpty_nil, if_pos rfl] at read
      cases read
      exact resumes_of_end midway.early midway.late
    · obtain ⟨next, others, c, distance, isCode, later⟩ := readPoints_succ given read
      have room : maxDistance < 1 * 10 ^ 64 := by decide
      obtain ⟨q, isNext, rfl⟩ := of_readDistance room (by decide) small distance
      have further : passed.length ≤ next := by omega
      have isDistance : q = next - passed.length := by omega
      generalize isSteps : next / ((passed ++ ahead).length + 1) = steps at isCode
      generalize isPlace : next % ((passed ++ ahead).length + 1) = place at later
      have parts : next = steps * ((passed ++ ahead).length + 1) + place := by
        rw [← isSteps, ← isPlace, Nat.mul_comm]
        exact (Nat.div_add_mod next _).symm
      have within : place ≤ (passed ++ ahead).length :=
        Nat.le_of_lt_succ (isPlace ▸ Nat.mod_lt _ (Nat.succ_pos _))
      have placed : place + 1 = ((passed ++ ahead).take place ++ [c]).length := by
        rw [List.length_append, List.length_take, Nat.min_eq_left within]
        rfl
      rw [List.append_cons, placed] at later
      have fewer : others.length < fuel := by
        have longer : 0 < (writeDistance bias 64 36 q).length :=
          length_writeDistance_pos bias 63 36 q
        rw [List.length_append] at enough
        omega
      rw [isDistance]
      exact midway.resumes parts within isCode further <|
        ih (midway.step parts within isCode further) fewer
          (fun d member => small d (List.mem_append_right _ member)) later

/-! ### Labels -/

/-- Where a code is not met, all places are passed. -/
theorem writePoints_succ {label : List Char} {basic code : Nat} {codes : List Nat}
    (beyond : ∀ next ∈ codes, code < next) (state : Progress) :
    (writePoints label basic codes code state).written
      = (writePoints label basic codes (code + 1)
          { state with delta := state.delta + state.points + 1 }).written := by
  cases codes with
  | nil => rfl
  | cons next others =>
    obtain ⟨steps, isNext⟩ : ∃ steps, next = code + 1 + steps :=
      Nat.exists_eq_add_of_le (beyond next List.mem_cons_self)
    have all : state.delta + (next - code) * (state.points + 1)
        = state.delta + state.points + 1 + (next - (code + 1)) * (state.points + 1) := by
      have steps' : next - code = steps + 1 := by omega
      rw [steps', isNext, Nat.add_sub_cancel_left, Nat.succ_mul]
      omega
    rw [writePoints, writePoints, all]

/-- A label is written after its ASCII characters, from its start on. -/
theorem encode_eq (label : List Char) : encode label
    = (writeOn label (under 0x80 label).length 0x80 label
        { written := if under 0x80 label = [] then [] else under 0x80 label ++ ['-']
          delta := 0, bias := 72, points := (under 0x80 label).length }).written := by
  have wide : ∀ code ∈ codesOf label, 0x80 ≤ code := fun code member => (mem_codesOf.mp member).1
  have start : encode label = (writePoints label (under 0x80 label).length (codesOf label) 0x80
      { written := if under 0x80 label = [] then [] else under 0x80 label ++ ['-']
        delta := 0, bias := 72, points := (under 0x80 label).length }).written := by
    rw [encode]
    simp only [List.isEmpty_iff]
    rfl
  rw [start]
  generalize (if under 0x80 label = [] then [] else under 0x80 label ++ ['-']) = written
  by_cases met : 0x80 ∈ codesOf label
  · have codes : codesOf label = 0x80 :: (codesOf label).filter (0x80 < ·) := by
      rw [← filter_lt_of_least (pairwise_codesOf label) met (by omega : 0x7F < 0x80)
        fun other member _ => wide other member, eq_comm, List.filter_eq_self]
      exact fun code member => decide_eq_true (wide code member)
    rw [codes, writePoints, Nat.sub_self, Nat.zero_mul, Nat.add_zero, writeOn]
  · have free : ∀ c ∈ label, c.toNat ≠ 0x80 := fun c member isCode =>
      met (mem_codesOf.mpr ⟨Nat.le_refl _, c, member, isCode⟩)
    have beyond : ∀ code ∈ codesOf label, 0x80 < code := fun code member =>
      Nat.lt_of_le_of_ne (wide code member) fun same => met (same ▸ member)
    rw [writeOn, foldl_passChar_of_free free, List.filter_eq_self.mpr fun code member =>
      decide_eq_true (beyond code member), writePoints_succ beyond]

/-- What is read as a label is divided at its last sign, if something comes before it. -/
theorem cut_decode? (coded : List Char) :
    ∃ basic digits, coded = (if basic = [] then [] else basic ++ ['-']) ++ digits ∧
      decode? coded = readPoints (digits.length + 1) digits 0x80 0 72 basic := by
  generalize isTail : (coded.reverse.takeWhile (· != '-')).reverse = tail
  generalize isBasic : coded.take (coded.length - tail.length - 1) = basic
  refine ⟨basic, if basic = [] then coded else tail, ?_, by rw [decode?, isTail, isBasic]⟩
  split
  · rfl
  · rename_i given
    have parts := List.takeWhile_append_dropWhile (p := (· != '-')) (l := coded.reverse)
    cases rest : coded.reverse.dropWhile (· != '-') with
    | nil =>
      rw [rest, List.append_nil] at parts
      have isWhole : tail = coded := by rw [← isTail, parts, List.reverse_reverse]
      refine absurd isBasic.symm ?_
      rw [isWhole, Nat.sub_self, Nat.zero_sub, List.take_zero]
      exact given
    | cons sign before =>
      have isSign : sign = '-' := by
        have stops := List.head?_dropWhile_not (· != '-') coded.reverse
        simpa [rest] using stops
      have isCoded : coded = before.reverse ++ '-' :: tail := by
        rw [← List.reverse_reverse coded, ← parts, rest, isSign, ← isTail]
        simp
      have isLength : coded.length - tail.length - 1 = before.reverse.length := by
        rw [isCoded, List.length_append, List.length_cons]
        omega
      have isBefore : basic = before.reverse := by
        rw [← isBasic, isLength, isCoded, List.take_left]
      rw [isBefore, List.append_assoc]
      exact isCoded

/-- **A label that was read**, without capitals, is written as it was. -/
theorem encode_of_decode? {coded label : List Char} (ascii : ∀ c ∈ coded, c.toNat < 0x80)
    (small : ∀ c ∈ coded, Small c) (read : decode? coded = some label) : encode label = coded := by
  obtain ⟨basic, digits, isCoded, isRead⟩ := cut_decode? coded
  rw [isRead] at read
  have inCoded : ∀ c ∈ digits, c ∈ coded := fun c member => by
    rw [isCoded]
    exact List.mem_append_right _ member
  have asciiBasic : ∀ c ∈ basic, c.toNat < 0x80 := by
    intro c member
    refine ascii c ?_
    rw [isCoded, if_neg (List.ne_nil_of_mem member)]
    exact List.mem_append_left _ (List.mem_append_left _ member)
  have midway : Midway basic.length 0x80 [] basic :=
    { beyond := Nat.le_refl _, early := List.forall_mem_nil _, late := asciiBasic
      least := Nat.le_refl _, first := by simp }
  obtain ⟨front, back, rfl, above, isBasic, writes⟩ :=
    resumes_of_readPoints midway (Nat.lt_succ_self _) (fun c member => small c (inCoded c member))
      read
  have beyond : ∀ c ∈ front, 0x80 < c.toNat := by simpa using List.filter_eq_nil_iff.mp above
  have noneBefore : under 0x80 front = [] := under_of_above beyond
  have isUnder : under 0x80 (front ++ back) = basic := by
    rw [under, List.filter_append]
    exact (congrArg₂ (· ++ ·) noneBefore isBasic).trans (List.nil_append _)
  rw [encode_eq, isUnder, isCoded, writeOn, List.foldl_append,
    foldl_passChar_of_free fun c member => Nat.ne_of_gt (beyond c member), noneBefore]
  exact writes _

/-! ### What is written -/

/-- Says that a character may be written for a label after its own ones. -/
def Coded (c : Char) : Prop := ∃ d, d < 36 ∧ c = digit d

theorem coded_of_mem_writeDistance {bias fuel k q : Nat} {c : Char}
    (member : c ∈ writeDistance bias fuel k q) : Coded c := by
  induction fuel generalizing k q with
  | zero => cases member
  | succ fuel ih =>
    obtain ⟨least, greatest⟩ := threshold_bounds k bias
    rw [writeDistance] at member
    split at member
    · exact ⟨q, by omega, List.mem_singleton.mp member⟩
    · rcases List.mem_cons.mp member with rfl | later
      · have less := Nat.mod_lt (q - threshold k bias) (by omega : 36 - threshold k bias > 0)
        exact ⟨_, by omega, rfl⟩
      · exact ih later

theorem of_mem_passChar {basic code : Nat} {text : List Char} {state : Progress} {c : Char}
    (member : c ∈ (text.foldl (passChar basic code) state).written) :
    c ∈ state.written ∨ Coded c := by
  induction text generalizing state with
  | nil => exact Or.inl member
  | cons d rest ih =>
    rcases ih member with inState | coded
    · unfold passChar at inState
      split at inState
      · exact Or.inl inState
      · split at inState
        · rcases List.mem_append.mp inState with before | added
          · exact Or.inl before
          · exact Or.inr (coded_of_mem_writeDistance added)
        · exact Or.inl inState
    · exact Or.inr coded

theorem of_mem_writePoints {label : List Char} {basic code : Nat} {codes : List Nat}
    {state : Progress} {c : Char} (member : c ∈ (writePoints label basic codes code state).written) :
    c ∈ state.written ∨ Coded c := by
  induction codes generalizing code state with
  | nil => exact Or.inl member
  | cons next others ih =>
    rcases ih member with inState | coded
    · exact (of_mem_passChar inState :)
    · exact Or.inr coded

/-- The characters that are written for a label: its own, signs and digits. -/
theorem of_mem_encode {label : List Char} {c : Char} (member : c ∈ encode label) :
    c.toNat < 0x80 ∧ c ∈ label ∨ c = '-' ∨ ∃ d, d < 36 ∧ c = digit d := by
  rcases of_mem_writePoints member with inStart | coded
  · dsimp only at inStart
    split at inStart
    · cases inStart
    · rcases List.mem_append.mp inStart with inBasic | isSign
      · obtain ⟨inLabel, ascii⟩ := List.mem_filter.mp inBasic
        exact Or.inl ⟨of_decide_eq_true ascii, inLabel⟩
      · exact Or.inr (Or.inl (List.mem_singleton.mp isSign))
  · exact Or.inr (Or.inr coded)

end Switchboard.Punycode
