import Mathlib.Data.Bool.AllAny
import Switchboard.Proofs.Text.Utf8
import Switchboard.Text.Lowercase
/-!
Small letters that stay.

A text in small letters is in small letters already. The table gives no capital as the small letter
of another one, and neither of the two that have no row in it. So nothing is left to change, nor is
any sigma left whose form would depend on where it stands. And no sign comes of a letter: beyond the
small letters of ASCII the table gives nothing in ASCII.

* `Lowercase.shifted?_settled`: what the table gives for a code point.
* `Lowercase.ofString_ofString`: a text in small letters stays as it is.
* `Lowercase.mem_of_mem_ofString`: a sign of a text in small letters was there before.
-/

namespace Switchboard.Text

namespace Table

variable {run other : Run} {code : Nat}

/-! ### Runs that do not meet -/

/-- The code point that the first one of a run is mapped to. -/
def Run.low (run : Run) : Nat := ((run.first : Int) + run.shift).toNat

/-- The code point that the last one of a run is mapped to. -/
def Run.high (run : Run) : Nat := ((run.last : Int) + run.shift).toNat

/-- Says that nothing in a run is mapped into another one, by their bounds or since the one has the
even and the other one the odd places. -/
def Run.avoids (run other : Run) : Bool :=
  -- The kernel counts with these comparisons, and there are more than thirty thousand of them.
  Nat.blt run.high other.first || Nat.blt other.last run.low
    || (other.stride == 2 && (run.stride == 2 || run.first == run.last)
      && (run.low + other.first) % 2 == 1)

theorem Run.of_holds (holds : run.holds code = true) :
    run.first ≤ code ∧ code ≤ run.last ∧ (code - run.first) % run.stride = 0 := by
  simpa [Run.holds, and_assoc] using holds

/-- What is outside a run without gaps. -/
theorem Run.not_holds_iff {first last : Nat} {shift : Int} :
    (Run.mk first last 1 shift).holds code = false ↔ code < first ∨ last < code := by
  rw [← Bool.not_eq_true, Run.holds]
  simp only [Nat.mod_one, beq_self_eq_true, Bool.and_true, Bool.and_eq_true, decide_eq_true_eq]
  omega

/-- What a run maps into another one would be in both. -/
theorem Run.not_holds_of_avoids (avoids : run.avoids other = true) (positive : 0 < run.low)
    (holds : run.holds code = true) : other.holds ((code : Int) + run.shift).toNat = false := by
  refine Bool.eq_false_iff.mpr fun holdsToo => ?_
  obtain ⟨least, most, step⟩ := Run.of_holds holds
  obtain ⟨leastToo, mostToo, stepToo⟩ := Run.of_holds holdsToo
  simp only [Run.avoids, Bool.or_eq_true, Bool.and_eq_true, Nat.blt_eq, beq_iff_eq] at avoids
  unfold Run.low Run.high at *
  rcases avoids with (below | above) | ⟨⟨even, stride⟩, odd⟩
  · omega
  · omega
  · rw [even] at stepToo
    rcases stride with even | single
    · rw [even] at step
      omega
    · omega

end Table

namespace Lowercase

open Table

/-! ### The table -/

/-- The code points that no small letter beyond ASCII has, among them those that are not characters,
and the two capitals that are mapped without the table. -/
def missed : List Run := [⟨0, 0x6A, 1, 0⟩, ⟨0x6C, 0x7F, 1, 0⟩, ⟨0x130, 0x130, 1, 0⟩,
  ⟨0x3A3, 0x3A3, 1, 0⟩, ⟨0xD800, 0xDFFF, 1, 0⟩]

/-- No run of the table leads into another one. -/
theorem smallLetters_avoid : (smallLetters.all fun run => Nat.blt 0 run.low && Nat.blt run.high 0x110000
    && (missed ++ smallLetters).all run.avoids) = true := by
  decide +kernel

/-- **What the table gives for a code point**: a small k or something beyond ASCII, which the table
does not map again. -/
structure Settled (code : Nat) : Prop where
  final : shifted? smallLetters code = none
  valid : code.isValidChar
  beyond : code = 0x6B ∨ 0x80 ≤ code
  undotted : code ≠ 0x130
  noSigma : code ≠ 0x3A3

theorem shifted?_settled {code small : Nat} (shifted : shifted? smallLetters code = some small) :
    Settled small := by
  obtain ⟨run, found, rfl⟩ := Option.map_eq_some_iff.mp shifted
  have holds := List.find?_some found
  have checked := List.all_eq_true.mp smallLetters_avoid run (List.mem_of_find?_eq_some found)
  simp only [Bool.and_eq_true, Nat.blt_eq] at checked
  obtain ⟨⟨positive, small⟩, avoids⟩ := checked
  have outside : ∀ other ∈ missed ++ smallLetters,
      other.holds ((code : Int) + run.shift).toNat = false := fun other member =>
    Run.not_holds_of_avoids (List.all_eq_true.mp avoids other member) positive holds
  obtain ⟨ofMissed, ofTable⟩ := List.forall_mem_append.mp outside
  have within := (Run.of_holds holds).2.1
  simp only [missed, List.mem_cons, List.not_mem_nil, or_false, forall_eq_or_imp, forall_eq,
    Run.not_holds_iff] at ofMissed
  unfold Run.low Run.high at *
  refine ⟨?_, ?_, ?_, ?_, ?_⟩
  · rw [shifted?, List.find?_eq_none.mpr fun other member => by rw [ofTable other member]; simp]
    rfl
  · unfold Nat.isValidChar
    omega
  all_goals omega

/-! ### Characters -/

/-- Says that a character is its own small letter wherever it stands. -/
def IsSmall (c : Char) : Prop := smallChar c = [c] ∧ c.toNat ≠ 0x3A3

instance (c : Char) : Decidable (IsSmall c) := inferInstanceAs (Decidable (_ ∧ _))

/-- Says that a character is ASCII and no letter. -/
def IsSign (c : Char) : Prop := c.toNat < 0x80 ∧ c.isAlpha = false

instance (c : Char) : Decidable (IsSign c) := inferInstanceAs (Decidable (_ ∧ _))

variable {c d : Char} {before text : List Char}

/-- What is mapped without a table. -/
theorem toLower_settled (ascii : c.toNat < 0x80) :
    IsSmall c.toLower ∧ (IsSign c.toLower → c.toLower = c) :=
  of_ascii (fun c => IsSmall c.toLower ∧ (IsSign c.toLower → c.toLower = c)) (by decide +kernel) ascii

/-- A small letter stays, and is a sign only if it was one. -/
theorem smallChar_settled (noSigma : c.toNat ≠ 0x3A3) (member : d ∈ smallChar c) :
    IsSmall d ∧ (IsSign d → d = c) := by
  unfold smallChar at member
  split at member
  · rename_i ascii
    obtain rfl := List.mem_singleton.mp member
    exact toLower_settled ascii
  · rename_i beyond
    split at member
    · have both : ∀ d ∈ ['i', Char.ofNat 0x307], IsSmall d ∧ ¬IsSign d :=
        List.all_iff_forall_prop.mp (by decide +kernel)
      obtain ⟨small, noSign⟩ := both d member
      exact ⟨small, fun sign => absurd sign noSign⟩
    · rename_i undotted
      obtain rfl := List.mem_singleton.mp member
      unfold smallCode
      cases shifted : shifted? smallLetters c.toNat with
      | none =>
        rw [Option.getD_none, Char.ofNat_toNat]
        refine ⟨⟨?_, noSigma⟩, fun _ => rfl⟩
        rw [smallChar, if_neg beyond, if_neg undotted, smallCode, shifted, Option.getD_none,
          Char.ofNat_toNat]
      | some small =>
        have settled := shifted?_settled shifted
        rw [Option.getD_some]
        rcases settled.beyond with rfl | high
        · have letter : IsSmall (Char.ofNat 0x6B) ∧ ¬IsSign (Char.ofNat 0x6B) := by decide +kernel
          exact ⟨letter.1, fun sign => absurd sign letter.2⟩
        · have code : (Char.ofNat small).toNat = small :=
              toNat_ofNat_of_isValidChar settled.valid
          refine ⟨⟨?_, by rw [code]; exact settled.noSigma⟩, fun sign => ?_⟩
          · rw [smallChar, code, if_neg (by omega), if_neg settled.undotted, smallCode,
              settled.final, Option.getD_none]
          · have ascii := sign.1
            omega

/-! ### Texts -/

theorem smallFrom_settled (member : d ∈ smallFrom before text) :
    IsSmall d ∧ (IsSign d → d ∈ text) := by
  induction text generalizing before with
  | nil => cases member
  | cons c rest ih =>
    unfold smallFrom at member
    dsimp only at member
    rcases List.mem_append.mp member with here | later
    · split at here
      · -- A sigma has two small forms, and either stays.
        have both : ∀ d ∈ [Char.ofNat 0x3C2, Char.ofNat 0x3C3], IsSmall d ∧ ¬IsSign d :=
          List.all_iff_forall_prop.mp (by decide +kernel)
        have isForm : d ∈ [Char.ofNat 0x3C2, Char.ofNat 0x3C3] := by
          split at here
          · exact List.mem_cons.mpr (Or.inl (List.mem_singleton.mp here))
          · exact List.mem_cons_of_mem _ here
        obtain ⟨small, noSign⟩ := both d isForm
        exact ⟨small, fun sign => absurd sign noSign⟩
      · rename_i noSigma
        obtain ⟨small, same⟩ := smallChar_settled noSigma here
        exact ⟨small, fun sign => List.mem_cons.mpr (Or.inl (same sign))⟩
    · obtain ⟨small, inRest⟩ := ih later
      exact ⟨small, fun sign => List.mem_cons_of_mem c (inRest sign)⟩

theorem smallFrom_eq_self (small : ∀ c ∈ text, IsSmall c) : smallFrom before text = text := by
  induction text generalizing before with
  | nil => rfl
  | cons c rest ih =>
    obtain ⟨first, others⟩ := List.forall_mem_cons.mp small
    unfold smallFrom
    dsimp only
    rw [if_neg first.2, first.1, ih others]
    rfl

/-- **A text in small letters is in small letters already.** -/
theorem ofString_ofString (text : String) : ofString (ofString text) = ofString text := by
  rw [ofString, ofString, String.toList_ofList,
    smallFrom_eq_self fun c member => (smallFrom_settled member).1]

/-- **A sign of a text in small letters** was there before. -/
theorem mem_of_mem_ofString {text : String} (sign : IsSign c)
    (member : c ∈ (ofString text).toList) : c ∈ text.toList := by
  rw [ofString, String.toList_ofList] at member
  exact (smallFrom_settled member).2 sign

theorem smallChar_ne_nil (c : Char) : smallChar c ≠ [] := by
  unfold smallChar
  split
  · exact List.cons_ne_nil _ _
  · split <;> exact List.cons_ne_nil _ _

/-- Nothing is lost altogether. -/
theorem ofString_ne_empty {text : String} (given : text ≠ "") : ofString text ≠ "" := by
  intro empty
  have none : smallFrom [] text.toList = [] := by
    rw [← String.toList_ofList (l := smallFrom [] text.toList)]
    exact congrArg String.toList empty
  cases chars : text.toList with
  | nil => exact given (String.toList_inj.mp chars)
  | cons c rest =>
    rw [chars, smallFrom] at none
    have first := (List.append_eq_nil_iff.mp none).1
    split at first
    · split at first <;> cases first
    · exact smallChar_ne_nil c first

end Lowercase

end Switchboard.Text
