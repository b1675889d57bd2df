import Switchboard.Proofs.Signature.Matching
/-!
What a signature captures of a path.

Each token that captures takes the segment at its own position. The segments taken by stars come
first among the suffixes, and then those beyond the last token. A star is told by its name, which is
its position in decimal digits; so a token with a name of its own counts as a star if that name
happens to be its position.

* `Signature.captured_eq`: what is captured, by the positions of the tokens.
* `Signature.captures_by_position`: the suffixes and the named segments of every path that is served,
  and when the suffixes are those of the stars.
-/

namespace Switchboard.Signature

open Outline

variable {base : List String} {written : String} {signature : Signature} {outline : Outline}
  {path : List String} {arguments : PathArguments}

/-- The positions of the tokens that are chosen, in order. -/
def Outline.positions (outline : Outline) (base : List String) (chosen : Nat → Token → Bool) :
    List Nat :=
  ((outline.below base).zipIdx.filter fun item => chosen item.2 item.1).map Prod.snd

/-- The decoded segments of a path at some positions. -/
def segmentsAt (path : List String) (positions : List Nat) : List String :=
  positions.map fun index => decodeSegment (path.getD index "")

/-- The decoded segments of a path beyond the tokens of a signature. -/
def Outline.beyond (outline : Outline) (base path : List String) : List String :=
  (path.drop (outline.below base).length).map decodeSegment

/-- Says whether a token captures, and under a name of a kind. -/
def Token.capturesUnder (kind : Nat → String → Bool) (index : Nat) (token : Token) : Bool :=
  (token.name? index).any (kind index)

/-- Says whether a token is a star. -/
def Token.isStar (_ : Nat) (token : Token) : Bool := token == .star

/-! ### Positions -/

/-- What stands together at a position of two lists, the second of which is long enough. -/
theorem zipIdx_zip {α β : Type} {xs : List α} {ys : List β} (reaches : xs.length ≤ ys.length)
    (default : β) : (xs.zip ys).zipIdx
      = xs.zipIdx.map fun (x, index) => ((x, ys.getD index default), index) := by
  apply List.ext_getElem?
  intro index
  simp only [List.getElem?_zipIdx, List.getElem?_map, Nat.zero_add, Option.map_map]
  by_cases inside : index < xs.length
  · have inOther : index < ys.length := by omega
    have together : (xs.zip ys)[index]? = some (xs[index], ys[index]) :=
      List.getElem?_zip_eq_some.mpr
        ⟨List.getElem?_eq_getElem inside, List.getElem?_eq_getElem inOther⟩
    rw [together]
    simp [inside, inOther]
  · have outside : xs.length ≤ index := by omega
    simp [outside, Nat.min_eq_left reaches]

/-- **What is captured**: each token with a name has it with the segment at its position. -/
theorem captured_eq (places : signature.places = placesFrom 0 (outline.below base))
    (reaches : (outline.below base).length ≤ path.length) : signature.captured path
      = (outline.below base).zipIdx.filterMap fun item =>
          (item.1.name? item.2).map fun name =>
            (item.2, name, decodeSegment (path.getD item.2 "")) := by
  have stand : (placesFrom 0 (outline.below base)).zipIdx
      = (outline.below base).zipIdx.map fun item => (item.1.place item.2, item.2) := by
    apply List.ext_getElem?
    intro index
    simp [List.getElem?_zipIdx, getElem?_placesFrom, Function.comp_def]
  have longEnough : (placesFrom 0 (outline.below base)).length ≤ path.length := by
    simpa [placesFrom] using reaches
  rw [captured, places, zipIdx_zip longEnough "", stand, List.map_map, List.filterMap_map]
  simp [Function.comp_def]

/-- Of what tokens capture, the values under names of a kind are those of the tokens that capture
under such names. -/
theorem values_filter (kind : Nat → String → Bool) (value : Nat → String)
    (items : List (Token × Nat)) :
    ((items.filterMap fun item => (item.1.name? item.2).map fun name =>
        (item.2, name, value item.2)).filter fun item => kind item.1 item.2.1).map (·.2.2)
      = (items.filter fun item => item.1.capturesUnder kind item.2).map fun item =>
          value item.2 := by
  induction items with
  | nil => rfl
  | cons first rest ih =>
    cases named : first.1.name? first.2 with
    | none => simpa [named, Token.capturesUnder] using ih
    | some name =>
      by_cases chosen : kind first.2 name = true
      · simpa [named, Token.capturesUnder, chosen] using ih
      · simpa [named, Token.capturesUnder, chosen] using ih

theorem values_filter_captured (places : signature.places = placesFrom 0 (outline.below base))
    (reaches : (outline.below base).length ≤ path.length) (kind : Nat → String → Bool) :
    ((signature.captured path).filter fun item => kind item.1 item.2.1).map (·.2.2)
      = segmentsAt path (outline.positions base (Token.capturesUnder kind)) := by
  rw [captured_eq places reaches,
    values_filter kind fun index => decodeSegment (path.getD index ""), segmentsAt, positions,
    List.map_map]
  rfl

/-- What has its position as its name is what counts as having none. -/
theorem unnamed_eq_filter (found : List (Nat × String × String)) :
    (found.filterMap fun (index, name, value) =>
        if name = Place.positional index then some value else none)
      = (found.filter fun item => item.2.1 == Text.decimal item.1).map (·.2.2) := by
  induction found with
  | nil => rfl
  | cons first rest ih =>
    rw [List.filterMap_cons, List.filter_cons]
    by_cases same : first.2.1 = Text.decimal first.1
    · simpa [same, Place.positional] using ih
    · simpa [same, Place.positional] using ih

theorem mem_positions_iff {chosen : Nat → Token → Bool} {index : Nat} :
    index ∈ outline.positions base chosen ↔
      ∃ token, (outline.below base)[index]? = some token ∧ chosen index token = true := by
  simp only [positions, List.mem_map, List.mem_filter, List.mem_zipIdx_iff_getElem?, Prod.exists,
    exists_eq_right]

/-- A token captures under its position if it is a star or has that name, too. -/
theorem capturesUnder_decimal_iff {index : Nat} {token : Token} :
    token.capturesUnder (fun index name => name == Text.decimal index) index = true ↔
      token.isStar index = true ∨ token = .named (Text.decimal index) := by
  cases token <;> simp [Token.capturesUnder, Token.name?, Token.isStar]

/-- If no token has its own position as its name, then those that capture under their position are
the stars. -/
theorem positions_decimal_eq
    (unnamed : ∀ index, (outline.below base)[index]? ≠ some (Token.named (Text.decimal index))) :
    outline.positions base (Token.capturesUnder fun index name => name == Text.decimal index)
      = outline.positions base Token.isStar := by
  unfold positions
  congr 1
  apply List.filter_congr
  rintro ⟨token, index⟩ member
  have stands : (outline.below base)[index]? = some token := List.mem_zipIdx_iff_getElem?.mp member
  have other : token ≠ .named (Text.decimal index) := fun named => unnamed index (named ▸ stands)
  rw [Bool.eq_iff_iff, capturesUnder_decimal_iff]
  exact or_iff_left other

/-- Otherwise they are more than these. -/
theorem unnamed_of_length_eq (same : (outline.positions base Token.isStar).length
    = (outline.positions base
        (Token.capturesUnder fun index name => name == Text.decimal index)).length) (index : Nat) :
    (outline.below base)[index]? ≠ some (Token.named (Text.decimal index)) := by
  intro named
  have stars : ((outline.below base).zipIdx.filter fun item => item.1.isStar item.2)
      = ((outline.below base).zipIdx.filter fun item =>
          item.1.capturesUnder (fun index name => name == Text.decimal index) item.2).filter
            fun item => item.1.isStar item.2 := by
    rw [List.filter_filter]
    apply List.filter_congr
    rintro ⟨token, index⟩ _
    cases star : token.isStar index with
    | true => simp [capturesUnder_decimal_iff.mpr (Or.inl star)]
    | false => simp
  simp only [positions, List.length_map] at same
  rw [stars, List.length_filter_eq_length_iff] at same
  have member : (Token.named (Text.decimal index), index) ∈ (outline.below base).zipIdx :=
    List.mem_zipIdx_iff_getElem?.mpr named
  have isStar := same _ (List.mem_filter.mpr ⟨member, capturesUnder_decimal_iff.mpr (Or.inr rfl)⟩)
  cases isStar

/-! ### What is captured -/

/-- **What a signature captures of a path that it serves.** -/
structure Outline.Captures (outline : Outline) (base path : List String)
    (arguments : PathArguments) : Prop where
  /-- There is a segment at the position of each token that captures. -/
  inRange : ∀ index ∈ outline.positions base (Token.capturesUnder fun _ _ => true),
    index < path.length
  /-- Each such token gives one value, in the order of the positions. -/
  once : arguments.captures.map Prod.snd
    = segmentsAt path (outline.positions base (Token.capturesUnder fun _ _ => true))
  /-- Under a name are the values of the tokens with that name, up to the case of ASCII letters. -/
  named : ∀ name, arguments.getAll name
    = segmentsAt path (outline.positions base
        (Token.capturesUnder fun _ other => Text.sameName other name))
  /-- The suffixes are what is captured under a position, and what lies beyond the tokens. -/
  suffixes : arguments.suffixes
    = segmentsAt path (outline.positions base
        (Token.capturesUnder fun index name => name == Text.decimal index))
      ++ outline.beyond base path
  /-- They are what the stars take, and what lies beyond, just if no token has its own position as
  its name. -/
  stars : arguments.suffixes
      = segmentsAt path (outline.positions base Token.isStar) ++ outline.beyond base path ↔
    ∀ index, (outline.below base)[index]? ≠ some (Token.named (Text.decimal index))

theorem captures_of_capture?_eq (isRead : read base written = .ok signature)
    (spells : outline.Spells written) (served : signature.capture? path = some arguments) :
    outline.Captures base path arguments := by
  have places := (places_of_read isRead spells).1
  unfold capture? at served
  by_cases accepted : signature.accepts path = true
  · rw [if_pos accepted] at served
    have reaches := ((accepts_iff_agrees isRead spells).mp accepted).1.reaches
    have values := values_filter_captured places reaches
    have length := fixedLength_of_places places
    have suffixes : arguments.suffixes = segmentsAt path (outline.positions base
        (Token.capturesUnder fun index name => name == Text.decimal index))
          ++ outline.beyond base path := by
      rw [← Option.some.inj served, ← values, beyond, ← length, ← unnamed_eq_filter]
    refine ⟨?_, ?_, ?_, suffixes, ?_⟩
    · intro index member
      obtain ⟨token, stands, -⟩ := mem_positions_iff.mp member
      have inside := (List.getElem?_eq_some_iff.mp stands).1
      omega
    · rw [← Option.some.inj served, ← values]
      simp [Function.comp_def]
    · intro name
      rw [← Option.some.inj served, ← values]
      simp [PathArguments.getAll, List.filter_map, Function.comp_def, Text.sameName]
    · rw [suffixes, List.append_cancel_right_eq]
      constructor
      · intro same
        apply unnamed_of_length_eq
        simpa [segmentsAt] using (congrArg List.length same).symm
      · intro unnamed
        rw [positions_decimal_eq unnamed]
  · rw [if_neg accepted] at served
    cases served

/-- **A signature captures something of exactly the paths that it serves**, and of these what stands
at the positions of its tokens. -/
theorem captures_by_position (isRead : read base written = .ok signature)
    (spells : outline.Spells written) (path : List String) :
    ((∃ arguments, signature.capture? path = some arguments) ↔ signature.accepts path = true) ∧
    ∀ arguments, signature.capture? path = some arguments →
      outline.Captures base path arguments := by
  refine ⟨?_, fun arguments served => captures_of_capture?_eq isRead spells served⟩
  unfold capture?
  by_cases accepted : signature.accepts path = true
  · simp [accepted]
  · simp [accepted]

/-- What the desk captures of a path: the one that has a name, and the suffixes. -/
theorem desk_captures : ∃ signature arguments, read deskBase deskText = .ok signature ∧
    desk.Spells deskText ∧
    signature.capture? ["API", "users", "7", "x", "y%20z"] = some arguments ∧
    arguments.getAll "ID" = ["7"] ∧ arguments.suffixes = ["x", "y z"] := by
  have isRead := read_of_spells deskBase desk_spells
  obtain ⟨served, captures⟩ := captures_by_position isRead desk_spells
    ["API", "users", "7", "x", "y%20z"]
  obtain ⟨arguments, captured⟩ := served.mpr (by decide +kernel)
  have found := captures arguments captured
  refine ⟨_, arguments, isRead, desk_spells, captured, ?_, ?_⟩
  · rw [found.named]
    decide +kernel
  · rw [found.suffixes]
    decide +kernel

/-- A signature of one capture, named for its own position. -/
def ownNumber : Outline := { fixed := [.named "0"], optional := 0, isOpen := false }

theorem ownNumber_spells : ownNumber.Spells "\x7b0\x7d" := by
  have trimmed : Text.trim "0" = "0" := by decide
  have named : Token.Written (.named "0") "\x7b0\x7d" :=
    trimmed ▸ @Token.Written.named "0" (by decide) (Token.unmarked_iff.mpr (by decide))
  refine ⟨"\x7b0\x7d".toList, ["\x7b0\x7d"], ⟨[], [], by simp, by decide, by decide⟩, ?_,
    ["\x7b0\x7d"], .cons named .nil, rfl⟩
  exact ⟨by decide, by decide, by decide⟩

/-- **What has a name is a suffix, too**, if the name is the position: there is no star, and nothing
lies beyond, but there is a suffix. -/
theorem ownNumber_is_suffix : ∃ signature arguments, read [] "\x7b0\x7d" = .ok signature ∧
    ownNumber.Spells "\x7b0\x7d" ∧ signature.capture? ["x"] = some arguments ∧
    segmentsAt ["x"] (ownNumber.positions [] Token.isStar) ++ ownNumber.beyond [] ["x"] = [] ∧
    arguments.suffixes = ["x"] := by
  have isRead := read_of_spells [] ownNumber_spells
  refine ⟨_, { suffixes := ["x"], captures := [("0", "x")] }, isRead, ownNumber_spells, ?_, ?_, rfl⟩
  · decide +kernel
  · decide +kernel

end Switchboard.Signature
