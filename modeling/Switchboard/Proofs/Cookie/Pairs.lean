import Switchboard.Cookie.SetCookie
import Switchboard.Feature.Extraction
import Switchboard.Proofs.Text.Trim
/-!
Cookies as pairs of name and value.

Header fields hold pairs between semicolons, and in a pair the name ends at the first equals sign.
Blanks around names, values and pairs do not count. So a pair is read as it was written if neither
part has outer blanks or a separator.

* `Cookie.Neat` says which cookies can be written as pairs.
* `Message.readCookiePair_pairText`: such a cookie is read again.
* `Message.pairsOf_join`: fields that are joined hold the pairs of each, one after the other.
-/

namespace Switchboard

/-- **Says that a cookie can be written as a pair** of name and value. -/
structure Cookie.Neat (cookie : Cookie) : Prop where
  named : cookie.name ≠ ""
  nameTrimmed : Text.trim cookie.name = cookie.name
  nameFree : '=' ∉ cookie.name.toList ∧ ';' ∉ cookie.name.toList
  valueTrimmed : Text.trim cookie.value = cookie.value
  valueFree : ';' ∉ cookie.value.toList

namespace Cookie

variable {cookie : Cookie} (neat : cookie.Neat)

theorem toList_pairText (cookie : Cookie) :
    cookie.pairText.toList = cookie.name.toList ++ '=' :: cookie.value.toList := by
  simp [pairText]

include neat

theorem Neat.pairFree : ';' ∉ cookie.pairText.toList := by
  rw [toList_pairText, List.mem_append, List.mem_cons]
  rintro (inName | isEquals | inValue)
  · exact neat.nameFree.2 inName
  · exact absurd isEquals (by decide)
  · exact neat.valueFree inValue

theorem Neat.splitOnce_pairText :
    Text.splitOnce '=' cookie.pairText = some (cookie.name, cookie.value) := by
  rw [Text.splitOnce, toList_pairText, Text.cutAt_append neat.nameFree.1]
  simp

end Cookie

namespace Message

/-- The cookies that are written in a header field of a request. -/
def pairsOf (line : String) : List Cookie := (Text.split ';' line).filterMap readCookiePair

theorem writtenCookies_eq (message : Message) :
    message.writtenCookies = (message.headers.getAll cookieHeader).flatMap pairsOf := rfl

/-- The parts of a pair are trimmed, so the pair need not be. -/
theorem readCookiePair_eq (text : String) : readCookiePair text
    = ((Text.splitOnce '=' text).map (Prod.map Text.trim Text.trim)).map
        fun pair => Cookie.ofPair pair.1 pair.2 := by
  rw [← Text.map_trim_splitOnce (by decide), readCookiePair]
  cases Text.splitOnce '=' (Text.trim text) <;> rfl

/-- **A neat cookie is read as it was written**, with nothing but its name and its value. -/
theorem readCookiePair_pairText {cookie : Cookie} (neat : cookie.Neat) :
    readCookiePair cookie.pairText = some (Cookie.ofPair cookie.name cookie.value) := by
  rw [readCookiePair_eq, neat.splitOnce_pairText]
  simp [neat.nameTrimmed, neat.valueTrimmed]

/-! ### Fields -/

theorem pairsOf_pairText {cookie : Cookie} (neat : cookie.Neat) :
    pairsOf cookie.pairText = [Cookie.ofPair cookie.name cookie.value] := by
  have onePiece : Text.split ';' cookie.pairText = [cookie.pairText] := by
    rw [Text.split, Text.splitOn_of_not_mem neat.pairFree]
    simp
  rw [pairsOf, onePiece, List.filterMap_cons_some (readCookiePair_pairText neat), List.filterMap_nil]

/-- The pieces of a field are trimmed, so the field need not be. -/
theorem pairsOf_trim (line : String) : pairsOf (Text.trim line) = pairsOf line := by
  have trims : ∀ pieces : List String,
      pieces.filterMap readCookiePair = (pieces.map Text.trim).filterMap readCookiePair := by
    intro pieces
    have alike : readCookiePair ∘ Text.trim = readCookiePair := by
      funext text
      simp only [Function.comp_apply, readCookiePair, Text.trim_trim]
    rw [List.filterMap_map, alike]
  rw [pairsOf, pairsOf, trims, Text.map_trim_split (by decide), ← trims]

theorem pairsOf_congr {one other : String} (same : Text.trim one = Text.trim other) :
    pairsOf one = pairsOf other := by
  rw [← pairsOf_trim one, same, pairsOf_trim]

theorem pairsOf_append (front rest : String) :
    pairsOf (front ++ "; " ++ rest) = pairsOf front ++ pairsOf rest := by
  have cut : Text.split ';' (front ++ "; " ++ rest)
      = Text.split ';' front ++ Text.split ';' (" " ++ rest) := by
    have isText : (front ++ "; " ++ rest).toList = front.toList ++ ';' :: (" " ++ rest).toList := by
      simp
    rw [Text.split, isText, Text.splitOn_append_sep, List.map_append]
    rfl
  rw [pairsOf, cut, List.filterMap_append]
  exact congrArg _ (pairsOf_congr (Text.trim_blank rest))

/-- **Fields that are joined** hold the pairs of each, one after the other. -/
theorem pairsOf_join (lines : List String) :
    pairsOf (Text.join "; " lines) = lines.flatMap pairsOf := by
  induction lines with
  | nil => decide
  | cons line rest ih =>
    cases rest with
    | nil => simp [Text.join]
    | cons next others =>
      show pairsOf (line ++ "; " ++ Text.join "; " (next :: others)) = _
      rw [pairsOf_append, ih, ← List.flatMap_cons]

theorem pairsOf_requestText {cookies : List Cookie} (neat : ∀ cookie ∈ cookies, cookie.Neat) :
    pairsOf (Cookie.requestText cookies)
      = cookies.map fun cookie => Cookie.ofPair cookie.name cookie.value := by
  rw [Cookie.requestText, pairsOf_join]
  induction cookies with
  | nil => rfl
  | cons cookie rest ih =>
    obtain ⟨first, others⟩ := List.forall_mem_cons.mp neat
    rw [List.map_cons, List.flatMap_cons, pairsOf_pairText first, ih others]
    rfl

end Message

end Switchboard
