import Switchboard.Proofs.Uri.SchemeChange
/-!
What is left of a URI whose scheme is swapped.

The text after the scheme is kept and read by the rules of the other scheme. That changes nothing
but the scheme for all URIs that stay what they are there. The schemes of the web have a host in all
of their URIs, so a URI without one does not stay.

* `Endpoint.swaps_only_scheme_iff`: what a swap leaves of a URI.
* `Endpoint.first_segment_becomes_host`: what becomes of a URI without a host.
-/

namespace Switchboard

variable {σ : Type}

namespace Endpoint

open Text Uri

/-- What has a score for a swap is read again after the other scheme. -/
theorem rescheme_of_swapScore {source target : String} {uri other : Uri} {score : Int}
    (scores : swapScore source target uri = some (score, other)) :
    rescheme target uri = some other := by
  unfold swapScore at scores
  split at scores
  · cases scores
  · obtain ⟨next, puts, same⟩ := Option.map_eq_some_iff.mp scores
    rw [puts, (Prod.mk.inj same).2]

/-- **A swap changes nothing but the scheme** just if what it puts in is a scheme and the URI stays
what it is there. -/
theorem swaps_only_scheme_iff (key : Nat) (source target : String) {uri other : Uri} {score : Int}
    (made : Made uri)
    (scores : (schemeSwap key source target : Endpoint σ).score uri = some (score, other)) :
    OnlyScheme (lower target) uri other
      ↔ isScheme target = true ∧ StaysIn (lower target) uri := by
  have puts : rescheme (lower target) uri = some other := rescheme_of_swapScore scores
  have read := parse_of_rescheme puts
  have changes : isScheme target = true →
      (OnlyScheme (lower target) uri other ↔ StaysIn (lower target) uri) := by
    intro valid
    rw [← isScheme_lower] at valid
    have whole := onlyScheme_iff_staysIn made valid read
    rwa [lower_lower] at whole
  constructor
  · intro only
    have valid : isScheme target = true := by
      have isOther := isScheme_of_schemeOf? (schemeOf?_of_rescheme puts)
      rwa [only.changed, isScheme_lower] at isOther
    exact ⟨valid, (changes valid).mp only⟩
  · rintro ⟨valid, stays⟩
    exact (changes valid).mpr stays

/-- A URI with a host in capitals and the port of another scheme. -/
def office : Uri :=
  { scheme := "ext-http", dotted := false, path := .segments ["a", "", "b"], query := some "x='1"
    fragment := none
    authority := some { username := "u", password := "", host := "Desk", port := some 80 } }

/-- The same in that scheme. -/
def officeOfWeb : Uri :=
  { scheme := "http", dotted := false, path := .segments ["a", "", "b"], query := some "x=%271"
    fragment := none
    authority := some { username := "u", password := "", host := "desk", port := none } }

theorem office_changes_only_scheme :
    Made office ∧
    (schemeSwap 0 "ext-http" "http" : Endpoint Unit).score office
      = some (forcedScore, officeOfWeb) ∧
    OnlyScheme (lower "http") office officeOfWeb := by
  have made : Made office := by
    have read : parse office.text = .ok office := by decide +kernel
    exact .parse read
  have scores : (schemeSwap 0 "ext-http" "http" : Endpoint Unit).score office
      = some (forcedScore, officeOfWeb) := by decide +kernel
  have valid : isScheme "http" = true := by decide
  have isHttp : lower "http" = "http" := by decide
  have ofWeb : Host.OfWeb "Desk" := ⟨by decide, fun ends => absurd ends (by decide)⟩
  have stays : StaysIn (lower "http") office := by
    rw [isHttp]
    exact (staysIn_iff_of_host made rfl (by decide) (by decide)).mpr fun _ => ⟨ofWeb, by decide⟩
  exact ⟨made, scores, (swaps_only_scheme_iff 0 "ext-http" "http" made scores).mpr ⟨valid, stays⟩⟩

/-- A URI with an empty host. -/
def shelf : Uri :=
  { scheme := "ext-http", dotted := false, path := .segments ["a", "b"], query := none
    fragment := none
    authority := some { username := "", password := "", host := "", port := none } }

/-- The URI that it becomes. -/
def shelfOfWeb : Uri :=
  { scheme := "http", dotted := false, path := .segments ["b"], query := none
    fragment := none
    authority := some { username := "", password := "", host := "a", port := none } }

/-- **Where there is no host the first segment becomes one**, since the schemes of the web have an
authority after any slashes. -/
theorem first_segment_becomes_host :
    parse "ext-http:///a/b" = .ok shelf ∧
    (schemeSwap 0 "ext-http" "http" : Endpoint Unit).score shelf
      = some (forcedScore, shelfOfWeb) ∧
    shelf.host? = none ∧ shelfOfWeb.host? = some "a" ∧
    shelf.segments = ["a", "b"] ∧ shelfOfWeb.segments = ["b"] := by
  refine ⟨?_, ?_, rfl, rfl, ?_, ?_⟩
  all_goals decide +kernel

end Endpoint

end Switchboard
