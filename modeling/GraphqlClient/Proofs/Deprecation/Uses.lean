import GraphqlClient.Proofs.Deprecation.Survey
import GraphqlClient.Proofs.Schema.Members

/-!
# Uses of deprecated members

Which directives make a member deprecated, and why, said without looking for any of them
(`Deprecates`): of several `@deprecated` the first counts, and of its arguments the first `reason`,
if it is a string.  A use of such a member has one notice, and a use of any other member has none
(`NotesUse`).
-/

namespace GraphqlClient.Deprecation

/-! ### Reasons -/

/-- The reason that a `@deprecated` with these arguments gives.  It is the first `reason`; where
this is no string, or where there is none, the reason is the one that the language has for the
purpose. -/
inductive GivesReason (arguments : List Argument) : String → Prop
  | written {reason}
      (first : IsFirst (·.name = "reason") arguments
        { name := "reason", value := .string reason }) :
      GivesReason arguments reason
  | unwritten
      (missing : ∀ reason, ¬ IsFirst (·.name = "reason") arguments
        { name := "reason", value := .string reason }) :
      GivesReason arguments "No longer supported"

/-- A member with these directives is deprecated, and the first `@deprecated` gives the reason. -/
def Deprecates (directives : List Directive) (reason : String) : Prop :=
  ∃ deprecated, IsFirst (·.name = "deprecated") directives deprecated ∧
    GivesReason deprecated.arguments reason

/-- A reason that is written is the only one, and otherwise the usual one is. -/
lemma GivesReason.unique {arguments : List Argument} {reason reason' : String}
    (h : GivesReason arguments reason) (h' : GivesReason arguments reason') : reason = reason' := by
  cases h with
  | written first =>
    cases h' with
    | written first' =>
      have hsame := first.unique first'
      simpa using hsame
    | unwritten missing => exact absurd first (missing reason)
  | unwritten missing =>
    cases h' with
    | written first' => exact absurd first' (missing reason')
    | unwritten => rfl

/-- The reason that is read from a `@deprecated` is the one that it gives. -/
lemma givesReason_of_arguments (arguments : List Argument) :
    GivesReason arguments
      (match arguments.find? (·.name = "reason") with
        | some { value := .string reason, .. } => reason
        | _ => defaultReason) := by
  split
  · next name reason hfound =>
    have hfirst := find?_eq_some_iff_isFirst.mp hfound
    obtain rfl : name = "reason" := hfirst.1
    exact .written hfirst
  · next hother =>
    refine .unwritten fun reason hfirst => ?_
    exact hother "reason" reason (find?_eq_some_iff_isFirst.mpr hfirst)

/-- The reason of a deprecation is found exactly if there is one. -/
lemma reason?_eq_some_iff {directives : List Directive} {reason : String} :
    reason? directives = some reason ↔ Deprecates directives reason := by
  unfold reason?
  rw [Option.map_eq_some_iff]
  constructor
  · rintro ⟨deprecated, hfound, rfl⟩
    exact ⟨deprecated, find?_eq_some_iff_isFirst.mp hfound, givesReason_of_arguments _⟩
  · rintro ⟨deprecated, hfirst, hgives⟩
    exact ⟨deprecated, find?_eq_some_iff_isFirst.mpr hfirst,
      (givesReason_of_arguments _).unique hgives⟩

/-- No reason is found exactly if the member is not deprecated. -/
lemma reason?_eq_none_iff {directives : List Directive} :
    reason? directives = none ↔ ∀ directive ∈ directives, directive.name ≠ "deprecated" := by
  unfold reason?
  rw [Option.map_eq_none_iff, List.find?_eq_none]
  simp only [decide_eq_true_eq, ne_eq]

/-! ### Notices -/

/-- The notices for a use of a member, on a line of a document that starts after the base line. -/
inductive NotesUse (v : Visitor) (qualifiedName : String) (directives : List Directive)
    (line : Nat) : List Notice → Prop
  | deprecated {reason} (deprecates : Deprecates directives reason) :
      NotesUse v qualifiedName directives line
        [{ qualifiedName, reason, sourceFile := v.sourceFile, line := v.baseLine + line }]
  | supported (never : ∀ directive ∈ directives, directive.name ≠ "deprecated") :
      NotesUse v qualifiedName directives line []

/-- A use has the notices that are handed on for it. -/
lemma notesUse_iff {v : Visitor} {qualifiedName : String} {directives : List Directive} {line : Nat}
    {ns : List Notice} :
    NotesUse v qualifiedName directives line ns ↔
      ns = v.noticesOf qualifiedName directives line := by
  unfold Visitor.noticesOf
  cases hreason : reason? directives with
  | none =>
    have hnever := reason?_eq_none_iff.mp hreason
    constructor
    · rintro (deprecates | -)
      · rw [← reason?_eq_some_iff, hreason] at deprecates
        cases deprecates
      · rfl
    · rintro rfl
      exact .supported hnever
  | some reason =>
    have hdeprecates := reason?_eq_some_iff.mp hreason
    constructor
    · rintro (deprecates | never)
      · rw [← reason?_eq_some_iff, hreason] at deprecates
        cases deprecates
        rfl
      · rw [← reason?_eq_none_iff, hreason] at never
        cases never
    · rintro rfl
      exact .deprecated hdeprecates

end GraphqlClient.Deprecation
