import GatewayFlow.Proofs.SanitizedValues

/-!
# Safe names

Sanitizing keeps a text exactly when it is tidy and has no marker in front. Identifiers are such
texts: of the texts that are made of their characters, only those with a hyphen in front are
changed, and these are the ones that are refused.
-/
namespace GatewayFlow

namespace Sanitize

theorem not_isStray_iff (c : Char) : ¬IsStray c ↔ isControl c = false ∧ isTemplate c = false := by
  simp [IsStray, isControl, isTemplate, and_assoc]

theorem isHarmless_iff (s : String) :
    IsHarmless s ↔ IsTidy s ∧ ∀ c ∈ s.toList.head?, c ∉ markers := by
  have marker (c : Char) : isMarker c = false ↔ c ∉ markers := by
    rw [← isMarker_iff, Bool.not_eq_true]
  constructor
  · rintro ⟨kept, unmarked, first, last⟩
    exact ⟨⟨fun c member => (not_isStray_iff c).mpr (kept c member), first, last⟩,
      fun c member => (marker c).mp (unmarked c member)⟩
  · rintro ⟨⟨kept, first, last⟩, unmarked⟩
    exact ⟨fun c member => (not_isStray_iff c).mp (kept c member),
      fun c member => (marker c).mpr (unmarked c member), first, last⟩

end Sanitize

namespace Identifier

/-- The characters of names: letters and digits of ASCII, and three marks. -/
def IsNameCharacter (c : Char) : Prop :=
  ('A' ≤ c ∧ c ≤ 'Z') ∨ ('a' ≤ c ∧ c ≤ 'z') ∨ ('0' ≤ c ∧ c ≤ '9') ∨ c ∈ ['.', '_', '-']

/-- Some characters of names, and no more than the limit. -/
structure IsName (limit : Int) (s : String) : Prop where
  nonempty : s ≠ ""
  members : ∀ c ∈ s.toList, IsNameCharacter c
  bounded : s.length ≤ limit

theorem isMember_iff (c : Char) : isMember c = true ↔ IsNameCharacter c := by
  have letters : c.isAlphanum = (decide ('A' ≤ c ∧ c ≤ 'Z') ||
      (decide ('a' ≤ c) && decide (c ≤ 'z')) || (decide ('0' ≤ c) && decide (c ≤ '9'))) := rfl
  simp [isMember, IsNameCharacter, letters, or_assoc]

variable {limit : Int} {s : String}

theorem problem?_eq_none_iff (limit : Int) (s : String) :
    problem? limit (.text s) = none ↔ IsName limit s ∧ s.toList.head? ≠ some '-' := by
  rw [problem?, textProblem?_eq_none]
  simp only [isMember_iff, String.length_toList]
  constructor
  · rintro ⟨some, members, hyphen, bounded⟩
    exact ⟨⟨by simpa using some, members, bounded⟩, hyphen⟩
  · rintro ⟨⟨some, members, bounded⟩, hyphen⟩
    exact ⟨by simpa using some, members, hyphen, bounded⟩

/-- Characters of names are neither dropped wherever they stand nor blank. -/
theorem isTidy_of_members (members : ∀ c ∈ s.toList, IsNameCharacter c) : Sanitize.IsTidy s := by
  have harmless (c : Char) (member : c ∈ s.toList) :=
    harmless_of_isMember ((isMember_iff c).mpr (members c member))
  refine ⟨fun c member => ?_, fun c first => (harmless c (List.mem_of_mem_head? first)).2.2,
    fun c last => (harmless c (List.mem_of_mem_getLast? last)).2.2⟩
  exact (Sanitize.not_isStray_iff c).mpr ⟨(harmless c member).1, (harmless c member).2.1⟩

/-- Of a name with a hyphen in front, sanitizing drops the hyphen and nothing else. -/
theorem IsName.text_of_hyphen (name : IsName limit s) (hyphen : s.toList.head? = some '-') :
    "-" ++ Sanitize.text s = s := by
  obtain ⟨rest, letters⟩ := List.head?_eq_some_iff.mp hyphen
  have members := name.members
  have kept : (s.toList.filter fun c => ¬Sanitize.IsStray c) = '-' :: rest := by
    rw [← letters, List.filter_eq_self]
    simpa using (isTidy_of_members members).kept
  rw [letters, List.forall_mem_cons] at members
  have left : Sanitize.text s = String.ofList rest := by
    rw [Sanitize.text_eq_iff]
    refine ⟨isTidy_of_members (by simpa using members.2), ?_, [], some '-', [], [],
      by simpa using kept, by simp, by simp [Sanitize.markers], nofun⟩
    rw [letters, String.toList_ofList]
    exact List.sublist_cons_self '-' rest
  rw [left, ← String.toList_inj, String.toList_append, String.toList_ofList, letters]
  simp

/-- A name is refused for nothing but a hyphen in front. -/
theorem IsName.problem?_of_hyphen (name : IsName limit s) (hyphen : s.toList.head? = some '-') :
    problem? limit (.text s) = some .hyphen := by
  have all : s.toList.all isMember = true :=
    List.all_eq_true.mpr fun c member => (isMember_iff c).mpr (name.members c member)
  simp [problem?, textProblem?, name.nonempty, all, hyphen]

end Identifier

open Identifier

/-- Sanitizing keeps the texts that are tidy and have no marker in front, and identifiers are names
within the limit that have no hyphen there. So identifiers are kept, and of all names within the
limit just those are refused that sanitizing would change: it takes the hyphen away. -/
theorem identifiers_are_safe_names (s : String) :
    (Sanitize.text s = s ↔
      Sanitize.IsTidy s ∧ ∀ c ∈ s.toList.head?, c ∉ Sanitize.markers) ∧
    ∀ limit : Int,
      (problem? limit (.text s) = none ↔ IsName limit s ∧ s.toList.head? ≠ some '-') ∧
      (problem? limit (.text s) = none → Sanitize.text s = s) ∧
      (IsName limit s → (problem? limit (.text s) ≠ none ↔ Sanitize.text s ≠ s)) ∧
      (IsName limit s → problem? limit (.text s) ≠ none →
        problem? limit (.text s) = some .hyphen ∧ "-" ++ Sanitize.text s = s) := by
  refine ⟨(Sanitize.text_eq_self_iff s).trans (Sanitize.isHarmless_iff s), fun limit => ?_⟩
  have hyphened (name : IsName limit s) (refused : problem? limit (.text s) ≠ none) :
      s.toList.head? = some '-' := by
    by_contra apart
    exact refused ((problem?_eq_none_iff limit s).mpr ⟨name, apart⟩)
  refine ⟨problem?_eq_none_iff limit s, sanitize_text, fun name => ?_, fun name refused => ?_⟩
  · refine ⟨fun refused same => ?_, fun changed accepted => changed (sanitize_text accepted)⟩
    -- The text would be as long as with one hyphen more.
    have longer := congrArg String.length (name.text_of_hyphen (hyphened name refused))
    rw [same, String.length_append] at longer
    simp at longer
  · exact ⟨name.problem?_of_hyphen (hyphened name refused),
      name.text_of_hyphen (hyphened name refused)⟩

/-- A name of nine characters under a limit of nine, and one with two hyphens in front. -/
theorem identifiers_are_safe_names_for_orders :
    problem? 9 (.text "orders.v2") = none ∧ Sanitize.text "orders.v2" = "orders.v2" ∧
      IsName 9 "--orders" ∧ problem? 9 (.text "--orders") ≠ none ∧
      Sanitize.text "--orders" ≠ "--orders" := by
  have accepted : problem? 9 (.text "orders.v2") = none := by decide
  have name : IsName 9 "--orders" := ⟨by decide, by simp [IsNameCharacter], by decide⟩
  have refused : problem? 9 (.text "--orders") ≠ none :=
    fun accepted => ((problem?_eq_none_iff 9 "--orders").mp accepted).2 (by decide)
  refine ⟨accepted, ((identifiers_are_safe_names "orders.v2").2 9).2.1 accepted, name, refused, ?_⟩
  exact (((identifiers_are_safe_names "--orders").2 9).2.2.1 name).mp refused

end GatewayFlow
