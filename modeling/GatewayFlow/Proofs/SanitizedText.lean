import GatewayFlow.Identifier
import GatewayFlow.Sanitize
import Mathlib.Data.List.Basic
import Mathlib.Data.List.TakeWhile
import Mathlib.Tactic.NthRewrite

/-!
# What sanitizing makes of a text

A text without dropped characters, with no marker in front and no blank at either end is kept as it
is, and no other; identifiers are such texts. Nothing is left of a text that has only dropped
characters, blanks and at most one marker.
-/
namespace GatewayFlow

namespace Text

theorem dropWhile_isBlank_eq_self_iff (cs : List Char) :
    cs.dropWhile isBlank = cs ↔ ∀ c ∈ cs.head?, isBlank c = false := by
  rw [List.dropWhile_eq_self_iff]
  cases cs <;> simp

theorem trim_sublist (cs : List Char) : (trim cs).Sublist cs := by
  rw [trim, trimBy, dropEndWhile]
  refine List.Sublist.trans ?_ (List.dropWhile_sublist isBlank)
  rw [← List.reverse_sublist, List.reverse_reverse]
  exact List.dropWhile_sublist isBlank

theorem trim_eq_self_iff (cs : List Char) :
    trim cs = cs ↔
      (∀ c ∈ cs.head?, isBlank c = false) ∧ ∀ c ∈ cs.getLast?, isBlank c = false := by
  rw [← dropWhile_isBlank_eq_self_iff, ← List.head?_reverse, ← dropWhile_isBlank_eq_self_iff]
  constructor
  · intro same
    -- Trimming first drops blanks in front, and nothing that is dropped comes back.
    have front : cs.dropWhile isBlank = cs := by
      refine (List.dropWhile_sublist isBlank).antisymm ?_
      rw [trim, trimBy, dropEndWhile] at same
      nth_rewrite 1 [← same]
      rw [← List.reverse_sublist, List.reverse_reverse]
      exact List.dropWhile_sublist isBlank
    rw [trim, trimBy, front, dropEndWhile, List.reverse_eq_iff] at same
    exact ⟨front, same⟩
  · rintro ⟨front, back⟩
    rw [trim, trimBy, front, dropEndWhile, back, List.reverse_reverse]

theorem trim_eq_nil_iff (cs : List Char) : trim cs = [] ↔ ∀ c ∈ cs, isBlank c = true := by
  rw [trim, trimBy, dropEndWhile, List.reverse_eq_nil_iff, List.dropWhile_eq_nil_iff]
  simp only [List.mem_reverse]
  constructor
  · intro blank c member
    rw [← List.takeWhile_append_dropWhile (p := isBlank) (l := cs), List.mem_append] at member
    exact member.elim List.mem_takeWhile_imp (blank c)
  · exact fun blank c member => blank c ((List.dropWhile_sublist isBlank).subset member)

end Text

namespace Sanitize

/-- A text that has nothing to be dropped: no control or template character, no marker in front and
no blank at either end. -/
structure IsHarmless (s : String) : Prop where
  kept : ∀ c ∈ s.toList, isControl c = false ∧ isTemplate c = false
  unmarked : ∀ c ∈ s.toList.head?, isMarker c = false
  first : ∀ c ∈ s.toList.head?, Text.isBlank c = false
  last : ∀ c ∈ s.toList.getLast?, Text.isBlank c = false

theorem withoutMarker_sublist (cs : List Char) : (withoutMarker cs).Sublist cs := by
  rw [withoutMarker]
  split
  next c rest dropped =>
    split
    next =>
      have behind : rest.Sublist (cs.dropWhile Text.isBlank) := dropped ▸ List.sublist_cons_self c rest
      exact behind.trans (List.dropWhile_sublist _)
    next => exact List.Sublist.refl cs
  next => exact List.Sublist.refl cs

theorem withoutMarker_eq_self_iff {cs : List Char}
    (visible : ∀ c ∈ cs.head?, Text.isBlank c = false) :
    withoutMarker cs = cs ↔ ∀ c ∈ cs.head?, isMarker c = false := by
  cases cs with
  | nil => simp [withoutMarker]
  | cons c rest =>
    have stays : Text.isBlank c = false := visible c rfl
    cases marker : isMarker c <;> simp [withoutMarker, stays, marker]

theorem chars_sublist (cs : List Char) :
    (chars cs).Sublist (cs.filter fun c => !isControl c && !isTemplate c) :=
  (Text.trim_sublist _).trans (withoutMarker_sublist _)

/-- Sanitizing keeps the harmless texts and no others. -/
theorem text_eq_self_iff (s : String) : text s = s ↔ IsHarmless s := by
  have letters : text s = s ↔ chars s.toList = s.toList := by
    rw [text, ← String.toList_inj, String.toList_ofList]
  rw [letters]
  constructor
  · intro same
    -- Each step only drops characters, so where the whole keeps the text every step does.
    have kept : (s.toList.filter fun c => !isControl c && !isTemplate c) = s.toList := by
      refine List.filter_sublist.antisymm ?_
      have dropped := chars_sublist s.toList
      rwa [same] at dropped
    rw [chars, kept] at same
    have unmarked : withoutMarker s.toList = s.toList := by
      refine (withoutMarker_sublist _).antisymm ?_
      have trimmed := Text.trim_sublist (withoutMarker s.toList)
      rwa [same] at trimmed
    rw [unmarked, Text.trim_eq_self_iff] at same
    refine ⟨?_, (withoutMarker_eq_self_iff same.1).mp unmarked, same.1, same.2⟩
    simpa [List.filter_eq_self] using kept
  · rintro ⟨harmless, unmarked, first, last⟩
    have kept : (s.toList.filter fun c => !isControl c && !isTemplate c) = s.toList := by
      rw [List.filter_eq_self]
      intro c member
      simp [harmless c member]
    rw [chars, kept, (withoutMarker_eq_self_iff first).mpr unmarked, Text.trim_eq_self_iff]
    exact ⟨first, last⟩

/-! ### Texts of which nothing is left -/

/-- The characters of a text that are neither dropped wherever they stand nor blank. -/
def solid (s : String) : List Char :=
  s.toList.filter fun c => !isControl c && !isTemplate c && !Text.isBlank c

/-- A text has no solid character, or none but one marker. -/
def Vanishes (s : String) : Prop :=
  solid s = [] ∨ ∃ c, isMarker c = true ∧ solid s = [c]

theorem trim_withoutMarker_eq_nil_iff (cs : List Char) :
    Text.trim (withoutMarker cs) = [] ↔
      (cs.filter fun c => !Text.isBlank c) = [] ∨
        ∃ c, isMarker c = true ∧ (cs.filter fun c => !Text.isBlank c) = [c] := by
  have nothing (ds : List Char) :
      (ds.filter fun c => !Text.isBlank c) = [] ↔ ∀ c ∈ ds, Text.isBlank c = true := by
    simp [List.filter_eq_nil_iff]
  rw [Text.trim_eq_nil_iff, withoutMarker, ← nothing]
  -- Blanks in front do not count on either side.
  have front : (cs.filter fun c => !Text.isBlank c) =
      (cs.dropWhile Text.isBlank).filter fun c => !Text.isBlank c := by
    conv_lhs => rw [← List.takeWhile_append_dropWhile (p := Text.isBlank) (l := cs),
      List.filter_append, (nothing _).mpr fun c => List.mem_takeWhile_imp, List.nil_append]
  have visible := List.head?_dropWhile_not Text.isBlank cs
  cases dropped : cs.dropWhile Text.isBlank with
  | nil => simp [front, dropped]
  | cons c rest =>
    rw [dropped] at visible front
    have stays : Text.isBlank c = false := visible
    cases marker : isMarker c <;> simp [front, stays, marker]

/-- Sanitizing leaves nothing of the texts that vanish and something of all others. -/
theorem text_eq_empty_iff (s : String) : text s = "" ↔ Vanishes s := by
  have letters : text s = "" ↔ chars s.toList = [] := by
    rw [text, ← String.toList_inj, String.toList_ofList, String.toList_empty]
  have solids : solid s =
      (s.toList.filter fun c => !isControl c && !isTemplate c).filter fun c => !Text.isBlank c := by
    rw [solid, List.filter_filter]
    simp only [Bool.and_comm]
  rw [letters, chars, trim_withoutMarker_eq_nil_iff, Vanishes, solids]

instance : DecidablePred Vanishes :=
  fun s => decidable_of_iff (text s = "") (text_eq_empty_iff s)

end Sanitize

/-! ### Identifiers -/

namespace Identifier

theorem toNat_of_isMember {c : Char} (member : isMember c = true) :
    (48 ≤ c.toNat ∧ c.toNat ≤ 57) ∨ (65 ≤ c.toNat ∧ c.toNat ≤ 90) ∨
      (97 ≤ c.toNat ∧ c.toNat ≤ 122) ∨ c.toNat = 45 ∨ c.toNat = 46 ∨ c.toNat = 95 := by
  have letters : c.isAlphanum = (decide (65 ≤ c.val ∧ c.val ≤ 90) ||
      (decide (97 ≤ c.val) && decide (c.val ≤ 122)) || c.isDigit) := rfl
  simp only [isMember, letters, Bool.or_eq_true, Bool.and_eq_true, decide_eq_true_eq,
    UInt32.le_iff_toNat_le, Char.isDigit_iff_toNat, beq_iff_eq] at member
  rcases member with ((((upper | lower) | digit) | rfl) | rfl) | rfl
  · exact .inr (.inl upper)
  · exact .inr (.inr (.inl lower))
  · exact .inl digit
  all_goals decide

/-- No character of an identifier is dropped or blank. -/
theorem harmless_of_isMember {c : Char} (member : isMember c = true) :
    Sanitize.isControl c = false ∧ Sanitize.isTemplate c = false ∧ Text.isBlank c = false := by
  -- All ranges are compared as numbers, but for the four characters of templates.
  have range := toNat_of_isMember member
  refine ⟨?_, ?_, ?_⟩
  · simp only [Sanitize.isControl, Bool.or_eq_false_iff, decide_eq_false_iff_not,
      beq_eq_false_iff_ne]
    omega
  · simp only [Sanitize.isTemplate, Bool.or_eq_false_iff, beq_eq_false_iff_ne]
    refine ⟨⟨⟨?_, ?_⟩, ?_⟩, ?_⟩ <;> rintro rfl <;> exact absurd member (by decide)
  · simp only [Text.isBlank, Text.isSpace, Bool.or_eq_false_iff, Bool.and_eq_false_iff,
      decide_eq_false_iff_not, beq_eq_false_iff_ne]
    omega

/-- The hyphen is the only marker among the characters of identifiers. -/
theorem isMarker_of_isMember {c : Char} (member : isMember c = true) (apart : c ≠ '-') :
    Sanitize.isMarker c = false := by
  simp only [Sanitize.isMarker, Bool.or_eq_false_iff, beq_eq_false_iff_ne]
  refine ⟨⟨⟨⟨⟨apart, ?_⟩, ?_⟩, ?_⟩, ?_⟩, ?_⟩ <;> rintro rfl <;> exact absurd member (by decide)

/-- An identifier has some characters, all of identifiers, does not start with a hyphen, and keeps
to the limit. -/
theorem textProblem?_eq_none (limit : Int) (s : String) :
    textProblem? limit s = none ↔
      s.toList ≠ [] ∧ (∀ c ∈ s.toList, isMember c = true) ∧ s.toList.head? ≠ some '-' ∧
        s.toList.length ≤ limit := by
  simp only [textProblem?]
  generalize s.toList = cs
  by_cases empty : cs = []
  · simp [empty]
  by_cases members : ∀ c ∈ cs, isMember c = true
  · have all : cs.all isMember = true := List.all_eq_true.mpr members
    by_cases hyphen : cs.head? = some '-'
    · simp [empty, all, hyphen]
    · by_cases long : limit < cs.length
      · simp [empty, all, hyphen, long]
      · simpa [empty, all, hyphen, long, Int.not_lt.mp long] using members
  · have foreign : cs.all isMember = false := by
      rw [← Bool.not_eq_true, List.all_eq_true]
      exact members
    simp [empty, foreign, members]

/-- Sanitizing keeps identifiers. -/
theorem sanitize_text {limit : Int} {s : String} (accepted : textProblem? limit s = none) :
    Sanitize.text s = s := by
  obtain ⟨-, members, hyphen, -⟩ := (textProblem?_eq_none limit s).mp accepted
  have harmless (c : Char) (member : c ∈ s.toList) := harmless_of_isMember (members c member)
  rw [Sanitize.text_eq_self_iff]
  refine ⟨fun c member => ⟨(harmless c member).1, (harmless c member).2.1⟩, fun c first => ?_,
    fun c first => (harmless c (List.mem_of_mem_head? first)).2.2,
    fun c last => (harmless c (List.mem_of_mem_getLast? last)).2.2⟩
  refine isMarker_of_isMember (members c (List.mem_of_mem_head? first)) ?_
  rintro rfl
  exact hyphen first

end Identifier
end GatewayFlow
