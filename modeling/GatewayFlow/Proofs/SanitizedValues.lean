import GatewayFlow.Proofs.RenderedData
import GatewayFlow.Proofs.SanitizedText

/-!
# Sanitized data

A sanitized text is the only one that is left of its text when the control characters and the
characters of templates are taken out, at most one marker in front, and the blanks around. Sanitized
data has such texts at every depth, keys included: its lists are as long as they were, its entries
come from entries, and scalars that are no texts stay as they are.
-/
namespace GatewayFlow

/-- All keys, at every depth, are texts. -/
def Value.HasTextKeys (v : Value) : Prop :=
  v.Throughout (fun k => ∃ s, k = .text s) fun _ => True

namespace Text

theorem dropWhile_isBlank_append {front cs : List Char} (blank : ∀ c ∈ front, isBlank c = true)
    (visible : ∀ c ∈ cs.head?, isBlank c = false) : (front ++ cs).dropWhile isBlank = cs := by
  rw [List.dropWhile_append_of_pos blank, dropWhile_isBlank_eq_self_iff]
  exact visible

/-- Trimming leaves the part between blanks that has no blank at either end. -/
theorem trim_eq_iff (cs ds : List Char) :
    trim cs = ds ↔
      ((∀ c ∈ ds.head?, isBlank c = false) ∧ ∀ c ∈ ds.getLast?, isBlank c = false) ∧
        ∃ front back, cs = front ++ ds ++ back ∧ ∀ c ∈ front ++ back, isBlank c = true := by
  constructor
  · rintro rfl
    -- What is dropped in front, and what is then dropped behind.
    let rest := cs.dropWhile isBlank
    let back := (rest.reverse.takeWhile isBlank).reverse
    have split : rest = trim cs ++ back := by
      rw [trim, trimBy, dropEndWhile, ← List.reverse_append, List.takeWhile_append_dropWhile,
        List.reverse_reverse]
    refine ⟨⟨fun c first => ?_, fun c last => ?_⟩, cs.takeWhile isBlank, back, ?_, ?_⟩
    · have head : rest.head? = some c := by
        rw [split, List.head?_append, Option.mem_def.mp first, Option.some_or]
      have visible := List.head?_dropWhile_not isBlank cs
      rw [head] at visible
      exact visible
    · rw [trim, trimBy, dropEndWhile, List.getLast?_reverse] at last
      have visible := List.head?_dropWhile_not isBlank rest.reverse
      rw [Option.mem_def.mp last] at visible
      exact visible
    · rw [List.append_assoc, ← split, List.takeWhile_append_dropWhile]
    · intro c member
      rcases List.mem_append.mp member with front | behind
      · exact List.mem_takeWhile_imp front
      · exact List.mem_takeWhile_imp (List.mem_reverse.mp behind)
  · rintro ⟨⟨first, last⟩, front, back, rfl, blank⟩
    obtain ⟨blankFront, blankBack⟩ := List.forall_mem_append.mp blank
    cases ds with
    | nil => simpa [trim_eq_nil_iff] using blank
    | cons d ds =>
      have dropped : (front ++ (d :: ds) ++ back).dropWhile isBlank = (d :: ds) ++ back := by
        rw [List.append_assoc]
        exact dropWhile_isBlank_append blankFront first
      rw [trim, trimBy, dropped, dropEndWhile, List.reverse_append, dropWhile_isBlank_append,
        List.reverse_reverse]
      · exact fun c member => blankBack c (List.mem_reverse.mp member)
      · rwa [List.head?_reverse]

/-- The first character that is no blank is the first one between the blanks. -/
theorem head?_dropWhile_isBlank {front cs back : List Char}
    (blank : ∀ c ∈ front ++ back, isBlank c = true)
    (visible : ∀ c ∈ cs.head?, isBlank c = false) :
    ((front ++ cs ++ back).dropWhile isBlank).head? = cs.head? := by
  cases cs with
  | nil => simpa [List.head?_eq_none_iff, List.dropWhile_eq_nil_iff] using blank
  | cons c rest =>
    have dropped : (front ++ (c :: rest ++ back)).dropWhile isBlank = c :: rest ++ back :=
      dropWhile_isBlank_append (List.forall_mem_append.mp blank).1 visible
    rw [List.append_assoc, dropped]
    rfl

end Text

namespace Sanitize

/-! ### What is left of a text -/

/-- The control characters and the characters of templates. -/
def IsStray (c : Char) : Prop :=
  c.toNat < 0x20 ∨ c.toNat = 0x7F ∨ c ∈ ['\x60', '$', '\x7b', '\x7d']

instance : DecidablePred IsStray :=
  fun _ => inferInstanceAs (Decidable (_ ∨ _ ∨ _))

def markers : List Char :=
  ['-', '!', '&', '*', '>', '|']

/-- No stray character, and no blank at either end. -/
structure IsTidy (s : String) : Prop where
  kept : ∀ c ∈ s.toList, ¬IsStray c
  first : ∀ c ∈ s.toList.head?, Text.isBlank c = false
  last : ∀ c ∈ s.toList.getLast?, Text.isBlank c = false

/-- The first text leaves the second: all that is gone are stray characters, at most one marker in
front, and blanks around. A marker in front is only left behind another one. -/
structure TextLeaves (s t : String) : Prop where
  tidy : IsTidy t
  among : t.toList.Sublist s.toList
  gone : ∃ (front : List Char) (marker : Option Char) (behind back : List Char),
    (s.toList.filter fun c => ¬IsStray c) =
      front ++ marker.toList ++ behind ++ t.toList ++ back ∧
    (∀ c ∈ front ++ behind ++ back, Text.isBlank c = true) ∧ (∀ c ∈ marker, c ∈ markers) ∧
    (marker = none → ∀ c ∈ t.toList.head?, c ∉ markers)

theorem isMarker_iff (c : Char) : isMarker c = true ↔ c ∈ markers := by
  simp [isMarker, markers, or_assoc]

theorem isBlank_of_mem_markers {m : Char} (marker : m ∈ markers) : Text.isBlank m = false := by
  simp only [markers, List.mem_cons, List.not_mem_nil, or_false] at marker
  rcases marker with rfl | rfl | rfl | rfl | rfl | rfl <;> rfl

/-- A marker is dropped where it is the first character that is no blank, and else nothing. -/
theorem withoutMarker_eq_iff (cs ds : List Char) :
    withoutMarker cs = ds ↔
      (∃ front, ∃ m ∈ markers, cs = front ++ m :: ds ∧ ∀ c ∈ front, Text.isBlank c = true) ∨
      cs = ds ∧ ∀ c ∈ (cs.dropWhile Text.isBlank).head?, c ∉ markers := by
  simp only [withoutMarker, isMarker_iff]
  constructor
  · rintro rfl
    have parts := List.takeWhile_append_dropWhile (p := Text.isBlank) (l := cs)
    cases dropped : cs.dropWhile Text.isBlank with
    | nil => simp
    | cons m rest =>
      rw [dropped] at parts
      by_cases marker : m ∈ markers
      · exact .inl ⟨_, m, marker, by simpa [marker] using parts.symm,
          fun _ => List.mem_takeWhile_imp⟩
      · simp [marker]
  · rintro (⟨front, m, marker, rfl, blank⟩ | ⟨rfl, unmarked⟩)
    · have dropped : (front ++ m :: ds).dropWhile Text.isBlank = m :: ds :=
        Text.dropWhile_isBlank_append blank (by simpa using isBlank_of_mem_markers marker)
      simp [dropped, marker]
    · split
      next m rest dropped =>
        rw [dropped] at unmarked
        rw [if_neg (unmarked m rfl)]
      next => rfl

theorem toList_text (s : String) :
    (text s).toList = Text.trim (withoutMarker (s.toList.filter fun c => ¬IsStray c)) := by
  have kept (c : Char) : (!isControl c && !isTemplate c) = decide ¬IsStray c := by
    rw [Bool.eq_iff_iff]
    simp [IsStray, isControl, isTemplate, and_assoc]
  simp only [text, String.toList_ofList, chars, kept]

theorem text_sublist (s : String) :
    (text s).toList.Sublist (s.toList.filter fun c => ¬IsStray c) := by
  rw [toList_text]
  exact (Text.trim_sublist _).trans (withoutMarker_sublist _)

theorem isTidy_text (s : String) : IsTidy (text s) := by
  have visible := ((Text.trim_eq_iff _ _).mp (toList_text s).symm).1
  refine ⟨fun c member => ?_, visible.1, visible.2⟩
  simpa using List.of_mem_filter ((text_sublist s).subset member)

/-- Nothing but what sanitizing makes of a text is left of it. -/
theorem text_eq_iff (s t : String) : text s = t ↔ TextLeaves s t := by
  constructor
  · rintro rfl
    refine ⟨isTidy_text s, (text_sublist s).trans List.filter_sublist, ?_⟩
    obtain ⟨visible, behind, back, trimmed, blank⟩ :=
      (Text.trim_eq_iff _ _).mp (toList_text s).symm
    -- In front went a marker with the blanks on both sides of it, or blanks alone.
    rcases (withoutMarker_eq_iff _ _).mp trimmed with
      ⟨front, m, marker, parts, blankFront⟩ | ⟨parts, unmarked⟩
    · refine ⟨front, some m, behind, back, by simpa using parts, ?_, by simpa using marker, nofun⟩
      rw [List.append_assoc]
      exact List.forall_mem_append.mpr ⟨blankFront, blank⟩
    · refine ⟨[], none, behind, back, by simpa using parts, by simpa using blank, nofun, ?_⟩
      rw [parts, Text.head?_dropWhile_isBlank blank visible.1] at unmarked
      exact fun _ => unmarked
  · rintro ⟨tidy, -, front, marker, behind, back, parts, blank, marked, unmarked⟩
    rw [← String.toList_inj, toList_text, parts, Text.trim_eq_iff]
    -- Tidy ends leave nothing more to trim, so the parts that are given are those that are dropped.
    refine ⟨⟨tidy.first, tidy.last⟩, ?_⟩
    obtain ⟨blankFront, blankBack⟩ := List.forall_mem_append.mp (List.append_assoc .. ▸ blank)
    cases marker with
    | none =>
      refine ⟨front ++ behind, back, ?_, blank⟩
      rw [Option.toList_none, List.append_nil, withoutMarker_eq_iff]
      refine .inr ⟨rfl, ?_⟩
      rw [Text.head?_dropWhile_isBlank blank tidy.first]
      exact unmarked rfl
    | some m =>
      refine ⟨behind, back, ?_, blankBack⟩
      rw [withoutMarker_eq_iff]
      exact .inl ⟨front, m, marked m rfl, by simp, blankFront⟩

/-! ### What is left of data -/

/-- Texts are tidy, and other scalars always. -/
def IsTidyScalar : Scalar → Prop
  | .text s => IsTidy s
  | _ => True

/-- Every text is tidy, keys included. -/
def IsTidyData (v : Value) : Prop :=
  v.Throughout IsTidyScalar IsTidyScalar

/-- A text leaves a text, and any other scalar itself. -/
inductive ScalarLeaves : Scalar → Scalar → Prop
  | text {s t : String} (left : TextLeaves s t) : ScalarLeaves (.text s) (.text t)
  | other {s : Scalar} (other : ∀ t, s ≠ .text t) : ScalarLeaves s s

/-- A list leaves what its items leave, one by one. Each entry that a mapping leaves comes from one
of its entries, key and value, and each of its keys leaves one that is there. -/
inductive Leaves : Value → Value → Prop
  | scalar {s t : Scalar} (left : ScalarLeaves s t) : Leaves (.scalar s) (.scalar t)
  | list {vs ws : List Value} (items : List.Forall₂ Leaves vs ws) : Leaves (.list vs) (.list ws)
  | mapping {es fs : Entries} (origin : Scalar × Value → Scalar × Value)
    (among : ∀ f ∈ fs, origin f ∈ es) (keys : ∀ f ∈ fs, ScalarLeaves (origin f).1 f.1)
    (values : ∀ f ∈ fs, Leaves (origin f).2 f.2)
    (reached : ∀ e ∈ es, ∃ f ∈ fs, ScalarLeaves e.1 f.1) : Leaves (.mapping es) (.mapping fs)

theorem isTidyScalar_scalar (s : Scalar) : IsTidyScalar (scalar s) := by
  cases s with
  | text s => exact isTidy_text s
  | _ => trivial

theorem isTidyData_value (v : Value) : IsTidyData (value v) :=
  throughout_value isTidyScalar_scalar isTidyScalar_scalar v

theorem scalarLeaves_scalar (s : Scalar) : ScalarLeaves s (scalar s) := by
  cases s with
  | text s => exact .text ((text_eq_iff s _).mp rfl)
  | _ => exact .other nofun

/-- Under texts, every sanitized entry comes from an entry. -/
theorem leaves_mapping {es : Entries} (texts : ∀ e ∈ es, ∃ s, e.1 = .text s)
    (values : ∀ e ∈ es, Leaves e.2 (value e.2)) : Leaves (.mapping es) (value (.mapping es)) := by
  have names : ∀ k ∈ (es.map fun e => (scalar e.1, value e.2)).map Prod.fst,
      ∃ s, k = .text s := by
    simp only [List.map_map, List.forall_mem_map, Function.comp_apply]
    intro e member
    obtain ⟨s, name⟩ := texts e member
    exact ⟨text s, by rw [name, scalar]⟩
  rw [value, entries_eq_merge]
  have source : ∀ f ∈ Entries.merge [] (es.map fun e => (scalar e.1, value e.2)),
      ∃ e ∈ es, (scalar e.1, value e.2) = f := by
    intro f member
    simpa using Entries.mem_of_mem_merge names member
  -- Each entry that is left comes from one in front: `origin` says which.
  choose! origin among same using source
  refine .mapping origin among (fun f member => ?_) (fun f member => ?_) fun e member => ?_
  · have key : scalar (origin f).1 = f.1 := congrArg Prod.fst (same f member)
    exact key ▸ scalarLeaves_scalar _
  · have rewritten : value (origin f).2 = f.2 := congrArg Prod.snd (same f member)
    exact rewritten ▸ values (origin f) (among f member)
  · have written := (Entries.mem_keys_merge (scalar e.1) [] names).mpr
      (.inr (List.mem_map_of_mem (List.mem_map_of_mem member)))
    obtain ⟨f, there, same⟩ := List.mem_map.mp written
    exact ⟨f, there, same ▸ scalarLeaves_scalar e.1⟩

/-- Data under texts leaves its sanitized form. -/
theorem leaves_value {v : Value} (texts : v.HasTextKeys) : Leaves v (value v) := by
  induction texts with
  | scalar here =>
    rw [value]
    exact .scalar (scalarLeaves_scalar _)
  | list items ih =>
    rw [value, items_eq_map]
    exact .list (List.forall₂_map_right_iff.mpr (List.forall₂_same.mpr ih))
  | mapping keys values ih => exact leaves_mapping keys ih

end Sanitize

theorem Value.IsPlain.hasTextKeys {v : Value} (isPlain : v.IsPlain) : v.HasTextKeys := by
  induction isPlain with
  | scalar => exact .scalar trivial
  | list items ih => exact .list ih
  | mapping labelled values ih =>
    exact .mapping (fun e member => labelled.texts e.1 (List.mem_map_of_mem member)) ih

/-- Sanitized data is tidy at every depth, and each text of it is what is left of a text: nothing is
gone but stray characters, at most one marker in front, and blanks around. Lists stay as long as
they are, and scalars that are no texts stay the same. -/
theorem sanitized_data_is_tidy (v : Value) :
    Sanitize.IsTidyData (Sanitize.value v) ∧
      (v.HasTextKeys → Sanitize.Leaves v (Sanitize.value v)) ∧
      (∀ s t, Sanitize.text s = t ↔ Sanitize.TextLeaves s t) ∧
      ∀ d : Document, Sanitize.IsTidyData d.rendered ∧ Sanitize.Leaves d.toValue d.rendered :=
  ⟨Sanitize.isTidyData_value v, Sanitize.leaves_value, Sanitize.text_eq_iff, fun d =>
    ⟨Sanitize.isTidyData_value d.toValue, Sanitize.leaves_value d.isPlain_toValue.hasTextKeys⟩⟩

/-- Options with stray characters, two of them under keys that become one. -/
def strayOptions : Value :=
  .mapping [(.text "grant ", .text "\x1c& * all"),
    (.text "realm\x07", .mapping [(.text ">|", .bool true)]),
    (.text "\t- grant$", .list [.text " -- \x7bread\x7d ", .int 5, .list [.text "$", .null]])]

def tidyOptions : Value :=
  .mapping [(.text "grant", .list [.text "- read", .int 5, .list [.text "", .null]]),
    (.text "realm", .mapping [(.text "|", .bool true)])]

theorem sanitized_data_is_tidy_for_options :
    strayOptions.HasTextKeys ∧ Sanitize.value strayOptions = tidyOptions ∧
      Sanitize.Leaves strayOptions tidyOptions := by
  have texts : strayOptions.HasTextKeys := by simp [strayOptions, Value.HasTextKeys]
  have same : Sanitize.value strayOptions = tidyOptions := rfl
  exact ⟨texts, same, same ▸ (sanitized_data_is_tidy strayOptions).2.1 texts⟩

end GatewayFlow
