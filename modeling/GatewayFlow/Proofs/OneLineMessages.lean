import GatewayFlow.Files
import GatewayFlow.Proofs.JsonData
import GatewayFlow.Proofs.YamlCharacters

/-!
# Messages on one line

What a message shows holds no newline: numbers are digits, texts stand between quotes with their
newlines escaped, and a JSON value is made of both. A cause for which a flow does not load has its
message on one line when the names of files in it are.
-/
namespace GatewayFlow

/-! ### Numbers and texts -/

theorem newline_not_mem_natText (n : Nat) : '\n' ∉ natText n :=
  fun member => absurd (isDigit_of_mem_natText member) (by decide)

theorem newline_not_mem_intText (i : Int) : '\n' ∉ intText i := by
  rw [intText_eq]
  split <;> simp [newline_not_mem_natText]

namespace Text

theorem newline_not_mem_hexPadded (width n : Nat) : '\n' ∉ hexPadded width n := by
  intro member
  obtain ⟨d, small, eq⟩ := hexPadded_digits member
  exact (by decide : ∀ d < 16, '\n' ≠ d.digitChar) d small eq

/-- A newline in a text is escaped where the text is quoted. -/
theorem newline_not_mem_quotedChar {quote c : Char} (other : quote ≠ '\n') :
    '\n' ∉ quotedChar quote c := by
  rw [quotedChar]
  split
  next plain =>
    rcases plain with rfl | rfl <;> simp [other.symm]
  split
  · decide
  split
  · decide
  next visible =>
    split
    · decide
    split
    · simpa using Ne.symm visible
    · rw [numericEscape]
      split
      · simp [newline_not_mem_hexPadded]
      · split <;> simp [newline_not_mem_hexPadded]

theorem newline_not_mem_quotedChars (cs : List Char) : '\n' ∉ quotedChars cs := by
  have quote : quoteFor cs ≠ '\n' := by
    rw [quoteFor]
    split <;> decide
  simp only [quotedChars, List.mem_append, List.mem_cons, List.mem_flatMap, List.not_mem_nil,
    or_false, not_or, not_exists, not_and]
  exact ⟨⟨quote.symm, fun c _ => newline_not_mem_quotedChar quote⟩, quote.symm⟩

end Text

/-! ### Values -/

theorem Scalar.IsJson.newline_not_mem_literal {s : Scalar} (isJson : s.IsJson) :
    '\n' ∉ s.literal := by
  cases s with
  | null => decide
  | bool b => cases b <;> decide
  | int i => exact newline_not_mem_intText i
  | float x =>
    cases x with
    | undefined => decide
    | infinite negative => cases negative <;> decide
    | finite negative rank =>
      obtain ⟨p, text, isDecimal, -⟩ := rankText_parts .plain rank
      rw [literal, Double.text, text]
      have word := Yaml.isWord_decimal negative isDecimal
      exact fun member => absurd (word.chars _ member) (by decide)
  | text t => exact Text.newline_not_mem_quotedChars t.toList
  | date d => cases isJson
  | instant t => cases isJson

namespace Value

theorem newline_not_mem_literalItems {vs : List Value} (items : ∀ v ∈ vs, '\n' ∉ v.literal) :
    '\n' ∉ literalItems vs := by
  induction vs with
  | nil => simp [literalItems]
  | cons v rest ih =>
    obtain ⟨first, others⟩ := List.forall_mem_cons.mp items
    cases rest with
    | nil => rwa [literalItems]
    | cons w more =>
      rw [literalItems]
      · simp [first, ih others]
      · simp

theorem newline_not_mem_literalEntries {es : Entries} (keys : ∀ e ∈ es, '\n' ∉ e.1.literal)
    (values : ∀ e ∈ es, '\n' ∉ e.2.literal) : '\n' ∉ literalEntries es := by
  induction es with
  | nil => simp [literalEntries]
  | cons e rest ih =>
    obtain ⟨k, v⟩ := e
    obtain ⟨key, otherKeys⟩ := List.forall_mem_cons.mp keys
    obtain ⟨value, otherValues⟩ := List.forall_mem_cons.mp values
    cases rest with
    | nil =>
      rw [literalEntries]
      simp [key, value]
    | cons e more =>
      rw [literalEntries]
      · simp [key, value, ih otherKeys otherValues]
      · simp

/-- A message shows a value on one line: by induction on the value, whose texts are quoted. -/
theorem IsJson.newline_not_mem_literal {v : Value} (isJson : v.IsJson) : '\n' ∉ v.literal := by
  induction isJson with
  | scalar here =>
    rw [literal]
    exact here.newline_not_mem_literal
  | list _ ih =>
    rw [literal]
    simp [newline_not_mem_literalItems ih]
  | @mapping es keys _ ih =>
    have quoted : ∀ e ∈ es, '\n' ∉ e.1.literal := by
      intro e member
      obtain ⟨s, eq⟩ := keys e member
      rw [eq]
      exact Text.newline_not_mem_quotedChars s.toList
    rw [literal]
    simp [newline_not_mem_literalEntries quoted ih]

end Value

/-! ### Paths -/

namespace Path

/-- Every part of a path is on one line. -/
def FitsLine (path : Path) : Prop :=
  '\n' ∉ path.root.toList ∧ ∀ part ∈ path.parts, '\n' ∉ part.toList

theorem newline_not_mem_intercalate {parts : List String}
    (fit : ∀ part ∈ parts, '\n' ∉ part.toList) : '\n' ∉ ("/".intercalate parts).toList := by
  induction parts with
  | nil => simp
  | cons part rest ih =>
    obtain ⟨first, others⟩ := List.forall_mem_cons.mp fit
    cases rest with
    | nil => simpa using first
    | cons next more =>
      rw [String.intercalate_cons_cons]
      simpa [first] using ih others

theorem FitsLine.newline_not_mem_text {path : Path} (fits : path.FitsLine) :
    '\n' ∉ path.text.toList := by
  obtain ⟨root, parts⟩ := fits
  have joined := newline_not_mem_intercalate parts
  rw [text]
  split
  · decide
  · rw [String.toList_append, List.mem_append, not_or]
    exact ⟨root, joined⟩

theorem FitsLine.newline_not_mem_name {path : Path} (fits : path.FitsLine) :
    '\n' ∉ path.name.toList := by
  rw [name, List.getLastD_eq_getLast?]
  cases last : path.parts.getLast? with
  | none => decide
  | some part => exact fits.2 part (List.mem_of_getLast? last)

end Path

theorem FileError.newline_not_mem_reason (e : FileError) : '\n' ∉ e.reason.toList := by
  cases e <;> decide

/-! ### Causes -/

theorem newline_not_mem_repr (i : Int) : '\n' ∉ i.repr.toList := by
  have text : i.repr.toList = intText i := by
    cases i <;> simp [Int.repr, intText, natText]
  rw [text]
  exact newline_not_mem_intText i

theorem Text.newline_not_mem_quoted (s : String) : '\n' ∉ (Text.quoted s).toList := by
  rw [quoted, String.toList_ofList]
  exact newline_not_mem_quotedChars s.toList

theorem toString_string (s : String) : toString s = s := rfl

theorem Json.Error.newline_not_mem_message (e : Json.Error) : '\n' ∉ e.message.toList := by
  have cause : '\n' ∉ e.fault.message.toList := by
    cases e.fault <;> simp [Json.Fault.message]
  have number : ∀ n, '\n' ∉ Nat.toDigits 10 n := newline_not_mem_natText
  simp [message, toString_string, cause, number]

namespace LoadFailure

/-- A cause that JSON data and its file can have, where what the message shows of its own fits on
one line. -/
def FitsLine : LoadFailure → Prop
  | .unknownKind kind _ => kind.IsJson
  | .unreadable path reason => '\n' ∉ path.toList ∧ '\n' ∉ reason.toList
  | .malformedJson file _ => '\n' ∉ file.toList
  | .malformedYaml .. => False
  | _ => True

theorem FitsLine.newline_not_mem_opening {cause : LoadFailure} (fits : cause.FitsLine) :
    '\n' ∉ cause.opening.toList := by
  have number := newline_not_mem_repr
  have named := Text.newline_not_mem_quoted
  unfold opening
  -- Ids and names are quoted, which escapes newlines; the other parts are assumed to hold none.
  cases cause with
  | unknownKind kind node =>
    have isJson : kind.IsJson := fits
    have shown : '\n' ∉ kind.quoted.toList := by
      rw [Value.quoted, String.toList_ofList]
      exact isJson.newline_not_mem_literal
    simp [toString_string, named, shown]
  | unreadable path reason =>
    obtain ⟨path, reason⟩ := fits
    simp [toString_string, path, reason]
  | malformedJson file error =>
    have name : '\n' ∉ file.toList := fits
    simp [toString_string, name, error.newline_not_mem_message]
  | malformedYaml => exact fits.elim
  | _ => simp [toString_string, number, named]

/-- The cause brings a report of issues that takes several lines. -/
def BringsLines (libraries : Libraries) (cause : LoadFailure) : Prop :=
  ∃ issues, cause.issues? = some issues ∧ '\n' ∈ (libraries.report issues).toList

/-- A message takes several lines exactly when the report behind it does. -/
theorem FitsLine.newline_mem_message_iff {cause : LoadFailure} (fits : cause.FitsLine)
    (libraries : Libraries) :
    '\n' ∈ (cause.message libraries).toList ↔ cause.BringsLines libraries := by
  have opening := fits.newline_not_mem_opening
  have report : cause.report? libraries = cause.issues?.map libraries.report := by
    cases cause with
    | malformedYaml => exact fits.elim
    | _ => rfl
  have start : '\n' ∉ "Cannot load flow: ".toList := by decide
  unfold message detail BringsLines
  simp only [toString_string, String.toList_append, List.mem_append, start, opening, report,
    false_or]
  cases cause.issues? <;> simp

theorem bringsLines_iff_of_lines {libraries : Libraries}
    (lines : ∀ found, '\n' ∈ (libraries.report found).toList) (cause : LoadFailure) :
    cause.BringsLines libraries ↔ cause.issues?.isSome = true := by
  rw [BringsLines, Option.isSome_iff_exists]
  exact exists_congr fun issues => and_iff_left (lines issues)

end LoadFailure

end GatewayFlow
