import GatewayFlow.Proofs.YamlCharacters
import GatewayFlow.Rendering

/-!
# The lines of a YAML text

No value can break out of its place. Sanitized data holds no newline, so every newline of a text is
one of the layout, and what belongs to an entry stands further right than the entry. The lines
without indentation are the format marker and the names of the sections, and each entry starts
exactly one line with its indicator behind two blanks.
-/
namespace GatewayFlow.Yaml

/-! ### Indentation -/

/-- After each newline come at least as many blanks. -/
def Indented (least : Nat) (cs : List Char) : Prop :=
  ∀ before after, cs = before ++ '\n' :: after → List.replicate least ' ' <+: after

theorem indented_of_not_mem {cs : List Char} (inline : '\n' ∉ cs) (least : Nat) :
    Indented least cs := by
  rintro before after rfl
  exact absurd (List.mem_append_right _ List.mem_cons_self) inline

theorem Indented.append {least : Nat} {cs ds : List Char} (first : Indented least cs)
    (second : Indented least ds) : Indented least (cs ++ ds) := by
  intro before after eq
  -- A newline of either part has its blanks in the same part.
  rcases List.append_eq_append_iff.mp eq with ⟨middle, rfl, there⟩ | ⟨middle, here, rest⟩
  · exact second middle after there
  · cases middle with
    | nil => exact second [] after rest.symm
    | cons c more =>
      obtain ⟨rfl, rfl⟩ := List.cons.inj rest
      exact (first before more here).trans (List.prefix_append more ds)

theorem Indented.cons {least : Nat} {c : Char} {cs : List Char} (inline : c ≠ '\n')
    (indented : Indented least cs) : Indented least (c :: cs) :=
  (indented_of_not_mem (show '\n' ∉ [c] by simpa using inline.symm) least).append indented

theorem indented_newline {least n : Nat} (deep : least ≤ n) : Indented least (newline n) := by
  intro before after eq
  cases before with
  | nil =>
    obtain ⟨-, rfl⟩ := List.cons.inj eq
    exact ⟨List.replicate (n - least) ' ', by rw [← List.replicate_add]; congr 1; omega⟩
  | cons c more =>
    obtain ⟨-, blanks⟩ := List.cons.inj eq
    have member : '\n' ∈ List.replicate n ' ' :=
      blanks ▸ List.mem_append_right _ List.mem_cons_self
    exact absurd (List.eq_of_mem_replicate member) (by decide)

theorem Indented.mono {least more : Nat} {cs : List Char} (indented : Indented more cs)
    (le : least ≤ more) : Indented least cs := by
  intro before after eq
  refine List.IsPrefix.trans ?_ (indented before after eq)
  exact ⟨List.replicate (more - least) ' ', by rw [← List.replicate_add]; congr 1; omega⟩

/-! ### Written values -/

theorem itemsChars_eq (indent : Nat) (vs : List Value) : itemsChars indent vs =
    vs.flatMap fun v => newline indent ++ '-' :: nodeChars indent true v := by
  induction vs with
  | nil => rfl
  | cons v rest ih => rw [itemsChars, ih, List.flatMap_cons]

theorem entriesChars_eq (indent : Nat) (es : Entries) : entriesChars indent es =
    es.flatMap fun e =>
      newline indent ++ (keyChars indent e.1 ++ nodeChars indent (!isSimpleKey e.1) e.2) := by
  induction es with
  | nil => rfl
  | cons e rest ih =>
    obtain ⟨k, v⟩ := e
    rw [entriesChars, ih, List.flatMap_cons, List.append_assoc (newline indent)]

/-- The scalars that are written on one line as far as newlines go. -/
def Inline (s : Scalar) : Prop :=
  ∀ indent, '\n' ∉ scalarChars indent s

theorem inline_of_isClean {s : Scalar} (isPlain : s.IsPlain) (clean : Sanitize.IsClean s) :
    Inline s :=
  fun indent member => (isInline_scalarChars isPlain clean indent _ member).2 rfl

theorem indented_keyChars {k : Scalar} (inline : Inline k) (indent : Nat) :
    Indented indent (keyChars indent k) := by
  have key := indented_of_not_mem (inline (indent + 2)) indent
  rw [keyChars]
  split
  · exact key.append (indented_of_not_mem (by decide) indent)
  · refine ((Indented.cons (by decide) (Indented.cons (by decide) key)).append ?_).append ?_
    · exact indented_newline le_rfl
    · exact indented_of_not_mem (by decide) indent

theorem indented_flatMap {α : Type} {least : Nat} {xs : List α} {f : α → List Char}
    (each : ∀ x ∈ xs, Indented least (f x)) : Indented least (xs.flatMap f) := by
  induction xs with
  | nil => exact indented_of_not_mem (by simp) least
  | cons x rest ih =>
    obtain ⟨here, later⟩ := List.forall_mem_cons.mp each
    exact here.append (ih later)

/-- All further lines of a value stand further right than its indicator. -/
theorem indented_nodeChars {v : Value} (inline : v.Throughout Inline Inline) (indent : Nat)
    (compact : Bool) : Indented (indent + 2) (nodeChars indent compact v) := by
  -- The first part of a block may follow on the same line or on the next one.
  have gap (indent : Nat) (compact : Bool) :
      Indented (indent + 2) (if compact then [' '] else newline (indent + 2)) := by
    split
    · exact indented_of_not_mem (by decide) _
    · exact indented_newline le_rfl
  -- By induction on the data: parts stand two columns further right than what they belong to, and
  -- their own lines further still.
  induction inline generalizing indent compact with
  | scalar inline =>
    exact Indented.cons (by decide) (indented_of_not_mem (inline _) _)
  | @list vs items ih =>
    have item (v : Value) (member : v ∈ vs) :
        Indented (indent + 2) ('-' :: nodeChars (indent + 2) true v) :=
      Indented.cons (by decide) ((ih v member (indent + 2) true).mono (by omega))
    cases vs with
    | nil => exact indented_of_not_mem (by simp [nodeChars]) _
    | cons v rest =>
      obtain ⟨first, later⟩ := List.forall_mem_cons.mp item
      rw [nodeChars, itemsChars_eq]
      exact ((gap indent compact).append first).append
        (indented_flatMap fun w member => (indented_newline le_rfl).append (later w member))
  | @mapping es keys values ih =>
    have entry (e : Scalar × Value) (member : e ∈ es) : Indented (indent + 2)
        (keyChars (indent + 2) e.1 ++ nodeChars (indent + 2) (!isSimpleKey e.1) e.2) :=
      (indented_keyChars (keys e member) (indent + 2)).append
        ((ih e member (indent + 2) _).mono (by omega))
    cases es with
    | nil => exact indented_of_not_mem (by simp [nodeChars]) _
    | cons e rest =>
      obtain ⟨k, v⟩ := e
      obtain ⟨first, later⟩ := List.forall_mem_cons.mp entry
      rw [nodeChars, entriesChars_eq, List.append_assoc (ite _ _ _)]
      exact ((gap indent compact).append first).append
        (indented_flatMap fun e member => (indented_newline le_rfl).append (later e member))

/-! ### Lines -/

/-- The lines that newlines separate. -/
def linesOf (cs : List Char) : List (List Char) :=
  cs.splitOn '\n'

theorem linesOf_append_flatMap {α : Type} (cs : List Char) (xs : List α) (f : α → List Char) :
    linesOf (cs ++ xs.flatMap fun x => '\n' :: f x) =
      linesOf cs ++ xs.flatMap fun x => linesOf (f x) := by
  induction xs generalizing cs with
  | nil => simp
  | cons x rest ih =>
    rw [List.flatMap_cons, List.flatMap_cons, List.cons_append, linesOf,
      List.splitOn_append_cons_self]
    exact congrArg (linesOf cs ++ ·) (ih (f x))

theorem linesOf_cons {c : Char} (inline : c ≠ '\n') (cs : List Char) :
    linesOf (c :: cs) = (linesOf cs).modifyHead (c :: ·) := by
  rw [linesOf, List.splitOn_cons_eq_if_modifyHead, if_neg (by simpa using inline)]
  rfl

theorem linesOf_append {cs : List Char} (inline : '\n' ∉ cs) (ds : List Char) :
    linesOf (cs ++ ds) = (linesOf ds).modifyHead (cs ++ ·) := by
  induction cs with
  | nil => exact (congrFun List.modifyHead_id (linesOf ds)).symm
  | cons c rest ih =>
    rw [List.mem_cons, not_or] at inline
    rw [List.cons_append, linesOf_cons (Ne.symm inline.1), ih inline.2,
      List.modifyHead_modifyHead]
    rfl

/-- A first line and further ones that start with blanks. -/
theorem linesOf_indented {least : Nat} {cs : List Char} (indented : Indented least cs) :
    ∃ first more, linesOf cs = first :: more ∧
      ∀ line ∈ more, List.replicate least ' ' <+: line := by
  -- By induction on the characters: a newline makes the first line behind it a further one.
  induction cs with
  | nil => exact ⟨[], [], rfl, by simp⟩
  | cons c rest ih =>
    have suffix : Indented least rest := fun before after eq =>
      indented (c :: before) after (by rw [eq, List.cons_append])
    obtain ⟨first, more, lines, blanks⟩ := ih suffix
    by_cases newline : c = '\n'
    · subst newline
      obtain ⟨tail, rfl⟩ := indented [] rest rfl
      have deep : '\n' ∉ List.replicate least ' ' := fun member =>
        absurd (List.eq_of_mem_replicate member) (by decide)
      refine ⟨[], first :: more, ?_, List.forall_mem_cons.mpr ⟨?_, blanks⟩⟩
      · rw [← lines]
        rfl
      · rw [linesOf_append deep] at lines
        cases own : linesOf tail with
        | nil => exact (List.splitOn_ne_nil _ _ own).elim
        | cons line others =>
          rw [own] at lines
          exact (List.cons.inj lines).1 ▸ List.prefix_append ..
    · refine ⟨c :: first, more, ?_, blanks⟩
      rw [linesOf_cons newline, lines]
      rfl

/-! ### Sections -/

/-- What starts an entry of a section. -/
def itemStart : List Char := "  - ".toList

/-- The lines of an entry: the first one has the indicator, the others have more blanks. -/
theorem linesOf_item {v : Value} (inline : v.Throughout Inline Inline) :
    ∃ first more, linesOf (' ' :: ' ' :: '-' :: nodeChars 2 true v) = (itemStart ++ first) :: more ∧
      ∀ line ∈ more, List.replicate 4 ' ' <+: line := by
  obtain ⟨rest, node⟩ : ∃ rest, nodeChars 2 true v = ' ' :: rest := by
    cases v with
    | scalar s => exact ⟨_, rfl⟩
    | list vs => cases vs <;> exact ⟨_, rfl⟩
    | mapping es => cases es <;> exact ⟨_, rfl⟩
  have indented := indented_nodeChars inline 2 true
  rw [node] at indented ⊢
  have suffix : Indented 4 rest := fun before after eq =>
    indented (' ' :: before) after (by rw [eq, List.cons_append])
  obtain ⟨first, more, lines, blanks⟩ := linesOf_indented suffix
  refine ⟨first, more, ?_, blanks⟩
  have split : linesOf (itemStart ++ rest) = _ := linesOf_append (by decide) rest
  rw [lines] at split
  exact split

def sectionChars (name : String) (vs : List Value) : List Char :=
  name.toList ++ ':' :: itemsChars 2 vs

theorem linesOf_sectionChars {name : String} (inline : '\n' ∉ name.toList) (vs : List Value) :
    linesOf (sectionChars name vs) =
      (name.toList ++ [':']) ::
        vs.flatMap fun v => linesOf (' ' :: ' ' :: '-' :: nodeChars 2 true v) := by
  have text : sectionChars name vs = (name.toList ++ [':']) ++
      vs.flatMap fun v => '\n' :: ' ' :: ' ' :: '-' :: nodeChars 2 true v := by
    rw [sectionChars, itemsChars_eq]
    simp [newline, List.replicate]
  have one : linesOf (name.toList ++ [':']) = [name.toList ++ [':']] := by
    refine List.splitOn_eq_singleton ?_
    simpa using inline
  rw [text, linesOf_append_flatMap, one, List.singleton_append]

/-- Whether a line has no indentation. -/
def isOuter (line : List Char) : Bool :=
  line.head? != some ' '

theorem indented_line {n : Nat} {line : List Char} (blanks : List.replicate (n + 3) ' ' <+: line) :
    isOuter line = false ∧ itemStart.isPrefixOf line = false := by
  obtain ⟨rest, rfl⟩ := blanks
  constructor
  · simp [isOuter, List.replicate_succ]
  · simp [itemStart, List.replicate_succ, List.isPrefixOf]

theorem item_lines {v : Value} (inline : v.Throughout Inline Inline) :
    (linesOf (' ' :: ' ' :: '-' :: nodeChars 2 true v)).filter isOuter = [] ∧
      (linesOf (' ' :: ' ' :: '-' :: nodeChars 2 true v)).countP itemStart.isPrefixOf = 1 := by
  obtain ⟨first, more, lines, blanks⟩ := linesOf_item inline
  rw [lines]
  constructor
  · rw [List.filter_eq_nil_iff]
    refine List.forall_mem_cons.mpr ⟨by simp [isOuter, itemStart], fun line member => ?_⟩
    simp [(indented_line (n := 1) (blanks line member)).1]
  · have none : more.countP itemStart.isPrefixOf = 0 := by
      rw [List.countP_eq_zero]
      intro line member
      simp [(indented_line (n := 1) (blanks line member)).2]
    rw [List.countP_cons_of_pos (by simp), none]

theorem section_lines {name : String} (inline : '\n' ∉ name.toList)
    (outer : isOuter (name.toList ++ [':']) = true) {vs : List Value}
    (items : ∀ v ∈ vs, v.Throughout Inline Inline) :
    (linesOf (sectionChars name vs)).filter isOuter = [name.toList ++ [':']] ∧
      (linesOf (sectionChars name vs)).countP itemStart.isPrefixOf = vs.length := by
  rw [linesOf_sectionChars inline]
  constructor
  · rw [List.filter_cons_of_pos outer, List.filter_flatMap, List.flatMap_eq_nil_iff.mpr]
    exact fun v member => (item_lines (items v member)).1
  · have apart : itemStart.isPrefixOf (name.toList ++ [':']) = false := by
      rw [← Bool.not_eq_true, List.isPrefixOf_iff_prefix]
      rintro ⟨rest, eq⟩
      rw [← eq] at outer
      simp [isOuter, itemStart] at outer
    have one : vs.map (List.countP itemStart.isPrefixOf ∘ fun v =>
        linesOf (' ' :: ' ' :: '-' :: nodeChars 2 true v)) = vs.map fun _ => 1 :=
      List.map_congr_left fun v member => (item_lines (items v member)).2
    rw [List.countP_cons_of_neg (by simp [apart]), List.countP_flatMap, one]
    simp

end GatewayFlow.Yaml

namespace GatewayFlow.Document

open GatewayFlow.Yaml

/-- The keys of the outermost mapping stand in front of their colons, without quotes. -/
theorem keyChars_name : ∀ name ∈ "_format_version" :: sectionOrder,
    keyChars 0 (.text name) = name.toList ++ [':'] ∧ isSimpleKey (.text name) = true := by
  decide

/-- What sections are written as, one after another. -/
theorem entriesChars_sections {parts : List (String × List Value)}
    (named : ∀ part ∈ parts, part.1 ∈ sectionOrder ∧ part.2 ≠ []) :
    entriesChars 0 (parts.map fun part => (.text part.1, .list part.2)) =
      parts.flatMap fun part => '\n' :: sectionChars part.1 part.2 := by
  rw [entriesChars_eq, List.flatMap_map]
  refine List.flatMap_congr fun part member => ?_
  obtain ⟨name, vs⟩ := part
  obtain ⟨known, nonempty⟩ := named _ member
  obtain ⟨key, simple⟩ := keyChars_name name (List.mem_cons_of_mem _ known)
  obtain ⟨v, rest, rfl⟩ := List.exists_cons_of_ne_nil nonempty
  simp [key, simple, nodeChars, sectionChars, itemsChars, newline]

/-- The sections of the rendered data. -/
def renderedSections (d : Document) : List (String × List Value) :=
  d.presentSections.map fun part => (part.1, part.2.map Sanitize.value)

theorem inline_rendered (d : Document) : d.rendered.Throughout Inline Inline := by
  refine (d.isPlain_rendered.throughout d.isClean_rendered).imp ?_ ?_
  · rintro k ⟨⟨t, rfl⟩, clean⟩
    exact inline_of_isClean trivial clean
  · exact fun s ⟨isPlain, clean⟩ => inline_of_isClean isPlain clean

theorem rendered_sections (d : Document) : d.rendered =
    .mapping ((.text "_format_version", .text (Sanitize.text d.formatVersion)) ::
      d.renderedSections.map fun part => (.text part.1, .list part.2)) := by
  rw [rendered_eq, renderedSections, List.map_map]
  rfl

theorem renderedSections_named (d : Document) :
    ∀ part ∈ d.renderedSections, part.1 ∈ sectionOrder ∧ part.2 ≠ [] := by
  refine List.forall_mem_map.mpr fun part member => ?_
  obtain ⟨known, nonempty⟩ := d.presentSections_named.1 part member
  exact ⟨known, by simpa using nonempty⟩

theorem inline_renderedSections (d : Document) :
    ∀ part ∈ d.renderedSections, ∀ v ∈ part.2, v.Throughout Inline Inline := by
  have inline := d.inline_rendered
  rw [rendered_sections, Value.throughout_mapping] at inline
  intro part member
  rw [← Value.throughout_list]
  exact inline.2 _ (List.mem_cons_of_mem _ (List.mem_map_of_mem member))

theorem name_isOuter : ∀ name ∈ sectionOrder,
    '\n' ∉ name.toList ∧ isOuter (name.toList ++ [':']) = true := by
  decide

/-- The YAML text of a document: the line of the format marker, then its sections. -/
theorem serialize_yaml (d : Document) : ∃ version, '\n' ∉ version ∧
    (d.serialize .yaml).toList = "_format_version: ".toList ++ version ++
      d.renderedSections.flatMap (fun part => '\n' :: sectionChars part.1 part.2) ++ ['\n'] := by
  obtain ⟨key, simple⟩ := keyChars_name "_format_version" (by simp)
  refine ⟨scalarChars 2 (.text (Sanitize.text d.formatVersion)), ?_, ?_⟩
  · have inline := d.inline_rendered
    rw [rendered_sections, Value.throughout_mapping] at inline
    exact (Value.throughout_scalar _).mp (inline.2 _ List.mem_cons_self) 2
  · rw [serialize, OutputFormat.render, render, String.toList_ofList, rendered_sections,
      documentChars, key, simple, entriesChars_sections d.renderedSections_named, nodeChars]
    simp

/-- The lines of a document's YAML text: without indentation stand the format marker and then the
names of the sections that have entries, in their fixed order, and as many lines start with an
indicator behind two blanks as there are entries. -/
theorem yaml_lines (d : Document) : ∃ lines version,
    (d.serialize .yaml).toList.splitOn '\n' = lines ++ [[]] ∧
      (lines.filter fun line => line.head? != some ' ') =
        ("_format_version: ".toList ++ version) :: d.sections.map (fun name =>
          name.toList ++ [':']) ∧
      d.sections.Sublist sectionOrder ∧
      lines.countP "  - ".toList.isPrefixOf = d.entryCount := by
  obtain ⟨version, inline, text⟩ := d.serialize_yaml
  have front : linesOf ("_format_version: ".toList ++ version) =
      ["_format_version: ".toList ++ version] := by
    refine List.splitOn_eq_singleton ?_
    rw [List.mem_append, not_or]
    exact ⟨by decide, inline⟩
  have sections : ∀ part ∈ d.renderedSections,
      (linesOf (sectionChars part.1 part.2)).filter isOuter = [part.1.toList ++ [':']] ∧
        (linesOf (sectionChars part.1 part.2)).countP itemStart.isPrefixOf = part.2.length := by
    intro part member
    obtain ⟨newline, outer⟩ := name_isOuter part.1 (d.renderedSections_named part member).1
    exact section_lines newline outer (d.inline_renderedSections part member)
  refine ⟨("_format_version: ".toList ++ version) :: d.renderedSections.flatMap fun part =>
    linesOf (sectionChars part.1 part.2), version, ?_, ?_, d.presentSections_named.2, ?_⟩
  · -- The lines of the sections follow one another, as each section starts with a newline.
    rw [text, List.splitOn_append_cons_self]
    exact congrArg (· ++ [[]]) ((linesOf_append_flatMap _ d.renderedSections _).trans
      (congrArg (· ++ _) front))
  · -- Of each section only the line of its name has no indentation.
    have names : (d.renderedSections.flatMap fun part =>
        (linesOf (sectionChars part.1 part.2)).filter isOuter) =
        d.renderedSections.flatMap fun part => [part.1.toList ++ [':']] :=
      List.flatMap_congr fun part member => (sections part member).1
    rw [List.filter_cons_of_pos rfl]
    refine congrArg (_ :: ·) ?_
    rw [List.filter_flatMap]
    refine names.trans ?_
    simp [renderedSections, Document.sections, ← List.map_eq_flatMap]
  · -- Each section has as many such lines as entries.
    have counts : (d.renderedSections.map (List.countP itemStart.isPrefixOf ∘ fun part =>
        linesOf (sectionChars part.1 part.2))) = d.renderedSections.map fun part => part.2.length :=
      List.map_congr_left fun part member => (sections part member).2
    rw [List.countP_cons_of_neg Bool.false_ne_true, List.countP_flatMap]
    refine (congrArg List.sum counts).trans ?_
    rw [← d.sum_presentSections]
    simp [renderedSections, Function.comp_def]

end GatewayFlow.Document
