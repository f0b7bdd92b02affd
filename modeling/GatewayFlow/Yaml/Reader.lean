import GatewayFlow.Yaml.Tree

/-!
# Reading YAML

The data of the one document in a text. The tag of a node decides its type; without a tag a plain
scalar is what its form says. A mapping may take in the entries of others under the key `<<`; its
own entries go before theirs.
-/
namespace GatewayFlow.Yaml

/-- Why a text gives no data. -/
inductive Error
  | malformed
  | noDay (e : CalendarError)
  | noDigits (base : Nat)
deriving DecidableEq, Repr

def plainMeaning (text : String) : Plain :=
  (readPlain? text.toList).getD (.scalar (.text text))

def readTruth? (text : String) : Option Plain :=
  let word := String.ofList (text.toList.map Char.toLower)
  if trueWords.contains word then some (.scalar (.bool true))
  else if falseWords.contains word then some (.scalar (.bool false))
  else none

/-- The double of a form, of which a whole number is one too. -/
def readAnyDouble? (cs : List Char) : Option Plain :=
  match readDouble? cs with
  | some x => some (.scalar (.float x))
  | none =>
    match readInt? cs with
    | some (.scalar (.int i)) => some (.scalar (.float (.ofInt i)))
    | _ => none

/-- What a scalar with a tag of the core means, when its text has the form. -/
def coreMeaning? (name text : String) : Option Plain :=
  let cs := text.toList
  match name with
  | "str" => some (.scalar (.text text))
  | "null" => some (.scalar .null)
  | "bool" => readTruth? text
  | "int" => readInt? cs
  | "float" => readAnyDouble? cs
  | "timestamp" => (readDay? cs).map fun
    | .ok day => .scalar day
    | .error e => .noDay e
  | "merge" => some .merge
  | "value" => some .value
  | _ => none

def coreName? (tag : String) : Option String :=
  if tag.startsWith coreStart then some (String.ofList (tag.toList.drop coreStart.length))
  else none

def scalarMeaning? (marks : Marks) (plain : Bool) (text : String) : Option Plain :=
  match marks.tag with
  | none => some (if plain then plainMeaning text else .scalar (.text text))
  | some tag =>
    if tag = openTag then some (plainMeaning text)
    else (coreName? tag).bind fun name => coreMeaning? name text

/-- The scalar of a meaning; merging means something as a key only. -/
def Plain.toScalar : Option Plain → Except Error Scalar
  | some (.scalar s) => .ok s
  | some (.noDay e) => .error (.noDay e)
  | some (.noDigits base) => .error (.noDigits base)
  | some .merge | some .value | none => .error .malformed

/-- The type of a sequence or a mapping, by its tag. -/
def collectionName? (standard : String) (marks : Marks) : Option String :=
  match marks.tag with
  | none => some standard
  | some tag => if tag = openTag then some standard else coreName? tag

namespace Tree

/-- What a key means, when it is a scalar. -/
def keyMeaning? : Tree → Option Plain
  | .scalar marks plain text => scalarMeaning? marks plain text
  | _ => none

/-- The key of an entry; a lone equals sign is itself. -/
def key (tree : Tree) : Except Error Scalar :=
  match tree.keyMeaning? with
  | some .value => .ok (.text "=")
  | meaning => Plain.toScalar meaning

mutual

def value : Tree → Except Error Value
  | .alias _ => .error .malformed
  | .scalar marks plain text =>
    (Plain.toScalar (scalarMeaning? marks plain text)).map Value.scalar
  | .sequence marks items =>
    match collectionName? "seq" marks with
    | some "seq" => do
      let items ← values items
      pure (.list items)
    | some "omap" | some "pairs" => do
      let items ← pairs items
      pure (.list items)
    | _ => .error .malformed
  | .mapping marks entries =>
    match collectionName? "map" marks with
    | some "map" => do
      let (merged, own) ← parts entries
      pure (.mapping (Entries.ofList (merged ++ own)))
    | some "set" => do
      let (merged, own) ← parts entries
      pure (.list ((Entries.ofList (merged ++ own)).map fun entry => .scalar entry.1))
    | _ => .error .malformed

def values : List Tree → Except Error (List Value)
  | [] => pure []
  | item :: rest => do
    let item ← item.value
    let rest ← values rest
    pure (item :: rest)

def pairs : List Tree → Except Error (List Value)
  | [] => pure []
  | .mapping _ [(key, item)] :: rest => do
    let key ← key.value
    let item ← item.value
    let rest ← pairs rest
    pure (.list [key, item] :: rest)
  | _ :: _ => .error .malformed

/-- The entries that a mapping takes in, and its own. -/
def parts : List (Tree × Tree) → Except Error (List (Scalar × Value) × List (Scalar × Value))
  | [] => pure ([], [])
  | (key, item) :: rest =>
    -- What is merged in goes in front, so that own entries are written over it.
    if key.keyMeaning? = some .merge then do
      let more ← item.mergedEntries
      let (merged, own) ← parts rest
      pure (more ++ merged, own)
    else do
      let key ← key.key
      let item ← item.value
      let (merged, own) ← parts rest
      pure (merged, (key, item) :: own)

/-- The entries that a mapping takes in from a mapping or from a list of mappings, of which the
first one counts most. -/
def mergedEntries : Tree → Except Error (List (Scalar × Value))
  | .mapping _ entries => do
    let (merged, own) ← parts entries
    pure (merged ++ own)
  | .sequence _ items => mergedItems items
  | _ => .error .malformed

def mergedItems : List Tree → Except Error (List (Scalar × Value))
  | [] => pure []
  | .mapping _ entries :: rest => do
    let (merged, own) ← parts entries
    let more ← mergedItems rest
    pure (more ++ (merged ++ own))
  | _ :: _ => .error .malformed

end

end Tree

/-- The root node of a text, with nodes in place of their aliases. -/
def readTree? (cs : List Char) : Option Tree := do
  let tree ← Tree.ofTokens? (← tokens? cs)
  let (tree, _) ← tree.expand? []
  some tree

def read (text : String) : Except Error Value :=
  match readTree? text.toList with
  | some tree => tree.value
  | none => .error .malformed

end GatewayFlow.Yaml
