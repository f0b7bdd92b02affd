import GatewayFlow.Yaml.Layout

/-!
# Trees of nodes

The nodes that tokens describe: scalars, sequences and mappings with their anchors and tags, and
aliases of other nodes. `Tree.expand?` puts the nodes in place of their aliases.
-/
namespace GatewayFlow.Yaml

/-- What stands in front of a node. -/
structure Marks where
  anchor : Option String := none
  /-- The whole name of the tag. -/
  tag : Option String := none
deriving DecidableEq, Repr

inductive Tree
  | alias (name : String)
  | scalar (marks : Marks) (plain : Bool) (text : String)
  | sequence (marks : Marks) (items : List Tree)
  | mapping (marks : Marks) (entries : List (Tree × Tree))
deriving Repr

abbrev Handles := List (String × String)

def coreHandles : Handles := [("!", "!"), ("!!", coreStart)]

namespace TagName

/-- The whole name of a tag, when its handle is known. -/
def name? (handles : Handles) : TagName → Option String
  | .full name => some name
  | .short handle suffix => (handles.lookup handle).map (· ++ suffix)

end TagName

namespace Tree

def absent (marks : Marks) : Tree := .scalar marks true ""

/-- The anchor and the tag in front of a node, in either order, and what follows them. -/
def readMarks? (handles : Handles) : List Token → Option (Marks × List Token)
  | .anchor a :: .tag t :: ts => (t.name? handles).map fun tag => (⟨some a, some tag⟩, ts)
  | .tag t :: .anchor a :: ts => (t.name? handles).map fun tag => (⟨some a, some tag⟩, ts)
  | .anchor a :: ts => some (⟨some a, none⟩, ts)
  | .tag t :: ts => (t.name? handles).map fun tag => (⟨none, some tag⟩, ts)
  | ts => some ({}, ts)

/-- Whether one of the given tokens comes next, so that a node is absent. -/
def isAbsent (closers : List Token) : List Token → Bool
  | [] => false
  | t :: _ => closers.contains t

def afterComma? : List Token → Option (List Token)
  | .flowEntry :: ts => some ts
  | _ => none

mutual

/-- One node and the tokens after it. Inside brackets there are no blocks; a list of items that its
indentation does not show may only be the key or the value of a block mapping. -/
def node? (handles : Handles) (fuel : Nat) (inBlock listAllowed : Bool) (ts : List Token) :
    Option (Tree × List Token) :=
  match fuel with
  | 0 => none
  | fuel + 1 =>
    match ts with
    | .alias name :: ts => some (.alias name, ts)
    | ts => do
      let (marks, ts) ← readMarks? handles ts
      match ts with
      | .scalar plain text :: ts => some (.scalar marks plain text, ts)
      | .flowSequenceStart :: ts =>
        (flowItems? handles fuel true ts).map fun (items, ts) => (.sequence marks items, ts)
      | .flowMappingStart :: ts =>
        (flowEntries? handles fuel true ts).map fun (entries, ts) => (.mapping marks entries, ts)
      | ts =>
        -- Marks alone make a node without a value; without them there is none.
        let missing := if marks = {} then none else some (absent marks, ts)
        match ts with
        | .blockEntry :: _ =>
          if listAllowed then
            (listItems? handles fuel ts).map fun (items, ts) => (.sequence marks items, ts)
          else missing
        | .blockSequenceStart :: rest =>
          if inBlock then
            (blockItems? handles fuel rest).map fun (items, ts) => (.sequence marks items, ts)
          else missing
        | .blockMappingStart :: rest =>
          if inBlock then
            (blockEntries? handles fuel rest).map fun (entries, ts) => (.mapping marks entries, ts)
          else missing
        | _ => missing

/-- A node of a block, absent before the given tokens. -/
def blockNode? (handles : Handles) (fuel : Nat) (listAllowed : Bool) (closers ts : List Token) :
    Option (Tree × List Token) :=
  match fuel with
  | 0 => none
  | fuel + 1 =>
    if isAbsent closers ts then some (absent {}, ts) else node? handles fuel true listAllowed ts

/-- A node inside brackets, absent before the given tokens. -/
def flowNode? (handles : Handles) (fuel : Nat) (closers ts : List Token) :
    Option (Tree × List Token) :=
  match fuel with
  | 0 => none
  | fuel + 1 =>
    if isAbsent closers ts then some (absent {}, ts) else node? handles fuel false false ts

/-- The items of a block up to its end. -/
def blockItems? (handles : Handles) (fuel : Nat) (ts : List Token) :
    Option (List Tree × List Token) :=
  match fuel with
  | 0 => none
  | fuel + 1 =>
    match ts with
    | .blockEnd :: ts => some ([], ts)
    | .blockEntry :: ts => do
      let (item, ts) ← blockNode? handles fuel false [.blockEntry, .blockEnd] ts
      let (items, ts) ← blockItems? handles fuel ts
      some (item :: items, ts)
    | _ => none

/-- The items that stand in the column of the block around them. -/
def listItems? (handles : Handles) (fuel : Nat) (ts : List Token) :
    Option (List Tree × List Token) :=
  match fuel with
  | 0 => none
  | fuel + 1 =>
    match ts with
    | .blockEntry :: ts => do
      let (item, ts) ← blockNode? handles fuel false [.blockEntry, .key, .value, .blockEnd] ts
      let (items, ts) ← listItems? handles fuel ts
      some (item :: items, ts)
    | ts => some ([], ts)

/-- The value of a block mapping, absent without a mark. -/
def blockValue? (handles : Handles) (fuel : Nat) (ts : List Token) : Option (Tree × List Token) :=
  match fuel with
  | 0 => none
  | fuel + 1 =>
    match ts with
    | .value :: ts => blockNode? handles fuel true [.key, .value, .blockEnd] ts
    | ts => some (absent {}, ts)

/-- The entries of a block up to its end. -/
def blockEntries? (handles : Handles) (fuel : Nat) (ts : List Token) :
    Option (List (Tree × Tree) × List Token) :=
  match fuel with
  | 0 => none
  | fuel + 1 =>
    match ts with
    | .blockEnd :: ts => some ([], ts)
    | .key :: ts => do
      let (key, ts) ← blockNode? handles fuel true [.key, .value, .blockEnd] ts
      let (value, ts) ← blockValue? handles fuel ts
      let (entries, ts) ← blockEntries? handles fuel ts
      some ((key, value) :: entries, ts)
    | _ => none

/-- The value of an entry inside brackets, absent without a mark. -/
def flowValue? (handles : Handles) (fuel : Nat) (close : Token) (ts : List Token) :
    Option (Tree × List Token) :=
  match fuel with
  | 0 => none
  | fuel + 1 =>
    match ts with
    | .value :: ts => flowNode? handles fuel [.flowEntry, close] ts
    | ts => some (absent {}, ts)

/-- An item between brackets; an entry of a mapping may stand alone as an item. -/
def flowItem? (handles : Handles) (fuel : Nat) (ts : List Token) : Option (Tree × List Token) :=
  match fuel with
  | 0 => none
  | fuel + 1 =>
    match ts with
    | .key :: ts => do
      let (key, ts) ← flowNode? handles fuel [.value, .flowEntry, .flowSequenceEnd] ts
      let (value, ts) ← flowValue? handles fuel .flowSequenceEnd ts
      some (.mapping {} [(key, value)], ts)
    | ts => node? handles fuel false false ts

/-- The items up to the closing bracket; all but the first come after a comma. -/
def flowItems? (handles : Handles) (fuel : Nat) (first : Bool) (ts : List Token) :
    Option (List Tree × List Token) :=
  match fuel with
  | 0 => none
  | fuel + 1 =>
    match ts with
    | .flowSequenceEnd :: ts => some ([], ts)
    | .flowEntry :: .flowSequenceEnd :: ts => if first then none else some ([], ts)
    | ts => do
      let ts ← if first then some ts else afterComma? ts
      let (item, ts) ← flowItem? handles fuel ts
      let (items, ts) ← flowItems? handles fuel false ts
      some (item :: items, ts)

/-- An entry between braces; a key may stand alone. -/
def flowEntry? (handles : Handles) (fuel : Nat) (ts : List Token) :
    Option ((Tree × Tree) × List Token) :=
  match fuel with
  | 0 => none
  | fuel + 1 =>
    match ts with
    | .key :: ts => do
      let (key, ts) ← flowNode? handles fuel [.value, .flowEntry, .flowMappingEnd] ts
      let (value, ts) ← flowValue? handles fuel .flowMappingEnd ts
      some ((key, value), ts)
    | ts => (node? handles fuel false false ts).map fun (key, ts) => ((key, absent {}), ts)

/-- The entries up to the closing brace; all but the first come after a comma. -/
def flowEntries? (handles : Handles) (fuel : Nat) (first : Bool) (ts : List Token) :
    Option (List (Tree × Tree) × List Token) :=
  match fuel with
  | 0 => none
  | fuel + 1 =>
    match ts with
    | .flowMappingEnd :: ts => some ([], ts)
    -- A comma may stand in front of the brace, unless nothing comes before it.
    | .flowEntry :: .flowMappingEnd :: ts => if first then none else some ([], ts)
    | ts => do
      let ts ← if first then some ts else afterComma? ts
      let (entry, ts) ← flowEntry? handles fuel ts
      let (entries, ts) ← flowEntries? handles fuel false ts
      some (entry :: entries, ts)

end

/-- The nodes that anchors name; a node that is still being read is not there yet. -/
abbrev Anchors := List (String × Option Tree)

/-- Opens an anchor, which has to be a new one. -/
def openAnchor? (anchors : Anchors) : Option String → Option Anchors
  | none => some anchors
  | some name => if (anchors.lookup name).isSome then none else some ((name, none) :: anchors)

def bindAnchor (anchors : Anchors) (tree : Tree) : Option String → Anchors
  | none => anchors
  | some name => (name, some tree) :: anchors

mutual

/-- Puts nodes in place of their aliases; an alias stands behind the node that it names. -/
def expand? (anchors : Anchors) : Tree → Option (Tree × Anchors)
  | .alias name => do
    let tree ← (anchors.lookup name).join
    some (tree, anchors)
  | .scalar marks plain text => do
    let anchors ← openAnchor? anchors marks.anchor
    let tree := Tree.scalar marks plain text
    some (tree, bindAnchor anchors tree marks.anchor)
  | .sequence marks items => do
    -- While its own parts are expanded an anchor names no node yet, so none contains itself.
    let (items, anchors) ← expandItems? (← openAnchor? anchors marks.anchor) items
    let tree := Tree.sequence marks items
    some (tree, bindAnchor anchors tree marks.anchor)
  | .mapping marks entries => do
    let (entries, anchors) ← expandEntries? (← openAnchor? anchors marks.anchor) entries
    let tree := Tree.mapping marks entries
    some (tree, bindAnchor anchors tree marks.anchor)

def expandItems? (anchors : Anchors) : List Tree → Option (List Tree × Anchors)
  | [] => some ([], anchors)
  | item :: rest => do
    let (item, anchors) ← expand? anchors item
    let (rest, anchors) ← expandItems? anchors rest
    some (item :: rest, anchors)

def expandEntries? (anchors : Anchors) :
    List (Tree × Tree) → Option (List (Tree × Tree) × Anchors)
  | [] => some ([], anchors)
  | (key, value) :: rest => do
    let (key, anchors) ← expand? anchors key
    let (value, anchors) ← expand? anchors value
    let (rest, anchors) ← expandEntries? anchors rest
    some ((key, value) :: rest, anchors)

end

/-- The handles that directives explain; none when they contradict each other or are of another
version. -/
def handles? (versioned : Bool) (handles : Handles) : List Directive → Option Handles
  | [] => some (handles ++ coreHandles)
  | .version major :: rest =>
    if versioned || major != 1 then none else handles? true handles rest
  | .handle name meaning :: rest =>
    if (handles.lookup name).isSome then none
    else handles? versioned ((name, meaning) :: handles) rest
  | .unknown :: rest => handles? versioned handles rest

/-- The directives at the front, and what follows them. -/
def splitDirectives : List Token → List Directive × List Token
  | .directive d :: ts => (d :: (splitDirectives ts).1, (splitDirectives ts).2)
  | ts => ([], ts)

/-- A number of steps that is enough for the nodes of tokens. -/
def stepsFor (ts : List Token) : Nat :=
  3 * ts.length + 3

/-- The root node of a document and the tokens after it. -/
def root? (handles : Handles) (ts : List Token) : Option (Tree × List Token) :=
  match ts with
  | [] | .directive _ :: _ | .documentStart :: _ | .documentEnd :: _ => some (absent {}, ts)
  | ts => node? handles (stepsFor ts) true false ts

/-- The root node of the only document; tokens of which there are none write an absent node. -/
def ofTokens? (ts : List Token) : Option Tree := do
  let (tree, rest) ← match ts with
    | [] => some (absent {}, [])
    | .directive _ :: _ | .documentStart :: _ =>
      let (directives, ts) := splitDirectives ts
      let handles ← handles? false [] directives
      match ts with
      | .documentStart :: ts => root? handles ts
      | _ => none
    | ts => node? coreHandles (stepsFor ts) true false ts
  if rest.all (· == .documentEnd) then some tree else none

end Tree
end GatewayFlow.Yaml
