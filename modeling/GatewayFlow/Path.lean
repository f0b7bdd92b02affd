/-!
# Paths

Names of files, part by part. Empty parts and single dots mean nothing. The suffix of a name tells
the format of a file.
-/
namespace GatewayFlow

structure Path where
  /-- The slashes at the front, one or two, of a path that does not start where the program does. -/
  root : String
  parts : List String
deriving DecidableEq, Repr

namespace Path

/-- The slashes that count at the front of a text: two when there are exactly two. -/
def rootOf (cs : List Char) : String :=
  match (cs.takeWhile (· == '/')).length with
  | 0 => ""
  | 2 => "//"
  | _ => "/"

def ofText (text : String) : Path where
  root := rootOf text.toList
  parts := (text.splitOn "/").filter fun part => part != "" && part != "."

def text (p : Path) : String :=
  let text := p.root ++ "/".intercalate p.parts
  if text.isEmpty then "." else text

def name (p : Path) : String :=
  p.parts.getLastD ""

/-- The last dot of a name and what follows it; a dot at either end does not count. -/
def suffixOf (name : String) : String :=
  let cs := name.toList
  let ending := cs.reverse.takeWhile (· != '.')
  if ending.isEmpty || cs.length ≤ ending.length + 1 then ""
  else String.ofList ('.' :: ending.reverse)

/-- Whether the suffix is that of YAML files, in any case. -/
def isYaml (p : Path) : Bool :=
  let suffix := String.ofList ((suffixOf p.name).toList.map Char.toLower)
  suffix == ".yaml" || suffix == ".yml"

end Path
end GatewayFlow
