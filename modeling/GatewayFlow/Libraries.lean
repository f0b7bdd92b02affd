import GatewayFlow.Issue
import GatewayFlow.Text.Blank

/-!
# Libraries

What the program leaves to libraries: two texts that come with a refusal, and the reading of a
settings file. Statements about the program are general in them; `plain` are simple ones to run it
with.
-/
namespace GatewayFlow

/-- What the libraries of a run answer. A report may show more than its issues tell, the refused
data for one; as a run reports one refusal at most, some function of the issues gives what it
shows. -/
structure Libraries where
  /-- The report of issues. -/
  report : List Issue → String
  /-- What is wrong with a text that is no YAML. -/
  yamlError : String → String
  /-- The variables that the text of a settings file gives, in an environment. -/
  assignments : List (String × String) → String → List (String × String)

/-- A count with the plural of a noun where it is not one. -/
def counted (n : Nat) (noun : String) : String :=
  s!"{n} {noun}" ++ (if n = 1 then "" else "s")

def Step.text : Step → String
  | .field name => name
  | .item position => toString position

namespace Libraries

/-- The place of an issue on a line, unless it is the whole, and what is wrong on the next one. -/
def issueLines (issue : Issue) : String :=
  let place := if issue.path.isEmpty then "" else
    ".".intercalate (issue.path.map Step.text) ++ "\n"
  s!"{place}  {issue.cause.message} [type={issue.cause.label}]"

/-- The text between quotes, or all of it where there are none. -/
def unquoted (cs : List Char) : List Char :=
  match cs with
  | quote :: rest =>
    if (quote == '"' || quote == '\'') && rest.getLast? == some quote then rest.dropLast else cs
  | [] => []

/-- The variable that a line sets: its name, an equals sign and its value. Other lines, those behind
a number sign among them, set none. -/
def assignment? (line : List Char) : Option (String × String) :=
  let name := line.takeWhile (· != '=')
  if name.length = line.length || name.contains '#' then none
  else
    let value := unquoted (Text.trim (line.drop (name.length + 1)))
    some (String.ofList (Text.trim name), String.ofList value)

/-- Reports with a line that counts the issues and the lines of each, and settings files with a
variable on each line. -/
def plain : Libraries where
  report found :=
    counted found.length "validation error" ++ "\n" ++ "\n".intercalate (found.map issueLines)
  yamlError _ := "the text is no YAML"
  assignments _ text := (text.toList.splitOn '\n').filterMap assignment?

end Libraries
end GatewayFlow
