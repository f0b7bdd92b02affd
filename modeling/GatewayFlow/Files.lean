import GatewayFlow.Failure
import GatewayFlow.Path

/-!
# Files

The files and folders in the place where the program runs, and what keeps one from being read or
written.
-/
namespace GatewayFlow

/-- Why a file is not read or written. -/
inductive FileError
  | missing
  | notFolder
  | isFolder
deriving DecidableEq, Repr

namespace FileError

def number : FileError → Nat
  | .missing => 2
  | .notFolder => 20
  | .isFolder => 21

def reason : FileError → String
  | .missing => "No such file or directory"
  | .notFolder => "Not a directory"
  | .isFolder => "Is a directory"

def failure (e : FileError) (path : Path) : Failure :=
  .fileSystem e.number e.reason path.text

end FileError

/-- What a name stands for. -/
inductive Stored
  | folder
  | file (bytes : List Nat)
deriving DecidableEq, Repr

/-- The stored things by the parts of their names. -/
abbrev Files := List (List String × Stored)

namespace Files

/-- What parts of a name stand for; a folder need not be listed when something in it is. -/
def find? (files : Files) (parts : List String) : Option Stored :=
  match files.lookup parts with
  | some stored => some stored
  | none =>
    if parts.isEmpty || files.any fun entry => parts.isPrefixOf entry.1 then some .folder else none

/-- The name that is reached from a folder by further parts; two dots lead back to the folder
around it. -/
def walk (files : Files) (place : List String) : List String → Except FileError (List String)
  | [] => .ok place
  | part :: rest =>
    match files.find? place with
    | none => .error .missing
    | some (.file _) => .error .notFolder
    | some .folder =>
      if part = ".." then
        if place.isEmpty then .error .missing else walk files place.dropLast rest
      else walk files (place ++ [part]) rest

def at? (files : Files) (path : Path) : Except FileError Stored :=
  if path.root.isEmpty then do
    let place ← files.walk [] path.parts
    match files.find? place with
    | some stored => pure stored
    | none => .error .missing
  else .error .missing

def read (files : Files) (path : Path) : Except FileError (List Nat) := do
  match ← files.at? path with
  | .file bytes => pure bytes
  | .folder => .error .isFolder

def put (files : Files) (place : List String) (bytes : List Nat) : Files :=
  match files with
  | [] => [(place, .file bytes)]
  | (name, stored) :: rest =>
    if name = place then (place, .file bytes) :: rest else (name, stored) :: put rest place bytes

/-- The files after bytes are written to a path. -/
def write (files : Files) (path : Path) (bytes : List Nat) : Except FileError Files :=
  if path.root.isEmpty then do
    let place ← files.walk [] path.parts
    match files.find? place with
    | some .folder => .error .isFolder
    | _ => pure (files.put place bytes)
  else .error .missing

end Files
end GatewayFlow
