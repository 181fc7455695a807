/-
Paths as the parts of their text between slashes.
-/

import Rv32Image.Storage.Fault

namespace Rv32Image

inductive Segment where
  | here
  | up
  | name (text : String)
deriving DecidableEq, Repr

structure Path where
  rooted : Bool
  segments : List Segment
  /-- The text ends in a slash. -/
  closed : Bool
deriving DecidableEq, Repr

def splitAtSlashes : List Char → List (List Char)
  | [] => [[]]
  | character :: rest =>
      if character = '/' then
        [] :: splitAtSlashes rest
      else
        match splitAtSlashes rest with
        | [] => [[character]]
        | part :: parts => (character :: part) :: parts

def Segment.ofPart? : List Char → Option Segment
  | [] => none
  | ['.'] => some .here
  | ['.', '.'] => some .up
  | characters => some (.name (String.ofList characters))

namespace Path

def lengthLimit : Nat := 4096

def nameLimit : Nat := 255

def ofText (text : String) : Path where
  rooted := text.toList.head? == some '/'
  segments := (splitAtSlashes text.toList).filterMap Segment.ofPart?
  closed := text.toList.getLast? == some '/'

def parse (text : String) : Except FileFault Path :=
  if '\x00' ∈ text.toList then
    .error .nulInName
  else if text.isEmpty then
    .error .notFound
  else if lengthLimit ≤ text.utf8ByteSize then
    .error .nameTooLong
  else
    .ok (ofText text)

def steps (path : Path) : List Segment :=
  if path.closed then path.segments ++ [.here] else path.segments

/-- A dot counts as a component only at the front of a path without a root. -/
def isComponent (path : Path) (index : Nat) : Bool :=
  path.segments[index]? != some .here || (index == 0 && !path.rooted)

/-- The path and then the directories above it. -/
def lineage (path : Path) : List Path :=
  let ends := (List.range path.segments.length).filter path.isComponent
  match ends.reverse with
  | [] => []
  | _ :: shorter =>
      path :: shorter.map fun index =>
        { path with segments := path.segments.take (index + 1), closed := false }

end Path

end Rv32Image
