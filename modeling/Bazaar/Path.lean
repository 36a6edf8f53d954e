import Bazaar.Text.Line

/-!
# Paths

Paths of files as lists of parts.  A resolved path has double dots at its front alone, and none if
it starts at the root.
-/

namespace Bazaar

/-- A path: how many slashes it starts with, none if it starts at the working directory, and its
parts. -/
structure Path where
  slashes : Nat := 0
  parts : List String
  deriving DecidableEq, Repr

namespace Path

/-- Reads a path; empty parts and single dots say nothing.  Two slashes at the start are kept,
more are one. -/
def ofString (s : String) : Path :=
  let slashes := (s.toList.takeWhile (· == '/')).length
  let parts := (Text.splitAt '/' s.toList).map String.ofList
  ⟨if 2 < slashes then 1 else slashes, parts.filter fun p => !p.isEmpty && p != "."⟩

/-- Whether a path starts at the root. -/
def isAbsolute (p : Path) : Bool := p.slashes != 0

/-- The text of a path. -/
def text (p : Path) : String :=
  let body := String.intercalate "/" p.parts
  if p.isAbsolute then String.ofList (List.replicate p.slashes '/') ++ body
  else if p.parts.isEmpty then "."
  else body

/-- The place that a part leads to from a resolved path. -/
def step (p : Path) (part : String) : Path :=
  if part != ".." then { p with parts := p.parts ++ [part] }
  else if !p.isAbsolute && p.parts.all (· == "..") then { p with parts := p.parts ++ [".."] }
  else { p with parts := p.parts.dropLast }

/-- Where a path starts. -/
def origin (p : Path) : Path := ⟨min p.slashes 1, []⟩

/-- Follows double dots to the directory above. -/
def resolve (p : Path) : Path :=
  p.parts.foldl step p.origin

/-- The path of something in a directory; what starts at the root is in none. -/
def inside (p : Path) (below : String) : Path :=
  let b := ofString below
  if b.isAbsolute then b else { p with parts := p.parts ++ b.parts }

/-- Whether a path leads through another one. -/
def isBelow (p ancestor : Path) : Bool :=
  p.slashes == ancestor.slashes && ancestor.parts.length < p.parts.length &&
    p.parts.take ancestor.parts.length == ancestor.parts

/-- Whether a resolved path stays in the working directory. -/
def staysInside (p : Path) : Bool :=
  !p.isAbsolute && p.parts.head? != some ".."

end Path

end Bazaar
