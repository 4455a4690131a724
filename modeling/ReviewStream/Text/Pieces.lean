import ReviewStream.Text.Blank

/-!
# Cutting texts

Cutting a list of characters (or octets) at separators and searching it for a piece.  Everything
here is structural recursion on the list.

* `cutAt`: the text before and after the first separator.
* `splitAll`: the pieces between all separators.
* `afterPiece?`: what follows the first occurrence of a given piece.
* `rows`: the lines of a text, ended by a line feed or by the two characters CR LF.
-/

namespace ReviewStream.Text

variable {α : Type} [DecidableEq α]

/-- The text before the first `sep` and the text after it, if there is one. -/
def cutAt (sep : α) : List α → Option (List α × List α)
  | [] => none
  | x :: xs =>
    if x = sep then some ([], xs)
    else (cutAt sep xs).map fun (before, after) => (x :: before, after)

/-- The text before the first `sep`, or all of it. -/
def before (sep : α) (xs : List α) : List α :=
  xs.takeWhile (· ≠ sep)

/-- The pieces between separators; a text without separator is one piece. -/
def splitAll (sep : α) : List α → List (List α)
  | [] => [[]]
  | x :: xs =>
    if x = sep then [] :: splitAll sep xs
    else match splitAll sep xs with
      | [] => [[x]]
      | piece :: pieces => (x :: piece) :: pieces

/-- What follows the first occurrence of `piece`. -/
def afterPiece? (piece : List α) : List α → Option (List α)
  | [] => if piece.isEmpty then some [] else none
  | x :: xs =>
    if piece.isPrefixOf (x :: xs) then some ((x :: xs).drop piece.length) else afterPiece? piece xs

/-- Whether `piece` occurs in a text. -/
def hasPiece (piece xs : List α) : Bool :=
  (afterPiece? piece xs).isSome

/-- Drops one carriage return at the end. -/
def dropReturn (cs : List Char) : List Char :=
  if cs.getLast? = some '\r' then cs.dropLast else cs

/-- The lines of a text: each ends at a line feed, with a carriage return before it dropped; what
follows the last line feed is a line unless it is empty, and keeps its carriage return. -/
def rows (cs : List Char) : List (List Char) :=
  let pieces := splitAll '\n' cs
  let last := pieces.getLastD []
  pieces.dropLast.map dropReturn ++ (if last.isEmpty then [] else [last])

/-- Puts a separator between texts. -/
def joined (sep : String) (parts : List String) : String :=
  sep.intercalate parts

/-- Whether a text begins with another. -/
def startsWith (start s : String) : Bool :=
  start.toList.isPrefixOf s.toList

/-- Whether a text ends with another. -/
def endsWith (ending s : String) : Bool :=
  ending.toList.isSuffixOf s.toList

end ReviewStream.Text
