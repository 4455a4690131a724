import ReviewStream.Error
import ReviewStream.Json.Reader
import ReviewStream.Text.Pieces

/-!
# The query command

A command that lists changes, one JSON object per row, and a row of statistics.

* `QueryOptions.command`: the command.
* `readChanges?`: the changes of its output.
* `versionOf`: the version in the output of the version command.
-/

namespace ReviewStream

/-- What a query lists besides the changes themselves. -/
structure QueryOptions where
  patchSets : Bool
  currentPatchSet : Bool
  files : Bool
  comments : Bool
  commitMessage : Bool
deriving DecidableEq

namespace QueryOptions

/-- Nothing but the changes. -/
def plain : QueryOptions := ⟨false, false, false, false, false⟩

/-- The options that are set, in their order. -/
def flags (o : QueryOptions) : List String :=
  [(o.patchSets, "--patch-sets"), (o.currentPatchSet, "--current-patch-set"),
    (o.files, "--files"), (o.comments, "--comments"),
    (o.commitMessage, "--commit-message")].filterMap fun (on, flag) =>
      if on then some flag else none

/-- The command for a query. -/
def command (o : QueryOptions) (query : String) : String :=
  "gerrit query --format=JSON" ++ String.join (o.flags.map (" " ++ ·)) ++ " " ++ query

end QueryOptions

/-- Whether a row holds statistics. -/
def isStatistics (row : Json) : Bool :=
  row.textAt? "type" == some "stats"

/-- The value of a row that is not blank. -/
def readRow? (row : List Char) : Except DecodeError Json :=
  match Json.readChars? row with
  | none => .error .syntaxFault
  | some v => if v.isObject then .ok v else .error .notAnObject

/-- The changes of a query's output: its rows but for the statistics; blank rows are passed over,
and the first bad row is the error. -/
def readChanges? (output : String) : Except DecodeError (List Json) :=
  let rows := ((Text.rows output.toList).map Text.trim).filter (!·.isEmpty)
  (rows.mapM readRow?).map fun vs => vs.filter (!isStatistics ·)

/-- What the version command writes in front of the version. -/
def versionMark : String := "gerrit version "

/-- The version in the output of the version command. -/
def versionOf (output : String) : String :=
  match Text.afterPiece? versionMark.toList output.toList with
  | some version => String.ofList (Text.trim version)
  | none => Text.trimmed output

end ReviewStream
