import Turnstile.Log.Record
import Turnstile.Text.Basic
/-!
# The span log file

Batches of records are appended to a file, each batch in one go. An append that fails may leave any
part of its bytes behind; its records are not counted as exported.
-/
namespace Turnstile.Log

/-- What becomes of an append. -/
inductive Append
  | done
  /-- It fails after so many bytes. -/
  | cut (length : Nat)
deriving DecidableEq, Repr

/-- A file that is appended to: what it holds, and what becomes of the next appends. Those after that
succeed. -/
structure LogFile where
  content : Bytes
  appends : List Append

namespace LogFile

/-- A file to which every append succeeds. -/
def ofContent (content : Bytes) : LogFile := ⟨content, []⟩

/-- Appends bytes, and tells whether all of them were written. -/
def append (f : LogFile) (bytes : Bytes) : Bool × LogFile :=
  match f.appends with
  | [] => (true, ⟨f.content ++ bytes, []⟩)
  | .done :: rest => (true, ⟨f.content ++ bytes, rest⟩)
  | .cut n :: rest => (false, ⟨f.content ++ bytes.take n, rest⟩)

end LogFile

/-! ## Opening -/

/-- Why a file cannot be opened with the directories above it. -/
inductive OpenError
  /-- A plain file stands where its directory would be. -/
  | alreadyExists
  /-- A plain file stands where a directory above that would be. -/
  | notADirectory
deriving DecidableEq, Repr

/-- The name of the fault. -/
def OpenError.name : OpenError → String
  | .alreadyExists => "AlreadyExists"
  | .notADirectory => "NotADirectory"

/-- The names on the way to a path. -/
def stepsOf (path : String) : List (List Char) :=
  (Text.pieces '/' path.toList).filter fun step => !step.isEmpty && step ≠ ['.']

/-- What keeps a path from being opened where there are only these plain files. -/
def openError? (plainFiles : List String) (path : String) : Option OpenError :=
  let directory := (stepsOf path).dropLast
  plainFiles.findSome? fun file =>
    let blocker := stepsOf file
    if blocker = directory && !directory.isEmpty then some .alreadyExists
    else if blocker.isPrefixOf directory && !blocker.isEmpty then some .notADirectory
    else none

/-! ## Exporting -/

/-- An open span log. -/
structure Exporter where
  file : LogFile
  /-- How many records have been exported since it was opened. -/
  exported : Nat

namespace Exporter

/-- The log at its opening. -/
def ofFile (file : LogFile) : Exporter := ⟨file, 0⟩

/-- Appends a batch. Gives how many records went out, or none when the append failed. -/
def exportBatch (e : Exporter) (batch : List Record) : Option Nat × Exporter :=
  if batch.isEmpty then (some 0, e)
  else
    match e.file.append (batch.flatMap Record.line) with
    | (true, file) => (some batch.length, ⟨file, e.exported + batch.length⟩)
    | (false, file) => (none, { e with file := file })

end Exporter
end Turnstile.Log
