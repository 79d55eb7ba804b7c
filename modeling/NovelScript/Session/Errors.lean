import NovelScript.Compile.Context
import NovelScript.Json.Value
/-!
# Errors in answers

An error is answered as its kind and its message. The kind names the cause: a capacity of the
dictionary or the store, a limit of the context, a file that could not be read; every other
failure is of kind `Error`.
-/

namespace NovelScript

/-- The kind of a capacity error. -/
def CapacityError.kind : CapacityError → String
  | .dict _ => "DictFull"
  | .blob _ => "BlobFull"

/-- The kind of a context error. -/
def ContextError.kind : ContextError → String
  | .closed => "Closed"
  | .noActiveSource => "NoActiveSource"
  | .read _ (.tooLarge _) => "TooLarge"
  | .read _ (.missing _) => "ReadFailed"
  | .read _ (.failed _) => "Error"
  | .tooLarge _ _ => "TooLarge"
  | .tooManyUnits _ => "TooManyUnits"
  | .includeDepth _ => "IncludeDepth"
  | .recursiveInclude _ => "RecursiveInclude"
  | .unitInUse _ => "UnitInUse"
  | .notLoaded _ => "Error"
  | .builtins _ => "DictFull"

namespace View

/-- An error by kind and message. -/
def error (kind : String) (message : ByteArray) : Json :=
  .obj [("error", .str kind), ("message", .ofBytes message)]

/-- An error of the general kind. -/
def failure (message : String) : Json := error "Error" message.toUTF8

/-- A lexing error. -/
def lexError (e : LexError) : Json := error e.cause.kind e.message

/-- A context error. -/
def contextError (e : ContextError) : Json := error e.kind e.message

end View

end NovelScript
