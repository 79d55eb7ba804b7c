import NovelScript.Text.Quoted
import NovelScript.Text.Bytes
/-!
# Log levels

A level is an integer severity: debug is -4, info 0, warn 4 and error 8, and every integer
between and beyond them is a level too. A record passes a logger whose level is at most its
own.

A level has two names. Its long name is the nearest named level at or below it, with the
distance as a signed offset when it is not zero (`INFO+3`, `DEBUG-4`, `ERROR+4`); levels below
info count from debug. Its short name, for console lines, is `DBG`, `INF`, `WRN` or `ERR` for
the four named levels and the long name otherwise.

A level name in a configuration is read without case and surrounding blanks; the empty name
means info and `warning` means warn.
-/

namespace NovelScript.Log

/-- A log level: an integer severity. -/
abbrev Level := Int

namespace Level

/-- The debug level. -/
def debug : Level := -4

/-- The info level. -/
def info : Level := 0

/-- The warn level. -/
def warn : Level := 4

/-- The error level. -/
def error : Level := 8

/-- The long name of a level: the named level at or below it and the signed distance. -/
def name (l : Level) : String :=
  let named (base : String) (d : Int) : String :=
    if d = 0 then base else base ++ (if d > 0 then "+" else "") ++ toString d
  if l < info then named "DEBUG" (l - debug)
  else if l < warn then named "INFO" (l - info)
  else if l < error then named "WARN" (l - warn)
  else named "ERROR" (l - error)

/-- The short name of a level on a console line. -/
def short (l : Level) : String :=
  if l = debug then "DBG" else if l = info then "INF" else if l = warn then "WRN"
  else if l = error then "ERR" else name l

/-- The level a name stands for, or the message that rejects it. -/
def parse (s : String) : Except String Level :=
  match Bytes.asciiLower (Bytes.trimText s) with
  | "debug" => .ok debug
  | "" | "info" => .ok info
  | "warn" | "warning" => .ok warn
  | "error" => .ok error
  | _ => .error ("unknown log level " ++ Quoted.quoteText s ++ " (expected debug|info|warn|error)")

end Level

end NovelScript.Log
