import NovelScript.Log.Level
import NovelScript.Log.Value
import NovelScript.Text.Ansi
import NovelScript.Text.Utf8
/-!
# Log handlers

A handler turns a record into one line of output. Two kinds exist.

The console handler writes `HH:MM:SS.mmm LVL message` and then ` key=value` for each
attribute: the logger's attributes first, then the record's. Opening a group adds `name.` to
the prefix of later keys; an attribute added to the logger takes the prefix it had then, and a
record attribute the prefix it has now. A group attribute is spread into its members under
`key.`; the empty attribute and empty groups write nothing. With colour on, the four named
levels are painted: debug grey, info cyan, warn yellow, error bold red.

The JSON handler writes one object per line: `time`, `level`, `source` when asked for, `msg`,
and then the attributes, each group a nested object. Logger attributes are written once, when
they are added, into a kept prefix of the object; groups opened before them are opened in that
prefix, and groups opened later are opened for each record that has attributes. A group that
would hold nothing is left out: its opening is taken back. Taking back text does not restore
the separator that the opening had reset, so a member after a taken-back group of only empty
attributes follows its predecessor with no comma, exactly as the text is kept.
-/

namespace NovelScript.Log

/-- A log record: its moment, level, message, attributes, and whether the place of the call
that made it is known. -/
structure Record where
  time : Moment
  level : Level
  message : ByteArray
  attrs : List Attr
  located : Bool

/-- A record with its attributes, empty groups left out. -/
def Record.make (time : Moment) (level : Level) (message : ByteArray) (attrs : List Attr)
    (located : Bool) : Record :=
  ⟨time, level, message, attrs.filter (!·.2.isEmptyGroup), located⟩

/-- The console handler: its level, whether it names the place of a call, whether it paints
level names, the logger's attributes with their keys already prefixed, and the prefix of keys
in the groups opened so far. -/
structure ConsoleHandler where
  level : Level
  source : Bool
  color : Bool
  attrs : List Attr := []
  pre : String := ""

namespace ConsoleHandler

mutual
/-- The console text of an attribute under key prefix `pre`. -/
def attrText (pre : String) : Attr → ByteArray
  | (k, .group ms) => attrsText (pre ++ k ++ ".") ms
  | (k, v) =>
    if k == "" && v.isNull then .empty
    else (" " ++ pre ++ k ++ "=").toUTF8 ++ v.consoleText

/-- The console text of attributes under key prefix `pre`, in order. -/
def attrsText (pre : String) : List Attr → ByteArray
  | [] => .empty
  | a :: rest => attrText pre a ++ attrsText pre rest
end

/-- The painting of each named level. -/
def levelPaint (l : Level) : List Nat :=
  if l = Level.debug then [Ansi.brightBlack]
  else if l = Level.info then [Ansi.cyan]
  else if l = Level.warn then [Ansi.yellow]
  else if l = Level.error then [Ansi.red, Ansi.bold]
  else []

/-- The line of a record. -/
def line (h : ConsoleHandler) (r : Record) : ByteArray :=
  let paint := levelPaint r.level
  let lvl := Ansi.paintIf (h.color && !paint.isEmpty) paint (Level.short r.level)
  (r.time.clock ++ " " ++ lvl ++ " ").toUTF8 ++ r.message ++ attrsText "" h.attrs ++
    attrsText h.pre r.attrs ++ (if h.source && r.located then " src=<src>" else "").toUTF8 ++
    "\n".toUTF8

/-- The handler with attributes added under the current prefix. -/
def withAttrs (h : ConsoleHandler) (as : List Attr) : ConsoleHandler :=
  { h with attrs := h.attrs ++ as.map fun (k, v) => (h.pre ++ k, v) }

/-- The handler inside one more group; the empty name opens none. -/
def withGroup (h : ConsoleHandler) (name : String) : ConsoleHandler :=
  if name == "" then h else { h with pre := h.pre ++ name ++ "." }

end ConsoleHandler

/-- The lower-case hex digit of `n < 16`. -/
def hexChar (n : Nat) : Char := Quoted.hexDigit n

/-- The JSON escape of the bytes of `bs` from `i` on, appended to `acc`: quote, backslash, line
feed, carriage return and tab get a backslash, other control bytes become `\u00hh`, a byte that
starts no well-formed sequence becomes the escape of U+FFFD, and the two Unicode line separators are
escaped; everything else stands for itself. -/
def escapeFrom (bs : ByteArray) (i : Nat) (acc : String) : String :=
  if i < bs.size then
    let b := Utf8.byteAt bs i
    if b < 0x80 then
      let piece :=
        if b == 0x22 then "\\\"" else if b == 0x5C then "\\\\"
        else if b == 0x0A then "\\n" else if b == 0x0D then "\\r" else if b == 0x09 then "\\t"
        else if b < 0x20 then "\\u00" ++ Quoted.hexDigits b.toNat 2
        else (Char.ofNat b.toNat).toString
      escapeFrom bs (i + 1) (acc ++ piece)
    else
      let (r, n) := Utf8.decodeAt bs i
      let piece :=
        if r == Utf8.replacement && n == 1 then "\\ufffd"
        else if r == 0x2028 || r == 0x2029 then "\\u" ++ Quoted.hexDigits r 4
        else (Char.ofNat r).toString
      escapeFrom bs (i + max n 1) (acc ++ piece)
  else acc
termination_by bs.size - i
decreasing_by all_goals omega

/-- The JSON string literal of bytes. -/
def jsonString (bs : ByteArray) : String := "\"" ++ escapeFrom bs 0 "" ++ "\""

/-- The JSON form of a value that is not a group. -/
def Value.jsonForm : Value → String
  | .text b => jsonString b
  | .int i => toString i
  | .nat n => toString n
  | .float x => jsonNumber x
  | .bool b => if b then "true" else "false"
  | .time t => "\"" ++ t.rfc3339 true ++ "\""
  | .duration d => toString d
  | .group _ => "\x7b\x7d"  -- groups are written member by member by `JsonText.attr`
  | .json j => jsonText j
  | .failure b => jsonString b

/-- JSON text being written, and the separator that goes before its next member. -/
structure JsonText where
  out : String
  sep : String

namespace JsonText

/-- The text with the key of a new member written. -/
def key (w : JsonText) (k : String) : JsonText :=
  ⟨w.out ++ w.sep ++ jsonString k.toUTF8 ++ ":", ","⟩

/-- The text with raw text appended. -/
def raw (w : JsonText) (s : String) : JsonText := { w with out := w.out ++ s }

/-- The text with an object opened under key `k`. -/
def openGroup (w : JsonText) (k : String) : JsonText := ⟨(w.key k).out ++ "\x7b", ""⟩

/-- The text with the innermost object closed. -/
def closeGroup (w : JsonText) : JsonText := ⟨w.out ++ "\x7d", ","⟩

/-- The text with each of the named objects opened in turn. -/
def openAll (w : JsonText) (names : List String) : JsonText := names.foldl openGroup w

mutual
/-- The text with an attribute written, and whether it wrote a member. A group with members is
opened (inline when its key is empty), filled, and taken back if none of its members wrote
anything. -/
def attr (w : JsonText) : Attr → JsonText × Bool
  | (_, .group []) => (w, true)
  | (k, .group ms) =>
    let (filled, wrote) := attrs (if k == "" then w else w.openGroup k) ms
    if !wrote then ({ filled with out := w.out }, false)
    else (if k == "" then filled else filled.closeGroup, true)
  | (k, v) =>
    if k == "" && v.isNull then (w, false) else ((w.key k).raw v.jsonForm, true)

/-- The text with attributes written in order, and whether any wrote a member. -/
def attrs (w : JsonText) : List Attr → JsonText × Bool
  | [] => (w, false)
  | a :: rest =>
    let (w1, b1) := attr w a
    let (w2, b2) := attrs w1 rest
    (w2, b1 || b2)
end

end JsonText

/-- The JSON handler: its level, whether it names the place of a call, the kept text of the
logger's attributes, every group opened so far (outermost first), and how many of them the
kept text has opened. -/
structure JsonHandler where
  level : Level
  source : Bool
  pre : String := ""
  groups : List String := []
  opened : Nat := 0

namespace JsonHandler

/-- The separator after the kept text: none after an opening brace or an empty text. -/
def sepAfter (s : String) : String :=
  if s.isEmpty || s.back == '\x7b' then "" else ","

/-- The handler with attributes added. A list of only empty groups changes nothing; a list
whose attributes all write nothing leaves the kept text as it was. -/
def withAttrs (h : JsonHandler) (as : List Attr) : JsonHandler :=
  if as.all (·.2.isEmptyGroup) then h
  else
    let start : JsonText := ⟨h.pre, sepAfter h.pre⟩
    let (w, wrote) := JsonText.attrs (start.openAll (h.groups.drop h.opened)) as
    if wrote then { h with pre := w.out, opened := h.groups.length } else h

/-- The handler inside one more group. -/
def withGroup (h : JsonHandler) (name : String) : JsonHandler :=
  { h with groups := h.groups ++ [name] }

/-- The line of a record. -/
def line (h : JsonHandler) (r : Record) : String :=
  let w : JsonText := ⟨"\x7b", ""⟩
  let w := (w.key "time").raw ("\"" ++ r.time.rfc3339 true ++ "\"")
  let w := (w.key "level").raw (jsonString (Level.name r.level).toUTF8)
  let w := if h.source && r.located then (w.key "source").raw "\x7b\x7d" else w
  let w := (w.key "msg").raw (jsonString r.message)
  let w := if h.pre.isEmpty then w else ⟨w.out ++ w.sep ++ h.pre, sepAfter h.pre⟩
  let (w, closing) :=
    if r.attrs.isEmpty then (w, h.opened)
    else
      let (filled, wrote) := JsonText.attrs (w.openAll (h.groups.drop h.opened)) r.attrs
      if wrote then (filled, h.groups.length) else ({ filled with out := w.out }, h.opened)
  w.out ++ String.ofList (List.replicate closing '\x7d') ++ "\x7d\n"

end JsonHandler

/-- A handler of either kind. -/
inductive Handler where
  | console (h : ConsoleHandler)
  | json (h : JsonHandler)

namespace Handler

/-- The least level a handler passes. -/
def level : Handler → Level
  | console h => h.level
  | json h => h.level

/-- Whether a handler passes records of level `l`. -/
def enabled (h : Handler) (l : Level) : Bool := decide (h.level ≤ l)

/-- The handler with attributes added. -/
def withAttrs (as : List Attr) : Handler → Handler
  | console h => console (h.withAttrs as)
  | json h => json (h.withAttrs as)

/-- The handler inside one more group. -/
def withGroup (name : String) : Handler → Handler
  | console h => console (h.withGroup name)
  | json h => json (h.withGroup name)

/-- The line a handler writes for a record. -/
def line (r : Record) : Handler → ByteArray
  | console h => h.line r
  | json h => (h.line r).toUTF8

end Handler

end NovelScript.Log
