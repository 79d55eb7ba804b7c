import NovelScript.Text.Bytes
/-!
# Scrubbing answers

Some output depends on the machine that made it or the moment it ran: the place of a log
call in the program's own files, the clock, measured times. Answers write such pieces in a
fixed form, so that two runs answer alike:

* `src=` followed by a run of non-blank bytes becomes `src=<src>`;
* `"source":{` up to the next `}` becomes `"source":{}`;
* a clock time `HH:MM:SS.mmm` becomes `00:00:00.000`;
* `"time":"` up to the next quote becomes `"time":"-"`;
* `total ` followed by a number and ` ms` becomes `total N ms`;
* a padded duration, blanks then a number with two decimals and ` ms`, becomes ` N ms`;
* the number after a JSON key `duration_ms` or `total_ms`, also inside an escaped string,
  becomes `0`;
* `elapsed=` followed by a number and its unit becomes `elapsed=N`.

Each rule replaces the leftmost match, then looks on after it.
-/

namespace NovelScript.Scrub

/-- Whether a byte is blank: a space, tab, line feed, form feed or carriage return. -/
def isBlank (c : UInt8) : Bool := c == 0x20 || c == 0x09 || c == 0x0A || c == 0x0C || c == 0x0D

/-- The offset of the first blank byte at or after `i`, or the end. -/
def blankFrom (b : ByteArray) (i : Nat) : Nat :=
  match Bytes.findSet b [0x20, 0x09, 0x0A, 0x0C, 0x0D] i with
  | some j => j
  | none => b.size

/-- The call places of `b` from `i` on, each scrubbed, appended to `acc`. -/
def placesFrom (b : ByteArray) (i : Nat) (acc : ByteArray) : ByteArray :=
  if i < b.size then
    let tag := "src=".toUTF8
    if Bytes.occursAt b tag i && i + 4 < b.size && !isBlank (Utf8.byteAt b (i + 4)) then
      placesFrom b (max (blankFrom b (i + 4)) (i + 1)) (acc ++ "src=<src>".toUTF8)
    else placesFrom b (i + 1) (acc.push (Utf8.byteAt b i))
  else acc
termination_by b.size - i

/-- The source objects of `b` from `i` on, each emptied, appended to `acc`. -/
def objectsFrom (b : ByteArray) (i : Nat) (acc : ByteArray) : ByteArray :=
  if i < b.size then
    let tag := "\"source\":\x7b".toUTF8
    match (if Bytes.occursAt b tag i then Bytes.findSet b [0x7D] (i + tag.size) else none) with
    | some j => objectsFrom b (max (j + 1) (i + 1)) (acc ++ "\"source\":\x7b\x7d".toUTF8)
    | none => objectsFrom b (i + 1) (acc.push (Utf8.byteAt b i))
  else acc
termination_by b.size - i

/-- Whether a byte is a decimal digit. -/
def isDigit (c : UInt8) : Bool := 0x30 ≤ c && c ≤ 0x39

/-- Whether a clock time `HH:MM:SS.mmm` starts at `i`. -/
def clockAt (b : ByteArray) (i : Nat) : Bool :=
  i + 12 ≤ b.size && "dd:dd:dd.ddd".toUTF8.toList.zipIdx.all fun (c, k) =>
    let x := Utf8.byteAt b (i + k)
    if c == 0x64 then isDigit x else x == c

/-- The clock times of `b` from `i` on, each zeroed, appended to `acc`. -/
def clocksFrom (b : ByteArray) (i : Nat) (acc : ByteArray) : ByteArray :=
  if i < b.size then
    if clockAt b i then clocksFrom b (i + 12) (acc ++ "00:00:00.000".toUTF8)
    else clocksFrom b (i + 1) (acc.push (Utf8.byteAt b i))
  else acc
termination_by b.size - i

/-- `b` with every clock time zeroed. -/
def clock (b : ByteArray) : ByteArray := clocksFrom b 0 .empty

/-- The JSON times of `b` from `i` on, each blanked, appended to `acc`. -/
def timesFrom (b : ByteArray) (i : Nat) (acc : ByteArray) : ByteArray :=
  if i < b.size then
    let tag := "\"time\":\"".toUTF8
    match (if Bytes.occursAt b tag i then Bytes.findSet b [0x22] (i + tag.size) else none) with
    | some j => timesFrom b (max (j + 1) (i + 1)) (acc ++ "\"time\":\"-\"".toUTF8)
    | none => timesFrom b (i + 1) (acc.push (Utf8.byteAt b i))
  else acc
termination_by b.size - i

/-- `b` with the time of every JSON record blanked. -/
def times (b : ByteArray) : ByteArray := timesFrom b 0 .empty

/-- The end of the run of digits and points from `i` on. -/
def numberEnd (b : ByteArray) (i : Nat) : Nat :=
  (((List.range (b.size - i)).find? fun k =>
    let c := Utf8.byteAt b (i + k)
    !(isDigit c || c == 0x2E)).map (i + ·)).getD b.size

/-- The measured totals of `b` from `i` on, each written `N`, appended to `acc`. -/
def totalsFrom (b : ByteArray) (i : Nat) (acc : ByteArray) : ByteArray :=
  if i < b.size then
    let tag := "total ".toUTF8
    let j := numberEnd b (i + tag.size)
    if Bytes.occursAt b tag i && j > i + tag.size && Bytes.occursAt b " ms".toUTF8 j then
      totalsFrom b (max (j + 3) (i + 1)) (acc ++ "total N ms".toUTF8)
    else totalsFrom b (i + 1) (acc.push (Utf8.byteAt b i))
  else acc
termination_by b.size - i

/-- `b` with every measured total written `N`. -/
def totals (b : ByteArray) : ByteArray := totalsFrom b 0 .empty

/-- `b` with the places of log calls in fixed form. -/
def source (b : ByteArray) : ByteArray := objectsFrom (placesFrom b 0 .empty) 0 .empty

/-- The end of the run of bytes from `i` on that `p` holds for. -/
def runEnd (b : ByteArray) (i : Nat) (p : UInt8 → Bool) : Nat :=
  (((List.range (b.size - i)).find? fun k => !p (Utf8.byteAt b (i + k))).map (i + ·)).getD b.size

/-- The end of a padded duration that starts at `i`: blanks, digits, a point, two digits and
` ms`. -/
def columnEnd (b : ByteArray) (i : Nat) : Option Nat :=
  let j := runEnd b i (· == 0x20)
  let k := runEnd b j isDigit
  if j > i && k > j && k + 2 < b.size && Utf8.byteAt b k == 0x2E && isDigit (Utf8.byteAt b (k + 1)) &&
      isDigit (Utf8.byteAt b (k + 2)) && Bytes.occursAt b " ms".toUTF8 (k + 3) then some (k + 6)
  else none

/-- The padded durations of `b` from `i` on, each written ` N ms`, appended to `acc`. -/
def columnsFrom (b : ByteArray) (i : Nat) (acc : ByteArray) : ByteArray :=
  if i < b.size then
    match columnEnd b i with
    | some j => columnsFrom b (max j (i + 1)) (acc ++ " N ms".toUTF8)
    | none => columnsFrom b (i + 1) (acc.push (Utf8.byteAt b i))
  else acc
termination_by b.size - i

/-- The JSON keys whose numbers are measured durations, plain and escaped. -/
def durationKeys : List ByteArray :=
  ["\"duration_ms\":", "\"total_ms\":", "\\\"duration_ms\\\":", "\\\"total_ms\\\":"].map String.toUTF8

/-- Whether a byte can be part of a JSON number. -/
def isNumberByte (c : UInt8) : Bool := isDigit c || c == 0x2E || c == 0x65 || c == 0x45 || c == 0x2B || c == 0x2D

/-- The JSON durations of `b` from `i` on, each zeroed, appended to `acc`. -/
def durationsFrom (b : ByteArray) (i : Nat) (acc : ByteArray) : ByteArray :=
  if i < b.size then
    match durationKeys.find? fun k => Bytes.occursAt b k i && isNumberByte (Utf8.byteAt b (i + k.size)) &&
        i + k.size < b.size with
    | some k => durationsFrom b (max (runEnd b (i + k.size) isNumberByte) (i + 1)) (acc ++ k ++ "0".toUTF8)
    | none => durationsFrom b (i + 1) (acc.push (Utf8.byteAt b i))
  else acc
termination_by b.size - i

/-- Whether a byte can be part of a duration's unit: a letter, or a byte of `µ`. -/
def isUnitByte (c : UInt8) : Bool := (0x61 ≤ c && c ≤ 0x7A) || c == 0xC2 || c == 0xB5

/-- The elapsed times of `b` from `i` on, each written `elapsed=N`, appended to `acc`. -/
def elapsedFrom (b : ByteArray) (i : Nat) (acc : ByteArray) : ByteArray :=
  if i < b.size then
    let tag := "elapsed=".toUTF8
    let j := numberEnd b (i + tag.size)
    if Bytes.occursAt b tag i && j > i + tag.size then
      elapsedFrom b (max (runEnd b j isUnitByte) (i + 1)) (acc ++ "elapsed=N".toUTF8)
    else elapsedFrom b (i + 1) (acc.push (Utf8.byteAt b i))
  else acc
termination_by b.size - i

/-- `b` with every measured time in fixed form. -/
def timings (b : ByteArray) : ByteArray :=
  elapsedFrom (columnsFrom (durationsFrom (totals b) 0 .empty) 0 .empty) 0 .empty

end NovelScript.Scrub
