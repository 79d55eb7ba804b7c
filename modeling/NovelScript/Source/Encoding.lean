import NovelScript.Source.Unit
import NovelScript.Text.Japanese
import NovelScript.Text.Utf16
import NovelScript.Text.Quoted
import NovelScript.Text.Bytes
/-!
# Script encodings and normalization

A script file is UTF-8, Shift_JIS, EUC-JP or UTF-16. Normalization turns its bytes into the
text of a unit: it decodes a legacy encoding, drops one UTF-8 byte-order mark and folds each
CRLF pair to LF (a CR on its own stays). The flags record which of these steps changed
something.
-/

namespace NovelScript

/-- The encodings a script may be written in. -/
inductive Encoding where
  | utf8 | shiftJis | eucJp | utf16
  deriving DecidableEq, Repr

namespace Encoding

/-- The canonical spelling of an encoding. -/
def name : Encoding → String
  | utf8 => "utf-8" | shiftJis => "shift-jis" | eucJp => "euc-jp" | utf16 => "utf-16"

/-- Reads the common spellings of an encoding, ignoring case and surrounding space. -/
def parse (s : String) : Except String Encoding :=
  match Bytes.asciiLower (Bytes.trimText s) with
  | "" | "utf8" | "utf-8" => .ok utf8
  | "sjis" | "shift-jis" | "shift_jis" | "cp932" => .ok shiftJis
  | "euc-jp" | "eucjp" => .ok eucJp
  | "utf16" | "utf-16" => .ok utf16
  | _ => .error s!"unknown source encoding {Quoted.quoteText s} (expected utf-8|shift-jis|euc-jp|utf-16)"

/-- The UTF-8 text of bytes in a legacy encoding; `none` for UTF-8, which needs no decoding. -/
def decode? : Encoding → ByteArray → Option ByteArray
  | utf8, _ => none
  | shiftJis, bs => some (ShiftJis.decode bs)
  | eucJp, bs => some (EucJp.decode bs)
  | utf16, bs => some (Utf16.decode bs)

end Encoding

namespace Normalize

/-- The UTF-8 byte-order mark. -/
def bom : ByteArray := ByteArray.mk #[0xEF, 0xBB, 0xBF]

/-- The text without a leading byte-order mark, and whether there was one. -/
def dropBom (bs : ByteArray) : ByteArray × Bool :=
  if Bytes.startsWith bs bom then (Bytes.drop bs 3, true) else (bs, false)

/-- Folds CRLF pairs from `i` on into `out`, noting whether any was folded. -/
def foldFrom (bs : ByteArray) (i : Nat) (out : ByteArray) (changed : Bool) : ByteArray × Bool :=
  if i < bs.size then
    let b := Utf8.byteAt bs i
    if b == 0x0D && Utf8.byteAt bs (i + 1) == 0x0A && i + 1 < bs.size then
      foldFrom bs (i + 2) (out.push 0x0A) true
    else foldFrom bs (i + 1) (out.push b) changed
  else (out, changed)
termination_by bs.size - i

/-- The text with each CRLF pair folded to LF, and whether any was. -/
def foldCrlf (bs : ByteArray) : ByteArray × Bool := foldFrom bs 0 .empty false

end Normalize

/-- The normalized text of script bytes and the flags of the steps that changed them. -/
def normalize (raw : ByteArray) (enc : Encoding) : ByteArray × UnitFlags :=
  let (text, f1) := match enc.decode? raw with
    | some t => (t, UnitFlags.transcoded)
    | none => (raw, 0)
  let (text, hadBom) := Normalize.dropBom text
  let (text, folded) := Normalize.foldCrlf text
  (text, ⟨f1 ||| (if hadBom then UnitFlags.hadBom else 0) ||| (if folded then UnitFlags.foldedCrlf else 0)⟩)

end NovelScript
