import NovelScript.Json.Value
import NovelScript.Text.Base64
import NovelScript.Diag.Engine
/-!
# Reading requests

A request is a JSON object. Bytes may be given in four forms, the first present winning:
base64 (`b64`), lowercase hex (`hex`), a list of pieces each repeated a number of times
(`parts`), or text (`text`), whose UTF-8 bytes are taken. Under a prefix `p` the keys are
`p_b64`, `p_hex`, `p_parts` and `p` itself. Absent fields read as empty, zero or false.
-/

namespace NovelScript.Request

/-- Repeats `b` onto `acc` `n` times. -/
def repeatOnto (acc b : ByteArray) : Nat → ByteArray
  | 0 => acc
  | n + 1 => repeatOnto (acc ++ b) b n

/-- One piece of a `parts` list: a string, or an object holding `b64`, `hex` or `text`. -/
def piece (q : Json) : ByteArray :=
  match q, q.get "b64", q.get "hex", q.get "text" with
  | .str s, _, _, _ => s.toUTF8
  | _, .str s, _, _ => (Base64.decode? s).getD .empty
  | _, _, .str s, _ => (Hex.decode? s).getD .empty
  | _, _, _, .str s => s.toUTF8
  | _, _, _, _ => .empty

/-- The pieces of a `parts` list, each repeated its count (1 when not given). -/
def joinParts : List Json → ByteArray → ByteArray
  | [], acc => acc
  | .arr [q] :: rest, acc => joinParts rest (acc ++ piece q)
  | .arr [q, n] :: rest, acc =>
    joinParts rest (repeatOnto acc (piece q) ((n.int?).getD 1).toNat)
  | q :: rest, acc => joinParts rest (acc ++ piece q)

/-- The bytes of a value given in one of the four forms under key prefix `p`. -/
def bytesAt (j : Json) (p : String) : ByteArray :=
  let key (s : String) := if p.isEmpty then s else p ++ "_" ++ s
  match j.get (key "b64"), j.get (key "hex"), j.get (key "parts") with
  | .str s, _, _ => (Base64.decode? s).getD .empty
  | _, .str s, _ => (Hex.decode? s).getD .empty
  | _, _, .arr ps => joinParts ps .empty
  | _, _, _ => match j.get (if p.isEmpty then "text" else p) with
    | .str s => s.toUTF8
    | _ => .empty

/-- The bytes of a request in one of the four unprefixed forms. -/
def bytes (j : Json) : ByteArray := bytesAt j ""

/-- A diagnostics policy object. -/
def policyOf (p : Json) : Policy :=
  { warningsAsErrors := p.getBool "warnings_as_errors", suppressNotes := p.getBool "suppress_notes",
    suppressWarnings := p.getBool "suppress_warnings", maxErrors := p.getInt "max_errors",
    errorsFatal := p.getBool "errors_fatal" }

/-- The `policy` member of a request. -/
def policy (j : Json) : Policy := policyOf (j.get "policy")

end NovelScript.Request
