/-!
# Diagnostic codes

Every diagnostic has a numeric code. The code table gives each known code a severity, a
category and a message template; a code missing from the table reads as code 0, an internal
error. The printed id of a code is its family prefix (`LEX`, `STR`, `RES`, `TST`, `OBS`) and
four digits, or `E0000` outside the families.
-/

namespace NovelScript

/-- How serious a diagnostic is. Codes above 4 are representable but unnamed. -/
inductive Severity where
  | ignored | note | warning | error | fatal
  | other (code : Nat)
  deriving DecidableEq, Repr

namespace Severity

/-- The severity of code `n`. -/
def ofCode : Nat → Severity
  | 0 => ignored | 1 => note | 2 => warning | 3 => error | 4 => fatal | n => other n

/-- The code of a severity. -/
def code : Severity → Nat
  | ignored => 0 | note => 1 | warning => 2 | error => 3 | fatal => 4 | other n => n

/-- The lower-case label of one-line output; unnamed severities read `ignored`. -/
def label : Severity → String
  | note => "note" | warning => "warning" | error => "error" | fatal => "fatal"
  | _ => "ignored"

/-- The upper-case name. -/
def upper : Severity → String
  | ignored => "IGNORED" | note => "NOTE" | warning => "WARNING" | error => "ERROR"
  | fatal => "FATAL" | other _ => "UNKNOWN"

/-- Whether the severity counts as an error: error, fatal and every unnamed one. -/
def isError (s : Severity) : Bool := s.code ≥ 3

end Severity

/-- The family of a diagnostic. -/
inductive Category where
  | internal | lexical | structural | resource | selftest | observe
  deriving DecidableEq, Repr

namespace Category

/-- The category of code `n`; unnamed codes read as internal. -/
def ofCode : Nat → Category
  | 1 => lexical | 2 => structural | 3 => resource | 4 => selftest | 5 => observe
  | _ => internal

/-- The printed name. -/
def name : Category → String
  | internal => "internal" | lexical => "lexical" | structural => "structural"
  | resource => "resource" | selftest => "selftest" | observe => "observe"

end Category

/-- A diagnostic code. -/
abbrev Code := Nat

/-- What the code table says about a code. -/
structure CodeInfo where
  severity : Severity
  category : Category
  template : String

namespace Code

def unknownCode : Code := 0
def lexInfo : Code := 1000
def lexUnknownChar : Code := 1001
def lexUnterminatedString : Code := 1002
def lexUnterminatedComment : Code := 1003
def lexBadNumber : Code := 1004
def lexTokenTooLong : Code := 1005
def lexUnknownRadix : Code := 1006
def lexUnknownSuffix : Code := 1007
def lexIntOverflow : Code := 1008
def lexTruncatedLiteral : Code := 1009
def lexFloatIntSuffix : Code := 1010
def lexBadHexEscape : Code := 1011
def lexBadUnicodeHex : Code := 1012
def lexUnicodeOutOfRange : Code := 1013
def lexUnicodeUnterminated : Code := 1014
def lexUnknownEscape : Code := 1015
def lexUnbalancedOpen : Code := 1016
def lexUnbalancedClose : Code := 1017
def lexLoneSigil : Code := 1018
def lexBracketedNameUnclosed : Code := 1019
def lexBracketedNameMalformed : Code := 1020
def lexMalformedDirective : Code := 1021
def lexInvalidUtf8 : Code := 1022
def lexUnicodeSurrogate : Code := 1023
def strNestedMenu : Code := 2001
def strMissingMenuBody : Code := 2002
def resSourceTooLarge : Code := 4001
def resReadFailed : Code := 4002
def resTooManyUnits : Code := 4003
def resIncludeDepth : Code := 4004
def resRecursiveInclude : Code := 4005
def resOutOfMemory : Code := 4006
def resDecodeFailed : Code := 4007
def resNoActiveSource : Code := 4008
def tstTokenMismatch : Code := 5001
def tstBalanceMismatch : Code := 5002
def tstExpectEof : Code := 5003
def obsTimings : Code := 6001

/-- The table entry of a known code. -/
def info? (c : Code) : Option CodeInfo :=
  let lex (s : Severity) (t : String) : Option CodeInfo := some ⟨s, .lexical, t⟩
  match c with
  | 0 => some ⟨.error, .internal, "unknown error"⟩
  | 1000 => lex .note "%0"
  | 1001 => lex .error "unknown character %0"
  | 1002 => lex .error "unterminated string literal"
  | 1003 => lex .error "unterminated block comment"
  | 1004 => lex .error "malformed number literal: %0"
  | 1005 => lex .error "token is longer than %0 bytes"
  | 1006 => lex .error "unknown radix %0 (expected 2..36)"
  | 1007 => lex .error "unknown number suffix %0"
  | 1008 => lex .error "integer literal does not fit in 64 bits"
  | 1009 => lex .warning "value %0 is truncated by suffix %1"
  | 1010 => lex .warning "floating-point literal has integer suffix %0; it stays a float"
  | 1011 => lex .error "\\x escape needs two hex digits"
  | 1012 => lex .error "invalid hex digit %0 in \\u\x7b...\x7d escape"
  | 1013 => lex .error "code point %0 is above U+10FFFF"
  | 1014 => lex .error "unterminated \\u\x7b...\x7d escape"
  | 1015 => lex .warning "unknown escape sequence %0"
  | 1016 => lex .error "unbalanced %0: %1 left open at end of file"
  | 1017 => lex .error "unbalanced %0 without matching opener"
  | 1018 => lex .error "sigil %0 is not followed by a name"
  | 1019 => lex .error "missing '>' after bracketed name"
  | 1020 => lex .error "malformed bracketed name %0"
  | 1021 => lex .error "malformed self-test directive: %0"
  | 1022 => lex .error "invalid UTF-8 byte %0"
  | 1023 => lex .error "code point %0 is a surrogate"
  | 2001 => some ⟨.error, .structural, "menu cannot be nested inside a menu body"⟩
  | 2002 => some ⟨.error, .structural, "missing menu body: expected '\x7b' after menu"⟩
  | 4001 => some ⟨.error, .resource, "source %0 is %1 bytes, the limit is %2"⟩
  | 4002 => some ⟨.error, .resource, "cannot read %0: %1"⟩
  | 4003 => some ⟨.error, .resource, "too many loaded sources (limit %0)"⟩
  | 4004 => some ⟨.error, .resource, "include depth limit %0 exceeded by %1"⟩
  | 4005 => some ⟨.error, .resource, "recursive include of %0"⟩
  | 4006 => some ⟨.fatal, .resource, "out of memory: %0"⟩
  | 4007 => some ⟨.error, .resource, "cannot decode %0 as %1"⟩
  | 4008 => some ⟨.error, .resource, "no active source"⟩
  | 5001 => some ⟨.error, .selftest, "expected token %0, got %1"⟩
  | 5002 => some ⟨.error, .selftest, "expected %0 balance %1, got %2"⟩
  | 5003 => some ⟨.error, .selftest, "expected end of file, got %0"⟩
  | 6001 => some ⟨.note, .observe, "timings for %0: total %1 ms"⟩
  | _ => none

/-- The table entry of a code; unknown codes read as code 0. -/
def info (c : Code) : CodeInfo := (info? c).getD ⟨.error, .internal, "unknown error"⟩

/-- Four decimal digits of `n`, zero-padded. -/
def pad4 (n : Nat) : String :=
  let s := toString n
  String.ofList (List.replicate (4 - s.length) '0') ++ s

/-- The printed id of a code. -/
def id (c : Code) : String :=
  if 1000 ≤ c && c < 2000 then "LEX" ++ pad4 c
  else if 2000 ≤ c && c < 3000 then "STR" ++ pad4 c
  else if 4000 ≤ c && c < 5000 then "RES" ++ pad4 c
  else if 5000 ≤ c && c < 6000 then "TST" ++ pad4 c
  else if 6000 ≤ c && c < 7000 then "OBS" ++ pad4 c
  else "E0000"

/-- The line `[ID]: template`. -/
def describe (c : Code) : String := s!"[{id c}]: {(info c).template}"

end Code

end NovelScript
