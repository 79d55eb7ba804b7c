import Std.Data.HashSet
import NovelScript.Diag.Message
import NovelScript.Source.Range
/-!
# The diagnostics engine

The engine turns a code, a range and arguments into a diagnostic under a policy, counts it,
and delivers it to its sinks in order. The policy decides per severity:

* a note is dropped uncounted when notes are suppressed, and counted otherwise;
* a warning becomes an error when warnings count as errors (checked first); otherwise it is
  dropped uncounted when warnings are suppressed, and counted otherwise;
* an error is always counted, but not delivered once the count passes the cutoff;
* a fatal error is counted and always delivered.

The cutoff is the error limit, or 1 when errors are fatal and the limit is 0 or above 1.
-/

namespace NovelScript

/-- How diagnostics are filtered and counted. -/
structure Policy where
  warningsAsErrors : Bool := false
  suppressNotes : Bool := false
  suppressWarnings : Bool := false
  /-- Errors past this many are not delivered; 0 means no limit. -/
  maxErrors : Int := 0
  errorsFatal : Bool := false
  deriving DecidableEq, Repr

/-- The error cutoff after `errorsFatal` is applied. -/
def Policy.effectiveMaxErrors (p : Policy) : Int :=
  if p.errorsFatal && (p.maxErrors == 0 || p.maxErrors > 1) then 1 else p.maxErrors

/-- One reported problem, with its severity after the policy. -/
structure Diagnostic where
  code : Code
  severity : Severity
  category : Category
  message : ByteArray
  template : String
  range : Range
  args : Array Arg

/-- The diagnostic of `code` at `r` delivered with severity `sev`. At most ten arguments are
kept, and a template whose placeholders cannot be filled is used as it stands. -/
def Diagnostic.make (code : Code) (sev : Severity) (r : Range) (args : Array Arg) : Diagnostic :=
  let info := code.info
  let args := args.extract 0 maxArgs
  let tmpl := info.template.toUTF8
  let msg := match fillTemplate tmpl args with
    | .ok m => m
    | .error _ => tmpl
  ⟨code, sev, info.category, msg, info.template, r, args⟩

/-- Collected diagnostics, up to `max` of them (0 means no limit). -/
structure Bag where
  items : Array Diagnostic := #[]
  max : Nat := 0

namespace Bag

/-- The bag with `d` added, unless it is full. -/
def add (b : Bag) (d : Diagnostic) : Bag :=
  if b.max > 0 && b.items.size ≥ b.max then b else { b with items := b.items.push d }

/-- Whether some diagnostic counts as an error. -/
def hasErrors (b : Bag) : Bool := b.items.any (·.severity.isError)

/-- The number of diagnostics with code `c`. -/
def count (b : Bag) (c : Code) : Nat := (b.items.filter (·.code == c)).size

/-- The bag followed by every item of `o`, regardless of the limit. -/
def merge (b o : Bag) : Bag := { b with items := b.items ++ o.items }

/-- The order of `sort`: unit, offset, end, severity falling, code rising. -/
def before (a b : Diagnostic) : Bool :=
  if a.range.unit != b.range.unit then a.range.unit < b.range.unit
  else if a.range.off != b.range.off then a.range.off < b.range.off
  else if a.range.endOff != b.range.endOff then a.range.endOff < b.range.endOff
  else if a.severity.code != b.severity.code then a.severity.code > b.severity.code
  else a.code < b.code

/-- The items in `sort` order; equal items keep their order. -/
def sorted (b : Bag) : Array Diagnostic :=
  (b.items.toList.mergeSort fun x y => !before y x).toArray

end Bag

/-- What identifies a repeated diagnostic: code, range and message. -/
abbrev DedupKey := Code × Range × ByteArray

/-- A filter that lets the first of identical diagnostics through. -/
structure Dedup where
  seen : Std.HashSet DedupKey := {}
  dropped : Nat := 0

/-- Lets a diagnostic with `key` through the first time and counts each repeat. -/
def Dedup.admit (f : Dedup) (key : DedupKey) : Bool × Dedup :=
  if f.seen.contains key then (false, { f with dropped := f.dropped + 1 })
  else (true, { f with seen := f.seen.insert key })

/-- The key of a diagnostic: code, range and message. -/
def Diagnostic.key (d : Diagnostic) : DedupKey := (d.code, d.range, d.message)

/-- Where the engine delivers diagnostics. -/
inductive Sink where
  /-- Into the bag. -/
  | bag
  /-- Through the repeat filter into the bag. -/
  | dedupBag
  /-- Into the console record. -/
  | console
  /-- Nowhere. -/
  | discard
  deriving DecidableEq, Repr

/-- The policy, the counters and the sinks with their contents. -/
structure Engine where
  policy : Policy := {}
  errors : Nat := 0
  warnings : Nat := 0
  notes : Nat := 0
  fatal : Bool := false
  sinks : List Sink := []
  bag : Bag := {}
  dedup : Dedup := {}
  /-- Diagnostics delivered to the console sink, in order. -/
  consoleLog : Array Diagnostic := #[]
  /-- Whether the last diagnosis was delivered. -/
  lastShown : Bool := false

namespace Engine

/-- The counters after a diagnostic of table severity `sev`, and the severity it is delivered
with if it is delivered at all. -/
def apply (e : Engine) (sev : Severity) : Engine × Option Severity :=
  let p := e.policy
  let countError (e : Engine) (sev : Severity) : Engine × Option Severity :=
    let e := { e with errors := e.errors + 1 }
    if sev == .fatal then ({ e with fatal := true }, some sev)
    else
      let limit := p.effectiveMaxErrors
      if limit > 0 && (e.errors : Int) > limit then (e, none) else (e, some sev)
  match sev with
  | .ignored => (e, none)
  | .note => if p.suppressNotes then (e, none) else ({ e with notes := e.notes + 1 }, some sev)
  | .warning =>
    if p.warningsAsErrors then countError e .error
    else if p.suppressWarnings then (e, none)
    else ({ e with warnings := e.warnings + 1 }, some sev)
  | sev => countError e sev

/-- Delivers a diagnostic to one sink. -/
def deliver (e : Engine) (d : Diagnostic) : Sink → Engine
  | .bag => { e with bag := e.bag.add d }
  | .dedupBag =>
    match e.dedup.admit d.key with
    | (true, f) => { e with dedup := f, bag := e.bag.add d }
    | (false, f) => { e with dedup := f }
  | .console => { e with consoleLog := e.consoleLog.push d }
  | .discard => e

/-- Hands `d` to every sink in order. -/
def report (e : Engine) (d : Diagnostic) : Engine := e.sinks.foldl (fun e s => e.deliver d s) e

/-- Reports `code` at `r` with `args`: applies the policy, counts, and delivers the
diagnostic to every sink in order. -/
def diagnose (e : Engine) (r : Range) (code : Code) (args : Array Arg) : Engine :=
  match e.apply code.info.severity with
  | (e, none) => { e with lastShown := false }
  | (e, some sev) => { e.report (Diagnostic.make code sev r args) with lastShown := true }

/-- Whether some error was counted. -/
def didError (e : Engine) : Bool := e.errors > 0

/-- Whether further errors will not be delivered. -/
def limitReached (e : Engine) : Bool :=
  let l := e.policy.effectiveMaxErrors
  l > 0 && (e.errors : Int) ≥ l

/-- The engine with its counters cleared; sinks and policy stay. -/
def reset (e : Engine) : Engine := { e with errors := 0, warnings := 0, notes := 0, fatal := false }

end Engine

end NovelScript
