import NovelScript.Lexer.Stream
import NovelScript.Source.Encoding
import NovelScript.Source.Reader
import NovelScript.Log.Value
import NovelScript.Text.Size
/-!
# The compilation context

A context owns everything the tokenizers of one compilation share: the unit table, the
identifier dictionary, the string store and the diagnostics engine. Top-level units wait in a
queue; the active one sits at the bottom of the include stack and includes are pushed on top
of it. Each frame of the stack keeps its own tokenizer, so a unit resumes where it stopped
once the includes above it are popped.

Unit indexes are handed out in order and a freed index is reused before a new one, the most
recently freed first. At most 4096 units are loaded at once. Every failure is reported to
the engine (except the plain state errors: a closed context, no active source, a unit in use)
and returned as a `ContextError`.

A context keeps a debug entry for each change of its units: the built-ins registered, a unit
loaded, queued, activated, pushed, popped or freed, and the context closed.
-/

namespace NovelScript

/-- How a context is set up. -/
structure ContextOptions where
  policy : Policy := {}
  mode : DirectiveMode := .ignore
  encoding : Encoding := .utf8
  /-- The include stack limit; 0 means 64. -/
  maxIncludeDepth : Nat := 0
  /-- The dictionary capacity; 0 or less means the default. -/
  maxIdents : Int := 0
  /-- The string store capacity in bytes; 0 or less means the default. -/
  maxBlobBytes : Int := 0

/-- The include stack limit used when none is given. -/
def defaultMaxIncludeDepth : Nat := 64

/-- Why a context operation failed. -/
inductive ContextError where
  /-- The context was closed. -/
  | closed
  /-- The include stack is empty. -/
  | noActiveSource
  /-- The file at `path` could not be read. -/
  | read (path : String) (e : ReadError)
  /-- The text for `path` is larger than a unit may be. -/
  | tooLarge (path : String) (e : SizeError)
  /-- All unit indexes are in use. -/
  | tooManyUnits (path : String)
  /-- The include stack is full. -/
  | includeDepth (path : String)
  /-- The path is already on the include stack. -/
  | recursiveInclude (path : String)
  /-- The unit is active or queued. -/
  | unitInUse (path : String)
  /-- No unit has this index. -/
  | notLoaded (id : Nat)
  /-- The built-in type names did not fit the dictionary. -/
  | builtins (e : DictFull)

/-- The message of a context error. -/
def ContextError.message : ContextError → ByteArray
  | .closed => "compilation context is closed".toUTF8
  | .noActiveSource => "no active source".toUTF8
  | .read p e => s!"open {p}: {e.message}".toUTF8
  | .tooLarge p e => s!"open {p}: {e.message}".toUTF8
  | .tooManyUnits p => s!"open {p}: too many loaded sources".toUTF8
  | .includeDepth p => s!"push {p}: include depth limit exceeded".toUTF8
  | .recursiveInclude p => s!"push {p}: recursive include".toUTF8
  | .unitInUse p => s!"free {p}: source is in use".toUTF8
  | .notLoaded id => s!"free unit {id}: not loaded".toUTF8
  | .builtins e => "register built-in types: ".toUTF8 ++ e.message

/-- One level of the include stack: a unit and, once asked for, its tokenizer. -/
structure Frame where
  unit : SourceUnit
  lexer : Option Lexer := none

/-- The compilation context. -/
structure Context where
  opts : ContextOptions
  reader : FileReader
  dict : Dict
  blobs : BlobStore
  engine : Engine
  /-- The unit of each index, `none` once freed. -/
  units : Array (Option SourceUnit) := #[]
  /-- Freed indexes, the most recently freed last. -/
  free : Array Nat := #[]
  /-- Top-level units waiting to become active. -/
  queue : Array Nat := #[]
  stack : Array Frame := #[]
  inited : Bool := false
  closed : Bool := false
  /-- The debug entries kept so far, oldest first. -/
  notes : Array Log.Entry := #[]

/-- Context steps; a failed step keeps the state it reached, diagnostics included. -/
abbrev ContextM := ExceptT ContextError (StateM Context)

namespace Context

/-- A fresh context that reports to `sinks`. -/
def create (opts : ContextOptions) (reader : FileReader) (sinks : List Sink) : Context :=
  { opts := opts, reader := reader, dict := Dict.create opts.maxIdents,
    blobs := BlobStore.create opts.maxBlobBytes, engine := { policy := opts.policy, sinks := sinks } }

/-- The include stack limit in force. -/
def maxDepth (c : Context) : Nat :=
  if c.opts.maxIncludeDepth = 0 then defaultMaxIncludeDepth else c.opts.maxIncludeDepth

/-- The unit with index `id`, if loaded. -/
def unit? (c : Context) (id : Nat) : Option SourceUnit := (c.units[id]?).getD none

/-- The loaded units in index order. -/
def loaded (c : Context) : List SourceUnit := c.units.toList.filterMap id

/-- The active unit: the top of the include stack. -/
def active? (c : Context) : Option SourceUnit := c.stack.back?.map (·.unit)

/-- The height of the include stack. -/
def depth (c : Context) : Nat := c.stack.size

/-- The number of queued top-level units. -/
def pending (c : Context) : Nat := c.queue.size

/-- The context with a debug entry kept. -/
def note (c : Context) (message : String) (attrs : List Log.Attr) : Context :=
  { c with notes := c.notes.push (Log.Entry.debug message attrs) }

/-- The attributes naming a unit: its index and path. -/
def unitAttrs (id : Nat) (path : String) : List Log.Attr :=
  [("unit", .nat id), ("path", .text path.toUTF8)]

end Context

namespace ContextM

/-- Reports `code` to the engine. -/
def diagnose (r : Range) (code : Code) (args : Array Arg := #[]) : ContextM Unit :=
  modify fun c => { c with engine := c.engine.diagnose r code args }

/-- Registers the built-in type names, once. -/
def init : ContextM Unit := do
  let c ← get
  if c.inited then return
  let (d, err) := c.dict.registerBuiltins
  set { c with dict := d }
  if let some e := err then
    diagnose Range.none Code.resOutOfMemory #[.str e.message]
    throw (.builtins e)
  modify fun c => { c with inited := true }.note "registered built-in types"
    [("count", .nat builtinTypes.length)]

/-- Reports a text too large for a unit. -/
def tooLarge (path : String) (size : Nat) : ContextM Unit :=
  diagnose Range.none Code.resSourceTooLarge
    #[.str path.toUTF8, .int size, .int maxUnitSize]

/-- A free unit index: the most recently freed one, else a new one. -/
def allocId (path : String) : ContextM Nat := do
  let c ← get
  match c.free.back? with
  | some id =>
    set { c with free := c.free.pop }
    return id
  | none =>
    if c.units.size ≥ maxUnits then
      diagnose Range.none Code.resTooManyUnits #[.int maxUnits]
      throw (.tooManyUnits path)
    set { c with units := c.units.push none }
    return c.units.size

/-- Normalizes `raw` and registers it as a unit. -/
def loadBytes (path : String) (raw : ByteArray) (flags : UnitFlags) : ContextM SourceUnit := do
  if (← get).closed then throw .closed
  if raw.size > maxUnitSize then
    tooLarge path raw.size
    throw (.tooLarge path ⟨path, raw.size⟩)
  let (content, normFlags) := normalize raw (← get).opts.encoding
  if content.size > maxUnitSize then
    tooLarge path content.size
    throw (.tooLarge path ⟨path, content.size⟩)
  let id ← allocId path
  match SourceUnit.create id path content (flags.union normFlags) with
  | .ok u =>
    modify fun c => { c with units := c.units.set! id (some u) }.note "loaded source"
      (Context.unitAttrs id u.path ++ [("size", Log.Value.text (Size.bytesText content.size).toUTF8)])
    return u
  | .error _ =>
    modify fun c => { c with units := c.units.set! id none, free := c.free.push id }
    throw (.tooLarge path ⟨path, content.size⟩)

/-- Reads the file at `path` and registers it as a unit. -/
def load (path : String) : ContextM SourceUnit := do
  let c ← get
  if c.closed then throw .closed
  match c.reader.read path with
  | .ok raw => loadBytes path raw {}
  | .error (.tooLarge e) =>
    tooLarge path e.size
    throw (.read path (.tooLarge e))
  | .error e =>
    diagnose Range.none Code.resReadFailed #[.str path.toUTF8, .str e.message.toUTF8]
    throw (.read path e)

/-- Drops the include stack and activates the next queued unit; `false` when none is left. -/
def nextSource : StateM Context Bool := do
  let c ← get
  if c.closed || c.queue.isEmpty then
    set { c with stack := #[] }
    return false
  match c.queue[0]?.bind c.unit? with
  | some u =>
    set ({ c with stack := #[{ unit := u }], queue := c.queue.extract 1 c.queue.size }.note
      "activated source" (Context.unitAttrs u.id u.path))
    return true
  | none =>
    set { c with stack := #[], queue := c.queue.extract 1 c.queue.size }
    return false

/-- Queues a top-level unit, activating it when nothing is active. -/
def enqueue (u : SourceUnit) : StateM Context Unit := do
  modify fun c => { c with queue := c.queue.push u.id }
  modify fun c => c.note "queued source" (Context.unitAttrs u.id u.path ++ [("queued", Log.Value.nat c.queue.size)])
  if (← get).stack.isEmpty then discard nextSource

/-- Loads the file at `path` as a top-level unit. -/
def openSource (path : String) : ContextM SourceUnit := do
  let u ← load path
  enqueue u
  return u

/-- Registers in-memory text as a top-level unit. -/
def openSourceBytes (name : String) (content : ByteArray) : ContextM SourceUnit := do
  let u ← loadBytes name content ⟨UnitFlags.isVirtual⟩
  enqueue u
  return u

/-- Where an include is reported: the token last lexed from the active unit, or the start of
that unit when it has not been lexed. -/
def includeSite (c : Context) : Range :=
  match c.stack.back? with
  | none => Range.none
  | some f => match f.lexer.bind (·.last) with
    | some t => t.range
    | none => ⟨f.unit.id, 0, 0⟩

/-- Checks that `path` may be pushed: the stack has room and does not hold it already. -/
def checkInclude (path : String) : ContextM Unit := do
  let c ← get
  if c.closed then throw .closed
  if c.stack.size ≥ c.maxDepth then
    diagnose (includeSite c) Code.resIncludeDepth #[.int c.maxDepth, .str path.toUTF8]
    throw (.includeDepth path)
  let norm := Path.clean path
  if c.stack.any (·.unit.path == norm) then
    diagnose (includeSite c) Code.resRecursiveInclude #[.str norm.toUTF8]
    throw (.recursiveInclude path)

/-- Pushes a unit as an include of the active one. -/
def push (u : SourceUnit) : StateM Context Unit :=
  modify fun c => { c with stack := c.stack.push { unit := u } }.note "pushed include"
    (Context.unitAttrs u.id u.path ++ [("depth", Log.Value.nat (c.stack.size + 1))])

/-- Loads the file at `path` as an include and makes it active. -/
def pushSource (path : String) : ContextM SourceUnit := do
  checkInclude path
  let u ← load path
  push u
  return u

/-- Registers in-memory text as an include and makes it active. -/
def pushSourceBytes (name : String) (content : ByteArray) : ContextM SourceUnit := do
  checkInclude name
  let u ← loadBytes name content ⟨UnitFlags.isVirtual⟩
  push u
  return u

/-- Leaves the active include; gives the unit active afterwards. -/
def popSource : ContextM (Option SourceUnit) := do
  let c ← get
  match c.stack.back? with
  | none =>
    diagnose Range.none Code.resNoActiveSource
    throw .noActiveSource
  | some top =>
    set ({ c with stack := c.stack.pop }.note "popped include"
      (Context.unitAttrs top.unit.id top.unit.path ++ [("depth", Log.Value.nat (c.stack.size - 1))]))
    return (← get).active?

/-- Releases a unit that is neither on the stack nor queued; its index becomes free. -/
def freeSource (id : Nat) : ContextM Unit := do
  let c ← get
  match c.unit? id with
  | none => throw (.notLoaded id)
  | some u =>
    if c.stack.any (·.unit.id == id) || c.queue.contains id then throw (.unitInUse u.path)
    set ({ c with units := c.units.set! id none, free := c.free.push id }.note "freed source"
      (Context.unitAttrs id u.path))

/-- Releases every unit; nothing can be loaded afterwards. -/
def close : StateM Context Unit :=
  modify fun c => if c.closed then c else
    { c.note "closing context" [("units", .nat c.loaded.length)] with
      stack := #[], queue := #[], units := #[], free := #[], closed := true }

/-- The environment handed to a tokenizer. -/
def lexEnv (c : Context) : LexEnv := ⟨c.dict, c.blobs, some c.engine⟩

/-- Runs a step of the active unit's tokenizer, creating the tokenizer on first use. The
tokenizer works on the context's dictionary, store and engine, which take back what it did. -/
def withLexer (step : StateM Lexer α) : ContextM α := do
  let c ← get
  match c.stack.back? with
  | none => throw .noActiveSource
  | some f =>
    let lx := match f.lexer with
      | some lx => { lx with env := lexEnv c }
      | none => Lexer.create f.unit c.opts.mode (lexEnv c)
    let (a, lx) := step.run lx
    set { c with
      stack := c.stack.set! (c.stack.size - 1) { f with lexer := some lx },
      dict := lx.env.dict, blobs := lx.env.blobs, engine := lx.env.engine.getD c.engine }
    return a

/-- The state of the active unit's tokenizer, creating it on first use. -/
def lexer : ContextM Lexer := withLexer get

end ContextM

end NovelScript
