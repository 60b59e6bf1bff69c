import ModuleGraph.Diagnostic

/-! # Journals

Work that can fail may also report things on the way: diagnostics, and lines for the log.  A
`Logged` result keeps both reports and outcome; what has been reported before a failure stays
reported.  A `Sink` says what becomes of a diagnostic: it is collected, or it goes to the log. -/

namespace ModuleGraph

/-- One report. -/
inductive Report where
  | diagnostic (d : Diagnostic)
  /-- A warning for the log alone. -/
  | logLine (text : String)
  deriving DecidableEq

/-- Reports in order. -/
abbrev Journal := List Report

namespace Journal

/-- The diagnostics in order. -/
def diagnostics (j : Journal) : List Diagnostic :=
  j.filterMap fun
    | .diagnostic d => some d
    | .logLine _ => none

/-- The log lines in order. -/
def logLines (j : Journal) : List String :=
  j.filterMap fun
    | .diagnostic _ => none
    | .logLine text => some text

/-- The diagnostics that are warnings. -/
def warnings (j : Journal) : List Diagnostic :=
  j.diagnostics.filter fun d => d.severity == .warning

end Journal

/-- The reports and the outcome of work that can fail. -/
structure Logged (ε α : Type) where
  journal : Journal
  result : Except ε α

namespace Logged

variable {ε α β : Type}

/-- A result without reports. -/
def ofExcept (result : Except ε α) : Logged ε α := ⟨[], result⟩

/-- A report. -/
def tell (r : Report) : Logged ε Unit := ⟨[r], .ok ()⟩

/-- Goes on with the result of `x`, if it has one. -/
def bind (x : Logged ε α) (f : α → Logged ε β) : Logged ε β :=
  match x.result with
  | .ok a => ⟨x.journal ++ (f a).journal, (f a).result⟩
  | .error e => ⟨x.journal, .error e⟩

instance : Monad (Logged ε) where
  pure a := ⟨[], .ok a⟩
  bind := bind

/-- Outcomes follow each other as if nothing were reported. -/
@[simp] theorem result_bind (x : Logged ε α) (f : α → Logged ε β) :
    (x >>= f).result = x.result >>= fun a => (f a).result := by
  obtain ⟨journal, result⟩ := x
  cases result <;> rfl

@[simp] theorem result_pure (a : α) : (pure a : Logged ε α).result = pure a := rfl

@[simp] theorem result_ofExcept (r : Except ε α) : (ofExcept r).result = r := rfl

@[simp] theorem result_tell (r : Report) : (tell r : Logged ε Unit).result = .ok () := rfl

/-- Turns one kind of error into another. -/
def mapError {ε' : Type} (f : ε → ε') (x : Logged ε α) : Logged ε' α :=
  ⟨x.journal, x.result.mapError f⟩

/-- Works through a list, one item after the other, until one fails. -/
def mapList (f : α → Logged ε β) : List α → Logged ε (List β)
  | [] => pure []
  | a :: rest => do
    let b ← f a
    let bs ← mapList f rest
    pure (b :: bs)

end Logged

/-- How important a line of the log is. -/
inductive LogLevel where
  | error
  | warn
  | info
  | debug
  deriving DecidableEq

namespace LogLevel

def write : LogLevel → String
  | .error => "ERROR"
  | .warn => "WARN"
  | .info => "INFO"
  | .debug => "DEBUG"

/-- The level at which a diagnostic is logged. -/
def ofSeverity : Severity → LogLevel
  | .error => .error
  | .warning => .warn
  | .note => .info

end LogLevel

/-- What becomes of a diagnostic. -/
inductive Sink where
  | collecting
  | logging
  deriving DecidableEq

namespace Sink

/-- The lines of the log that a diagnostic leads to. -/
def logged (sink : Sink) (d : Diagnostic) : List (LogLevel × String) :=
  match sink with
  | .collecting => [(.debug, s!"collected {d.severity.write}: {d.message}")]
  | .logging => [(.ofSeverity d.severity, d.message)]

/-- The diagnostics that are kept of one. -/
def kept (sink : Sink) (d : Diagnostic) : List Diagnostic :=
  match sink with
  | .collecting => [d]
  | .logging => []

end Sink

end ModuleGraph
