import ProxyLog.Text.Lines
import ProxyLog.Transaction.Builder
import ProxyLog.Transaction.Set

/-!
# Reading a log

A transaction starts with a marker line, which a `Begin` record must follow at once, and ends with
its `End` record:

```
*   << Session  >> 1
-   Begin          sess 0 HTTP/1
-   Link           req 2 rxreq
-   End
```

Lines between transactions are ignored, and so are lines of fewer than two fields inside one.

* `Phase`: where in the log the reader is.
* `Reading`: the transactions read so far, and the phase.
* `Reading.step`: reads one line, `Reading.readAll` many; `Reading.finish` is the end of the log.
* `readLines`: reads the lines of a log; `readText` and `readStream` those of a text, cut at every
  line boundary or at line feeds only.
-/

set_option autoImplicit false

namespace ProxyLog

/-! ## State -/

/-- Where in the log the reader is. -/
inductive Phase
  /-- No transaction is open. -/
  | between
  /-- A start line was read. -/
  | started (t : Transaction)
  /-- A transaction is open. -/
  | inside (b : Builder)

/-- What was read so far. -/
structure Reading where
  set : TransactionSet
  phase : Phase

namespace Reading

def start (maxDepth : Int) : Reading := ⟨.empty maxDepth, .between⟩

/-- Goes on in a phase. -/
def goOn (s : Reading) (phase : Phase) : Reading := { s with phase := phase }

/-- Puts a finished transaction into the set. -/
def complete (s : Reading) (t : Transaction) : Outcome Failure Reading :=
  ⟨s.set.addRemarks t ++ [.transactionRead t.txid t.records.length], .ok ⟨s.set.add t, .between⟩⟩

/-! ## Lines -/

/-- Reads a trimmed line while no transaction is open. -/
def betweenLine (s : Reading) (line : String) : Outcome Failure Reading :=
  if isStartLine line then do
    let t ← Outcome.ofExcept (Transaction.ofStartLine line)
    pure (s.goOn (.started t))
  else pure (s.goOn .between)

/-- Reads the trimmed line after a start line. -/
def firstLine (s : Reading) (t : Transaction) (line : String) : Outcome Failure Reading :=
  if line = "" then .fail (.malformed (.beginBlank t.startLine))
  else do
    let r ← Record.ofLine line
    let step := (Builder.start t).begin r line
    let _ ← step.outcome
    pure (s.goOn (.inside step.builder))

/-- Reads a further trimmed line of a transaction. -/
def bodyLine (s : Reading) (b : Builder) (line : String) : Outcome Failure Reading :=
  if hasTwoFields line then do
    let r ← Record.ofLine line
    let step := b.feed r
    if ← step.outcome then s.complete step.builder.transaction
    else pure (s.goOn (.inside step.builder))
  else pure (s.goOn (.inside b))

/-- Reads one line. -/
def step (s : Reading) (raw : String) : Outcome Failure Reading :=
  let line := Text.strip raw
  match s.phase with
  | .between => s.betweenLine line
  | .started t => s.firstLine t line
  | .inside b => s.bodyLine b line

/-- Reads lines one after the other, up to the first failure. -/
def readAll (s : Outcome Failure Reading) (lines : List String) : Outcome Failure Reading :=
  lines.foldl (fun s line => s >>= (·.step line)) s

@[simp] theorem readAll_nil (s : Outcome Failure Reading) : readAll s [] = s := rfl

@[simp] theorem readAll_cons (s : Outcome Failure Reading) (line : String) (lines : List String) :
    readAll s (line :: lines) = readAll (s >>= (·.step line)) lines := rfl

/-- Lines in two parts are read one part after the other. -/
theorem readAll_append (s : Outcome Failure Reading) (front back : List String) :
    readAll s (front ++ back) = readAll (readAll s front) back := by
  simp [readAll]

/-- After a failure nothing more is read. -/
theorem readAll_of_error {s : Outcome Failure Reading} {e : Failure} (h : s.result = .error e)
    (lines : List String) : (readAll s lines).result = .error e := by
  induction lines generalizing s with
  | nil => exact h
  | cons line lines ih =>
    have hstep : (s >>= (·.step line)).result = .error e := by rw [Outcome.bind_of_error h]
    exact ih hstep

/-- Blanks at the ends of a line do not matter. -/
theorem step_congr (s : Reading) {a b : String} (h : Text.strip a = Text.strip b) : s.step a = s.step b := by
  simp [step, h]

/-- The end of the log, which must not come inside a transaction. -/
def finish (s : Reading) : Except Failure TransactionSet :=
  match s.phase with
  | .between => .ok s.set
  | .started t => .error (.malformed (.beginMissing t.startLine))
  | .inside b => .error (.malformed (.endMissing b.transaction.startLine))

end Reading

/-! ## Whole logs -/

/-- Reads the lines of a log. -/
def readLines (maxDepth : Int) (lines : List String) : Outcome Failure TransactionSet := do
  let s ← Reading.readAll (pure (Reading.start maxDepth)) lines
  Outcome.ofExcept s.finish

/-- Reads a log from a text, cut at every line boundary. -/
def readText (maxDepth : Int) (text : String) : Outcome Failure TransactionSet :=
  readLines maxDepth (Text.lines text)

/-- Reads a log from a text that arrives line feed by line feed. -/
def readStream (maxDepth : Int) (text : String) : Outcome Failure TransactionSet :=
  readLines maxDepth (Text.feedLines text)

end ProxyLog
