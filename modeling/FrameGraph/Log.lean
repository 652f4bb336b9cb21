/-!
# Log Entries

What a step has to tell besides its answer. Entries are data, returned with
the answer in the order they arise.

## Main definitions

* `Level`, `LogEntry`: A message and how serious it is.
-/

namespace FrameGraph

/-- How serious an entry is. -/
inductive Level where
  | error
  | warn
  | info
  deriving DecidableEq, Repr

/-- A message with its level. -/
structure LogEntry where
  level : Level
  message : String
  deriving DecidableEq, Repr

namespace LogEntry

def error (message : String) : LogEntry := ⟨.error, message⟩
def warn (message : String) : LogEntry := ⟨.warn, message⟩
def info (message : String) : LogEntry := ⟨.info, message⟩

end LogEntry

end FrameGraph
