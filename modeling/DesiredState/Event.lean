import DesiredState.Counts

/-! What a run tells about itself while it goes on. -/
namespace DesiredState

/-- How much a message matters. -/
inductive Level where
  | error
  | warn
  | info
  | debug
  | trace
  deriving DecidableEq, Inhabited, Repr

namespace Level

/-- The more a level lets through, the greater it is. -/
def rank : Level → Nat
  | error => 1
  | warn => 2
  | info => 3
  | debug => 4
  | trace => 5

def name : Level → String
  | error => "ERROR"
  | warn => "WARN"
  | info => "INFO"
  | debug => "DEBUG"
  | trace => "TRACE"

end Level

/-- The kinds of writes. -/
inductive WriteKind where
  | insert
  | update
  | delete
  deriving DecidableEq, Inhabited, Repr

namespace WriteKind

def name : WriteKind → String
  | insert => "insert"
  | update => "update"
  | delete => "delete"

def past : WriteKind → String
  | insert => "Inserted"
  | update => "Updated"
  | delete => "Deleted"

end WriteKind

def Phase.past : Phase → String
  | delete => "Deleted"
  | add => "Added"
  | update => "Updated"

/-- An event of a run. -/
inductive Event where
  /-- The records have been paired: how many keys there are, and how many for each phase. -/
  | partitioned (table : String) (keys adds updates deletes : Nat)
  /-- A phase has written the record of a key. -/
  | applied (phase : Phase) (key : String)
  /-- A write has been refused. -/
  | refused (phase : Phase) (key reason : String)
  /-- All phases have been gone through, with these writes. -/
  | reconciled (table : String) (counts : Counts)
  /-- A store has kept a write. -/
  | kept (kind : WriteKind) (table key : String)
  /-- Logging goes through a filter from now on. -/
  | installed (filter : String)
  deriving DecidableEq

namespace Event

def level : Event → Level
  | refused .. => .warn
  | reconciled .. => .info
  | _ => .debug

def message : Event → String
  | partitioned table keys adds updates deletes =>
    "Dispositions for " ++ table ++ ": " ++ Numeral.showInteger keys ++ " keys (add=" ++
      Numeral.showInteger adds ++ " update=" ++ Numeral.showInteger updates ++ " delete=" ++
      Numeral.showInteger deletes ++ ")"
  | applied phase key => phase.past ++ " " ++ key
  | refused phase key reason =>
    "Reconcile " ++ phase.name ++ " failed for " ++ key ++ ": " ++ reason
  | reconciled table counts => "Reconciled " ++ table ++ ": " ++ counts.display
  | kept kind table key => kind.past ++ " " ++ table ++ " `" ++ key ++ "`"
  | installed filter => "Tracing initialized (filter: " ++ filter ++ ")"

/-- The event in one line, after its level. -/
def line (e : Event) : String := e.level.name ++ " " ++ e.message

example : (reconciled "vm" ⟨1, 2, 3⟩).line = "INFO Reconciled vm: added=1 updated=2 deleted=3" := by
  decide +kernel

end Event
end DesiredState
