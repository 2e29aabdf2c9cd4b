import DesiredState.Store
import DesiredState.Toml.Tree

/-! The configuration of a store and of its logging, as a file in TOML holds it. Everything has a
default. -/
namespace DesiredState

/-- What is logged. -/
structure LoggingConfig where
  /-- The text of a filter. -/
  filter : String := "info"
  deriving DecidableEq, Inhabited

/-- A whole configuration. -/
structure Config where
  store : StoreConfig := {}
  logging : LoggingConfig := {}
  deriving DecidableEq, Inhabited

namespace Toml.Node

def integer? : Node → Option Int64
  | scalar (.integer i) => some i
  | _ => none

def boolean? : Node → Option Bool
  | scalar (.boolean b) => some b
  | _ => none

def text? : Node → Option String
  | scalar (.text s) => some s
  | _ => none

/-- What a section holds for the field of a name and a position. The fields of a table are found by
name, those of an array by position, and a date has none. -/
def fields? : Node → Option (String → Nat → Option Node)
  | table _ members => some fun name _ => Entries.get? members name
  | array items => some fun _ i => items[i]?
  | tables elements => some fun _ i => elements[i]?.map (table .header)
  | scalar (.dateTime _) => some fun _ _ => none
  | scalar _ => none

end Toml.Node

/-- What is read, or the default if there is nothing to read. -/
def orDefault {α β : Type} (default : β) (read : α → Option β) : Option α → Option β
  | none => some default
  | some a => read a

def StoreConfig.ofNode? (n : Toml.Node) : Option StoreConfig := do
  let field ← n.fields?
  return {
    firstId := ← orDefault ({} : StoreConfig).firstId Toml.Node.integer? (field "first_id" 0)
    strict := ← orDefault ({} : StoreConfig).strict Toml.Node.boolean? (field "strict" 1) }

def LoggingConfig.ofNode? (n : Toml.Node) : Option LoggingConfig := do
  let field ← n.fields?
  return { filter := ← orDefault ({} : LoggingConfig).filter Toml.Node.text? (field "filter" 0) }

/-- What is found at a path. -/
inductive FileContent where
  | missing
  | directory
  | bytes (content : ByteArray)

/-- Why no configuration could be read from a path. -/
inductive ConfigError where
  | missing (path : String)
  | directory (path : String)
  | notText (path : String)
  | malformed (path : String)
  deriving DecidableEq

namespace ConfigError

/-- The text of an error. What is wrong with a malformed text is not told. -/
def message : ConfigError → String
  | missing path => unreadable path "No such file or directory (os error 2)"
  | directory path => unreadable path "Is a directory (os error 21)"
  | notText path => unreadable path "stream did not contain valid UTF-8"
  | malformed path => "failed to parse config file " ++ path ++ ": "
where
  unreadable (path reason : String) : String :=
    "failed to read config file " ++ path ++ ": " ++ reason

end ConfigError

namespace Config

/-- The configuration that the root table of a text holds. Names that mean nothing are ignored. -/
def ofRoot? (root : Toml.Members) : Option Config := do
  return {
    store := ← orDefault {} StoreConfig.ofNode? (root.get? "store")
    logging := ← orDefault {} LoggingConfig.ofNode? (root.get? "logging") }

def ofText? (s : String) : Option Config := (Toml.Tree.rootOf? s).bind ofRoot?

def ofFile (path : String) : FileContent → Except ConfigError Config
  | .missing => .error (.missing path)
  | .directory => .error (.directory path)
  | .bytes content =>
    match String.fromUTF8? content with
    | none => .error (.notText path)
    | some s =>
      match ofText? s with
      | none => .error (.malformed path)
      | some config => .ok config

example : ofText? "" = some {} := by decide +kernel
example : ofText? "store = [5]\nlogging.filter = 'warn'\nother = 1e5" =
    some { store := { firstId := 5 }, logging := { filter := "warn" } } := by decide +kernel
example : ofText? "[store]\nfirst_id = 1.0" = none := by decide +kernel
example : ofText? "store = 1979-05-27" = some {} := by decide +kernel
example : ofText? "[[store]]\nfirst_id = 1" = none := by decide +kernel

end Config
end DesiredState
