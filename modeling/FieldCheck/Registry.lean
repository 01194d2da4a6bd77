import FieldCheck.Library
import FieldCheck.RegistrationError

namespace FieldCheck

structure Registry where
  rules : OrderedMap String Rule
  filters : OrderedMap String Filter
  callbacks : OrderedMap String Callback

namespace Registry

def empty : Registry := ⟨.empty, .empty, .empty⟩

instance : Inhabited Registry := ⟨empty⟩

/-- A later rule takes the place of an earlier one of the same name. -/
def addRule (registry : Registry) (rule : Rule) : Registry :=
  { registry with rules := registry.rules.insert rule.name rule }

def addFilter (registry : Registry) (filter : Filter) : Registry :=
  { registry with filters := registry.filters.insert filter.name filter }

def addCallback (registry : Registry) (callback : Callback) : Registry :=
  { registry with callbacks := registry.callbacks.insert callback.name callback }

def builtin : Registry :=
  let registry := Library.rules.foldl addRule empty
  let registry := Library.filters.foldl addFilter registry
  Library.callbacks.foldl addCallback registry

def rule (registry : Registry) (name : String) : Except RegistrationError Rule :=
  match registry.rules.get? name with
  | some rule => .ok rule
  | none => .error (.unknownRule name)

def filter (registry : Registry) (name : String) : Except RegistrationError Filter :=
  match registry.filters.get? name with
  | some filter => .ok filter
  | none => .error (.unknownFilter name)

def callback (registry : Registry) (name : String) : Except RegistrationError Callback :=
  match registry.callbacks.get? name with
  | some callback => .ok callback
  | none => .error (.unknownCallback name)

/-- Names in the order of their code points. -/
def sorted (names : List String) : List String :=
  names.mergeSort fun left right => !decide (right < left)

def ruleNames (registry : Registry) : List String :=
  sorted registry.rules.keys

end Registry

end FieldCheck
