import FieldCheck.Registry

namespace FieldCheck

/-- A rule as it was registered, with its arguments. -/
structure BoundRule where
  name : String
  arguments : List String
  origin : Origin
  check : Check

/-- Entries by target, the targets in the order in which they first came up. -/
abbrev Groups (α : Type) := OrderedMap Target (List α)

namespace Groups

def add (groups : Groups α) (target : Target) (entry : α) : Groups α :=
  groups.insert target ((groups.get? target).getD [] ++ [entry])

/-- The fields that are targets themselves. -/
def fieldNames (groups : Groups α) : List String :=
  groups.keys.filterMap Target.name?

end Groups

inductive FilterStage where
  | pre
  | post
deriving DecidableEq

structure Pipeline where
  registry : Registry
  config : Config
  resolver : Option Resolver
  preFilters : Groups Filter
  rules : Groups BoundRule
  callbacks : Groups Callback
  postFilters : Groups Filter
  shapes : OrderedMap String Shape

/-- Drops every item that came up before. -/
def distinct [DecidableEq α] : List α → List α
  | [] => []
  | item :: rest => item :: (distinct rest).filter (· ≠ item)

namespace Pipeline

def new (registry : Registry) (config : Config) : Pipeline :=
  ⟨registry, config, none, .empty, .empty, .empty, .empty, .empty⟩

instance : Inhabited Pipeline := ⟨new default default⟩

def setResolver (pipeline : Pipeline) (resolver : Resolver) : Pipeline :=
  { pipeline with resolver := some resolver }

def allowEmpty (pipeline : Pipeline) (rule : String) : Pipeline :=
  { pipeline with config := pipeline.config.allowEmpty rule }

def declare (pipeline : Pipeline) (field : String) (shape : Shape) : Pipeline :=
  { pipeline with shapes := pipeline.shapes.insert field shape }

def addFilter (pipeline : Pipeline) (stage : FilterStage) (target : Target)
    (filter : Filter) : Pipeline :=
  match stage with
  | .pre => { pipeline with preFilters := pipeline.preFilters.add target filter }
  | .post => { pipeline with postFilters := pipeline.postFilters.add target filter }

def addFilterNamed (pipeline : Pipeline) (stage : FilterStage) (target : Target)
    (name : String) : Except RegistrationError Pipeline :=
  (pipeline.registry.filter name).map (pipeline.addFilter stage target)

def addBoundRule (pipeline : Pipeline) (target : Target) (rule : BoundRule) : Pipeline :=
  { pipeline with rules := pipeline.rules.add target rule }

/-- Declares the shape of the target, when the rule has one and the target is a field. -/
def declareShape (pipeline : Pipeline) (target : Target) (rule : Rule) : Pipeline :=
  match rule.shape, target.name? with
  | some shape, some field => pipeline.declare field shape
  | _, _ => pipeline

/-- Looks a rule up and checks the arguments against its contract. -/
def addRule (pipeline : Pipeline) (target : Target) (spec : RuleSpec) :
    Except RegistrationError Pipeline :=
  match pipeline.registry.rule spec.name with
  | .error error => .error error
  | .ok rule =>
      match rule.contract.fault? spec.arguments with
      | some fault => .error (.invalidArguments spec.name fault)
      | none =>
          .ok ((pipeline.declareShape target rule).addBoundRule target
            ⟨spec.name, spec.arguments, rule.origin, rule.check⟩)

def addCallback (pipeline : Pipeline) (target : Target) (callback : Callback) : Pipeline :=
  { pipeline with callbacks := pipeline.callbacks.add target callback }

def addCallbackNamed (pipeline : Pipeline) (target : Target) (name : String) :
    Except RegistrationError Pipeline :=
  (pipeline.registry.callback name).map (pipeline.addCallback target)

/-- Every field that something is registered on or whose shape is declared, each once,
stage by stage. -/
def fieldNames (pipeline : Pipeline) : List String :=
  distinct (pipeline.preFilters.fieldNames ++ pipeline.rules.fieldNames ++
    pipeline.callbacks.fieldNames ++ pipeline.postFilters.fieldNames ++ pipeline.shapes.keys)

/-- A field without a declared shape is a scalar. -/
def shape (pipeline : Pipeline) (field : String) : Shape :=
  (pipeline.shapes.get? field).getD .scalar

def rulesFor (pipeline : Pipeline) (target : Target) : List String :=
  ((pipeline.rules.get? target).getD []).map BoundRule.name

end Pipeline

end FieldCheck
