import FieldCheck.Pipeline.Basic

namespace FieldCheck

/-! Running a pipeline on a record.

Missing fields are filled in and pre-filters applied. A record that was submitted then
goes through rules, callbacks and post-filters. A stage is a fold over its visits, the
pairs of an entry and a field in the order in which they are met. The record has the
same fields from the filling in to the end.
-/

/-- A call that was made in the course of a run. -/
inductive Event where
  | filtered (name : String) (origin : Origin) (field : String) (input : Value)
  | checked (name : String) (origin : Origin) (field : String) (value : Value)
  | asked (domain : String)
  | calledBack (name : String) (origin : Origin) (field : String)

/-- The state between two visits. -/
structure Progress where
  record : Record
  errors : ErrorMap
  trace : List Event

/-- What a run leaves behind. -/
structure Run where
  accepted : Bool
  record : Record
  errors : ErrorMap
  trace : List Event

namespace Groups

/-- Each field of the target of a group in turn takes all its entries. -/
def groupVisits (present : List String) : Target × List α → List (String × α)
  | (target, entries) =>
      (target.fields present).flatMap fun field => entries.map fun entry => (field, entry)

/-- Each entry of a group in turn goes through all fields of the target. -/
def entryVisits (groups : Groups α) (present : List String) : List (String × α) :=
  groups.entries.flatMap fun (target, entries) =>
    entries.flatMap fun entry => (target.fields present).map fun field => (field, entry)

end Groups

namespace Pipeline

/-- Gives a missing or null field the placeholder of its shape. -/
def fillIn (pipeline : Pipeline) (record : Record) (field : String) : Record :=
  match record.get? field with
  | none | some .null => record.insert field (pipeline.shape field).placeholder
  | some _ => record

def prepopulate (pipeline : Pipeline) (record : Record) : Record :=
  pipeline.fieldNames.foldl pipeline.fillIn record

def filterStep (progress : Progress) (visit : String × Filter) : Progress :=
  let (field, filter) := visit
  let value := progress.record.value field
  { progress with
    record := progress.record.insert field (value.mapScalars filter.apply)
    trace := progress.trace ++ value.scalars.map (.filtered filter.name filter.origin field) }

/-- A group of filters goes through the fields of the record that the groups before left. -/
def filterGroup (progress : Progress) (group : Target × List Filter) : Progress :=
  (Groups.groupVisits progress.record.keys group).foldl filterStep progress

def applyFilters (groups : Groups Filter) (progress : Progress) : Progress :=
  groups.entries.foldl filterGroup progress

def context (pipeline : Pipeline) (record : Record) : Context :=
  ⟨record, pipeline.config, pipeline.resolver⟩

/-- Whether a rule has anything to judge: a value that is not blank, or a rule that runs
on blank values too. -/
def applicable (pipeline : Pipeline) (record : Record) (field : String)
    (rule : BoundRule) : Bool :=
  !(record.value field).isBlank || pipeline.config.isEmptyExempt rule.name

/-- A rule passes over a field that has failed. If its verdict is negative, its name is
the code of the field. -/
def ruleStep (pipeline : Pipeline) (progress : Progress) (visit : String × BoundRule) :
    Progress :=
  let (field, rule) := visit
  if progress.errors.contains field || !pipeline.applicable progress.record field rule then
    progress
  else
    let value := progress.record.value field
    let verdict := rule.check value rule.arguments (pipeline.context progress.record)
    { progress with
      errors :=
        if verdict.passed then progress.errors else progress.errors.insert field rule.name
      trace := progress.trace ++
        .checked rule.name rule.origin field value :: verdict.asked.map .asked }

def applyRules (pipeline : Pipeline) (progress : Progress) : Progress :=
  (pipeline.rules.entryVisits progress.record.keys).foldl pipeline.ruleStep progress

/-- A callback passes over a field that has failed, and may fail any field. -/
def callbackStep (progress : Progress) (visit : String × Callback) : Progress :=
  let (field, callback) := visit
  if progress.errors.contains field then progress
  else
    { progress with
      errors := progress.errors.insertAll (callback.run progress.record progress.errors field)
      trace := progress.trace ++ [.calledBack callback.name callback.origin field] }

def applyCallbacks (pipeline : Pipeline) (progress : Progress) : Progress :=
  (pipeline.callbacks.entryVisits progress.record.keys).foldl callbackStep progress

/-- The part of a run that every record goes through. -/
def prepare (pipeline : Pipeline) (record : Record) (errors : ErrorMap) : Progress :=
  applyFilters pipeline.preFilters ⟨pipeline.prepopulate record, errors, []⟩

/-- The part of a run for a record that was submitted. -/
def judge (pipeline : Pipeline) (progress : Progress) : Progress :=
  applyFilters pipeline.postFilters
    (pipeline.applyCallbacks (pipeline.applyRules progress))

/-- A record is accepted if it was submitted and no field has failed, now or before. -/
def run (pipeline : Pipeline) (record : Record) (errors : ErrorMap) (submitted : Bool) :
    Run :=
  let prepared := pipeline.prepare record errors
  if submitted then
    let judged := pipeline.judge prepared
    ⟨judged.errors.isEmpty, judged.record, judged.errors, judged.trace⟩
  else ⟨false, prepared.record, prepared.errors, prepared.trace⟩

end Pipeline

end FieldCheck
