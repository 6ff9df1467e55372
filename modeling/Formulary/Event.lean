import Formulary.Calculation
import Formulary.Decimal.FieldInteger
import Formulary.Json.Printer
/-!
# Events

An event records what came of a formula, or that a configuration was loaded. Before it is recorded
its context is sanitized, and an event that lacks context its kind requires says so and counts as a
warning. Not every event has a record: what keeps it from being written is a `Json.DumpError`.
-/

set_option autoImplicit false
namespace Formulary

inductive Level where
  | info
  | warning
  | error
  deriving DecidableEq, Repr

namespace Level

def all : List Level := [info, warning, error]

def name : Level → String
  | info => "info"
  | warning => "warning"
  | error => "error"

def ofName? (s : String) : Option Level := all.find? (·.name == s)

end Level

inductive EventKind where
  | formulaEvaluated
  | formulaFailed
  | variablesMissing
  | configLoaded
  deriving DecidableEq, Repr

namespace EventKind

def all : List EventKind := [formulaEvaluated, formulaFailed, variablesMissing, configLoaded]

def name : EventKind → String
  | formulaEvaluated => "formula_evaluated"
  | formulaFailed => "formula_failed"
  | variablesMissing => "variables_missing"
  | configLoaded => "config_loaded"

def ofName? (s : String) : Option EventKind := all.find? (·.name == s)

/-- The context that an event of the kind must have, in the order of the names. -/
def required : EventKind → List String
  | formulaEvaluated => ["formula"]
  | formulaFailed => ["formula"]
  | variablesMissing => ["formula", "missing"]
  | configLoaded => []

end EventKind

/-- What an event is about: values by name. -/
abbrev Context := Table String Datum

namespace Context

/-- Longer texts are cut. -/
def maxText : Nat := 256

def cutMark : String := "...[truncated]"

/-- A text of at most `maxText` characters, and the mark behind one that was cut. -/
def cut (s : String) : String :=
  if maxText < s.length then String.ofList (s.toList.take maxText) ++ cutMark else s

/-- Code points that are cut as a text is. -/
def cutCodes (ps : List CodePoint) : List CodePoint :=
  if maxText < ps.length then ps.take maxText ++ cutMark.toList.map .char else ps

theorem isUnpaired_cutCodes {ps : List CodePoint} (h : CodePoint.isUnpaired ps = true) :
    CodePoint.isUnpaired (cutCodes ps) = true := by
  unfold cutCodes
  split
  · exact CodePoint.isUnpaired_take_append maxText h _
  · exact h

mutual

/-- A value whose texts are cut and whose numbers are finite; the other numbers become texts, and tuples
become lists. Sets are not looked into. -/
def clean : Datum → Datum
  | .float x => if Binary64.isFinite x then .float x else .text (Decimal.text x)
  | .text s => .text (cut s)
  | .broken t => .ofCodes (cutCodes t.codes) (isUnpaired_cutCodes t.unpaired)
  | .list items | .tuple items => .list (cleanItems items)
  | .map entries => .map (cleanEntries entries)
  | .null => .null
  | .bool b => .bool b
  | .int n => .int n
  | .bytes bs => .bytes bs
  | .date d => .date d
  | .moment m => .moment m
  | .set items => .set items

def cleanItems : List Datum → List Datum
  | [] => []
  | d :: ds => clean d :: cleanItems ds

def cleanEntries : List (Datum × Datum) → List (Datum × Datum)
  | [] => []
  | (k, v) :: es => (k, clean v) :: cleanEntries es

end

def sanitize (c : Context) : Context := c.map clean

mutual

/-- A value with text keys, without numbers that are not finite, which become null, and with texts for
bytes and lists for tuples and sets. -/
def strict : Datum → Datum
  | .float x => if Binary64.isFinite x then .float x else .null
  | .bytes bs => .text ((Json.utf8? bs).getD "")
  | .list items | .tuple items | .set items => .list (strictItems items)
  | .map entries => .map (strictEntries [] entries)
  | .null => .null
  | .bool b => .bool b
  | .int n => .int n
  | .text s => .text s
  | .broken t => .broken t
  | .date d => .date d
  | .moment m => .moment m

def strictItems : List Datum → List Datum
  | [] => []
  | d :: ds => strict d :: strictItems ds

/-- Enters entries under the texts of their keys; of keys with one text the last value counts. -/
def strictEntries (done : List (Datum × Datum)) : List (Datum × Datum) → List (Datum × Datum)
  | [] => done
  | (k, v) :: es => strictEntries (Datum.putEntry (.text (Json.keyText k)) (strict v) done) es

end

end Context

/-- One record about a formula or its configuration. -/
structure Event where
  schemaVersion : Int
  stamp : String
  level : Level
  kind : EventKind
  message : String
  errorCode : Option String
  context : Context

namespace Event

def currentVersion : Int := 1

/-- The name of the context that lists what is missing from it. -/
def missingName : String := "_missing_attribution"

/-- The context of an event about a formula. -/
def formulaContext (formula : Datum) (more : List (String × Datum)) : Context :=
  (Table.ofList [("formula", formula)]).insertAll more

/-- An event about a formula. -/
def forFormula (stamp : String) (kind : EventKind) (level : Level) (message : String)
    (formula : Datum) (errorCode : Option String) (more : List (String × Datum)) : Event where
  schemaVersion := currentVersion
  stamp := stamp
  level := level
  kind := kind
  message := message
  errorCode := errorCode
  context := formulaContext formula more

/-- An event that is not about a single formula. -/
def info (stamp : String) (kind : EventKind) (message : String) (context : Context) : Event where
  schemaVersion := currentVersion
  stamp := stamp
  level := .info
  kind := kind
  message := message
  errorCode := none
  context := context

/-- The formula that the event is about. -/
def formula (e : Event) : Datum := (e.context.get? "formula").getD .null

/-- The required context that the event lacks. -/
def missing (e : Event) : List String := e.kind.required.filter fun name => !e.context.contains name

/-- The event as it is recorded. -/
def prepared (e : Event) : Event :=
  let context := e.context.sanitize
  if e.missing.isEmpty then { e with context }
  else
    { e with
      level := .warning
      context := context.insert missingName (.list (e.missing.map .text)) }

/-- The event as data. -/
def record (e : Event) : Datum :=
  .ofFields
    [("schema_version", .int e.schemaVersion), ("ts", .text e.stamp),
     ("level", .text e.level.name), ("event_type", .text e.kind.name),
     ("message", .text e.message), ("error_code", (e.errorCode.map Datum.text).getD .null),
     ("context", Context.strict (.ofFields e.context.entries))]

/-- What keeps the event from being written: first its keys and bytes, then its integers. -/
def dumpError? (e : Event) : Option Json.DumpError :=
  (Json.dumpError? (.ofFields e.context.entries)).or
    (if e.record.isShowable then none else some .tooManyDigits)

/-- The event of a calculation. -/
def ofCalculation (stamp : String) (formula : Datum) (bindings : Bindings) (c : Calculation) :
    Event :=
  let bound : String × Datum := ("bindings", .ofFields bindings.entries)
  match c.outcome with
  | .error (.unbound names) =>
    let f := Failure.unbound names
    forFormula stamp .variablesMissing .warning f.message formula (some f.code)
      [("missing", .list (names.map .text))]
  | .error (.evaluation e) =>
    forFormula stamp .formulaFailed .error e.message formula (some e.code) [bound]
  | .ok value =>
    forFormula stamp .formulaEvaluated .info "Formula evaluated" formula none
      [bound, ("value", (value.map Datum.float).getD .null)]

/-! An event that is given as data is checked field by field. -/

/-- A field that may be missing. -/
def checkField {α : Type} (fields : List (Datum × Datum)) (name : String)
    (default : Except FieldFault α) (read : Datum → Except FieldFault α) : Except FieldFault α :=
  match Datum.field? name fields with
  | some d => read d
  | none => default

/-- Whether a number lies within the integers of 64 bits. -/
def isInt64 (x : Float) : Bool := -9223372036854775808.0 < x && x < 9223372036854775808.0

def readVersion : Datum → Except FieldFault Int
  | .int n => .ok n
  | .bool b => .ok b.toNat
  | .float x =>
    if !Binary64.isFinite x then wrong "Input should be a finite number"
    else if !Binary64.isIntegral x then
      wrong "Input should be a valid integer, got a number with a fractional part"
    else if !isInt64 x then wrong tooLong
    else .ok ((Binary64.truncate? x).getD 0)
  | .text s =>
    match Numeral.readFieldInt s with
    | .ok n => .ok n
    | .error .unreadable =>
      wrong "Input should be a valid integer, unable to parse string as an integer"
    | .error .tooLong => wrong tooLong
  | _ => wrong "Input should be a valid integer"
where
  tooLong := "Unable to parse input string as an integer, exceeded maximum size"
  wrong (message : String) : Except FieldFault Int := .error ⟨"schema_version", message⟩

def readText (name : String) : Datum → Except FieldFault String
  | .text s => .ok s
  | _ => .error (.notText name)

def readChoice {α : Type} (name : String) (names : List String) (ofName? : String → Option α) :
    Datum → Except FieldFault α
  | .text s =>
    match ofName? s with
    | some a => .ok a
    | none => .error (.notOneOf name names)
  | _ => .error (.notOneOf name names)

/-- Enters fields whose names must be texts. -/
def enterFields (c : Context) : List (Datum × Datum) → Except FieldFault Context
  | [] => .ok c
  | (.text k, v) :: es => enterFields (c.insert k v) es
  | _ => .error (.notText "context")

def readContext : Datum → Except FieldFault Context
  | .map entries => enterFields .empty entries
  | _ => .error (.notMap "context")

/-- The fault of a field, if it has one. -/
def faultOf {α : Type} : Except FieldFault α → List FieldFault
  | .ok _ => []
  | .error f => [f]

/-- The event with the given fields, or the faults of those that are wrong. -/
def ofFields (stamp : String) (fields : List (Datum × Datum)) : Except (List FieldFault) Event :=
  let version := checkField fields "schema_version" (.ok currentVersion) readVersion
  let stamp := checkField fields "ts" (.ok stamp) (readText "ts")
  let level := checkField fields "level" (.error (.missing "level"))
    (readChoice "level" (Level.all.map Level.name) Level.ofName?)
  let kind := checkField fields "event_type" (.error (.missing "event_type"))
    (readChoice "event_type" (EventKind.all.map EventKind.name) EventKind.ofName?)
  let message := checkField fields "message" (.ok "") (readText "message")
  let errorCode := checkField fields "error_code" (.ok none) fun d =>
    match d with
    | .null => .ok none
    | d => (readText "error_code" d).map some
  let context := checkField fields "context" (.ok .empty) readContext
  match version, stamp, level, kind, message, errorCode, context with
  | .ok schemaVersion, .ok stamp, .ok level, .ok kind, .ok message, .ok errorCode, .ok context =>
    .ok { schemaVersion, stamp, level, kind, message, errorCode, context }
  | _, _, _, _, _, _, _ =>
    .error (faultOf version ++ faultOf stamp ++ faultOf level ++ faultOf kind ++ faultOf message ++
      faultOf errorCode ++ faultOf context)

end Event
end Formulary
