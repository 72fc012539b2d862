import Curator.Failure.Configuration
import Curator.Failure.Request
/-!
# Failures

Every way an operation of the engine can end without a result.  A failure carries its cause; the
words for it are one function of the cause.  Its category is what callers tell failures apart by.
-/

set_option autoImplicit false

namespace Curator

/-- The kind of write an operation performs. -/
inductive WriteKind where
  | create
  | update
  | upsert
  deriving DecidableEq, Repr

def WriteKind.text : WriteKind → String
  | .create => "create"
  | .update => "update"
  | .upsert => "upsert"

/-- Why the value of a field is refused. -/
inductive FieldFault where
  /-- The first broken rule of a write, in its own words. -/
  | rule (kind : WriteKind) (field words : String)
  /-- A transform does not take the value. -/
  | transform (field words : String)
  /-- A hook rejected the operation. -/
  | aborted (point : String) (reason : String)
  /-- A key of a nullable JSON value is not allowed. -/
  | jsonKey (field : String)

/-- What a request names that is not there. -/
inductive AbsenceFault where
  | read
  | restore
  | related (kind : WriteKind) (field : String)
  | inCollection
  deriving Repr

inductive ConflictFault where
  /-- The database refused a duplicate, in its own words. -/
  | refused (words : String)
  | unique (kind : WriteKind) (fields : List String)
  deriving Repr

inductive UnexpectedFault where
  | integrity (words : String)
  | database (words : String)
  | upsert (words : String)
  | keyNotReturned
  | transform (fault : TransformFault)
  | noSoftDeletes (action : String) (resource : Value)

/-- A use of the engine that its interface rules out. -/
inductive MisuseFault where
  | identifier (value : Value)
  | columnAlias (value : Value)
  | emptyPath
  | pathKey (key : Value)
  | connector (name : String)
  | unmatchedGroupEnd
  | noTable
  | openGroup
  | joinedDelete
  | unconditionalDelete
  | conflictFieldsMissing
  | emptyRow
  | unregisteredHook (name : String)
  | notConnected
  | notAMoment (kind : String)
  | missingKey (key : String)

/-- The kinds of fault that carry no words of the engine. -/
inductive FaultKind where
  | type
  | value
  | key
  | attribute
  | overflow
  | system
  | json
  | encoding
  deriving DecidableEq, Repr

/-- What callers tell failures apart by. -/
inductive Category where
  | configuration
  | field
  | missing
  | request
  | absent
  | conflict
  | unexpected
  | runtime
  | fault (kind : FaultKind)
  | other (name : String)
  deriving DecidableEq, Repr

inductive Failure where
  | configuration (cause : ConfigurationFault)
  | field (cause : FieldFault)
  | missing (kind : WriteKind) (fields : List String)
  | request (cause : RequestFault)
  | absent (cause : AbsenceFault)
  | conflict (cause : ConflictFault)
  | unexpected (cause : UnexpectedFault)
  | misuse (cause : MisuseFault)
  /-- The machinery below the engine failed, in its own words. -/
  | fault (kind : FaultKind) (words : String)
  /-- A hook or a listener reported a failure of its own. -/
  | reported (category : Category) (words : String)

def FieldFault.text : FieldFault → String
  | .rule kind _ words => "Unable to " ++ kind.text ++ " resource: " ++ words
  | .transform field words => s!"Invalid value for field ({field}): {words}"
  | .aborted point reason => s!"Unable to {point} resource: {reason}"
  | .jsonKey field =>
    s!"Invalid {field} key: Keys can only contain alphanumeric characters, underscores and dashes"

/-- The field a fault is about, where it is about one. -/
def FieldFault.field? : FieldFault → Option String
  | .rule _ field _ => some field
  | .transform field _ => some field
  | .aborted _ _ => none
  | .jsonKey field => some field

def AbsenceFault.text : AbsenceFault → String
  | .read => "Unable to read resource: Resource does not exist"
  | .restore => "Unable to restore resource: Resource does not exist"
  | .related kind field =>
    "Unable to " ++ kind.text ++ s!" resource: Related field ({field}) does not exist"
  | .inCollection => "Unable to read resource from collection: Resource does not exist"

def ConflictFault.text : ConflictFault → String
  | .refused words => "Unable to write resource: " ++ words
  | .unique kind fields =>
    "Unable to " ++ kind.text ++ " resource: Field (" ++ Text.join ", " fields ++
      ") must be unique"

def UnexpectedFault.text : UnexpectedFault → String
  | .integrity words => "Integrity error: " ++ words
  | .database words => "Database error: " ++ words
  | .upsert words => "Unable to upsert resource: " ++ words
  | .keyNotReturned => "Unable to create resource: Primary key was not returned"
  | .transform fault => fault.text
  | .noSoftDeletes action resource =>
    s!"Unable to {action} resource: " ++ resource.text ++ " does not support soft deletes"

def MisuseFault.text : MisuseFault → String
  | .identifier value => "Invalid SQL identifier: " ++ value.literal
  | .columnAlias value => "Invalid column alias: " ++ value.literal
  | .emptyPath => "Empty JSON path"
  | .pathKey key => "Invalid JSON path key: " ++ key.literal
  | .connector name => "Invalid condition connector: " ++ name
  | .unmatchedGroupEnd => "end_group() called without a matching start_group()"
  | .noTable => "No table selected"
  | .openGroup => "Unclosed condition group"
  | .joinedDelete => "Cannot delete from a joined query"
  | .unconditionalDelete => "Refusing to delete without a condition"
  | .conflictFieldsMissing => "Overwriting insert requires conflict fields"
  | .emptyRow => "Cannot insert an empty row"
  | .unregisteredHook name =>
    s!"Hook '{name}' is not registered. Hooks must be registered before schemas reference them."
  | .notConnected => "Database not connected"
  | .notAMoment kind => "Expected datetime or epoch seconds, got " ++ kind
  | .missingKey key => key

def MisuseFault.category : MisuseFault → Category
  | .notConnected => .runtime
  | .notAMoment _ => .fault .type
  | .missingKey _ => .fault .key
  | _ => .fault .value

namespace Failure

def category : Failure → Category
  | .configuration _ => .configuration
  | .field _ => .field
  | .missing _ _ => .missing
  | .request _ => .request
  | .absent _ => .absent
  | .conflict _ => .conflict
  | .unexpected _ => .unexpected
  | .misuse cause => cause.category
  | .fault kind _ => .fault kind
  | .reported category _ => category

/-- The words of a failure. -/
def text : Failure → String
  | .configuration cause => cause.text
  | .field cause => cause.text
  | .missing kind fields =>
    "Unable to " ++ kind.text ++ " resource: Missing required fields (" ++
      Text.join ", " fields ++ ")"
  | .request cause => cause.text
  | .absent cause => cause.text
  | .conflict cause => cause.text
  | .unexpected cause => cause.text
  | .misuse cause => cause.text
  | .fault _ words => words
  | .reported _ words => words

/-- The field a failure is about, where it is about one. -/
def field? : Failure → Option String
  | .field cause => cause.field?
  | .missing _ fields => fields.head?
  | _ => none

/-- Whether a transform that fails so has refused its value: the value or its kind was wrong. -/
def refusesValue (f : Failure) : Bool :=
  match f.category with
  | .fault .type => true
  | .fault .value => true
  | .fault .json => true
  | .fault .encoding => true
  | _ => false

def isOfEngine (f : Failure) : Bool :=
  match f.category with
  | .configuration => true
  | .field => true
  | .missing => true
  | .request => true
  | .absent => true
  | .conflict => true
  | .unexpected => true
  | _ => false

/-- The fault of an integer with too many digits to be written. -/
def digits : Failure :=
  .fault .value "Exceeds the limit (4300 digits) for integer string conversion"

/-- A failure that quotes a value, or the fault that the value cannot be written. -/
def quoting (value : Value) (failure : Value → Failure) : Failure :=
  if value.isWritable then failure value else .digits

end Failure

/-- The text of a value, unless it holds an integer too long to be written. -/
def Value.text? (v : Value) : Except Failure String :=
  if v.isWritable then .ok v.text else .error .digits

end Curator
