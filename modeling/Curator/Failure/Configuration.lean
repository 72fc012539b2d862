import Curator.Pattern.Reader
import Curator.Value.Literal
/-!
# Faults of configuration

What can be wrong with engine settings, with a resource definition and with a set of resources, and
the words for it.
-/

set_option autoImplicit false

namespace Curator

/-- A limit of a resource definition. -/
inductive LimitName where
  | defaultLimit
  | maxLimit
  deriving DecidableEq, Repr

def LimitName.text : LimitName → String
  | .defaultLimit => "default_limit"
  | .maxLimit => "max_limit"

/-- The invariant of a resource definition that does not hold. -/
inductive DefinitionFault where
  | identifier (value : Value)
  | nothingReadable
  | unreadablePrimaryKey (name : String)
  | unreadableCursor (name : String)
  | unreadableSearch (name : String)
  | requiredNotWritable (name : Value)
  | relatedUnknown (field : String)
  | relatedUnnamed (field : String)
  | uniqueUnknown (field : String)
  | mutatorNotWritable (field : String)
  | accessorNotReadable (field : String)
  | hookPoint (point : String)
  | limit (name : LimitName)
  | relatedDepth

def DefinitionFault.text : DefinitionFault → String
  | .identifier value => "invalid identifier " ++ value.literal
  | .nothingReadable => "no readable fields"
  | .unreadablePrimaryKey name => s!"primary key '{name}' is not readable"
  | .unreadableCursor name => s!"cursor field '{name}' is not readable"
  | .unreadableSearch name => s!"search field '{name}' is not readable"
  | .requiredNotWritable name => "required field '" ++ name.text ++ "' is not writable"
  | .relatedUnknown field => s!"related field '{field}' is neither readable nor writable"
  | .relatedUnnamed field => s!"related field '{field}' must name a resource"
  | .uniqueUnknown field => s!"unique field '{field}' is neither readable nor writable"
  | .mutatorNotWritable field => s!"mutator declared for non-writable field '{field}'"
  | .accessorNotReadable field => s!"accessor declared for non-readable field '{field}'"
  | .hookPoint point => s!"unknown hook point '{point}'"
  | .limit name => name.text ++ " must be an integer >= -1"
  | .relatedDepth => "max_related_depth must be an integer >= 1"

/-- Whether a transform applies on writing or on reading. -/
inductive TransformUse where
  | mutator
  | accessor
  deriving DecidableEq, Repr

def TransformUse.text : TransformUse → String
  | .mutator => "mutator"
  | .accessor => "accessor"

/-- A transform that cannot be found. -/
inductive TransformFault where
  | unregistered (name : String)
  | notATransform (value : Value)

def TransformFault.text : TransformFault → String
  | .unregistered name => s!"Transform '{name}' is not registered"
  | .notATransform value => "Transform " ++ value.literal ++ " is not callable"

/-- What one resource of a set gets wrong about the others. -/
inductive ReferenceFault where
  | unknownTarget (resource : Value) (field target : String)
  | transform (resource : Value) (field : String) (use : TransformUse) (fault : TransformFault)

def ReferenceFault.text : ReferenceFault → String
  | .unknownTarget resource field target =>
    "'" ++ resource.text ++ s!".{field}' relates to unknown resource '{target}'"
  | .transform resource field use fault =>
    "'" ++ resource.text ++ s!".{field}' " ++ use.text ++ ": " ++ fault.text

/-- The names of the types a field rule can ask for, in the order messages list them. -/
def fieldTypeNames : List String :=
  ["any", "string", "text", "integer", "number", "boolean", "email", "url", "uuid", "date",
    "datetime", "json"]

inductive ConfigurationFault where
  | settingNotInteger (name : String)
  | settingUnreadable (name : String) (value : Value)
  | engineLimits
  | engineRelatedDepth
  | engineFilterDepth
  | databaseUrl (value : Value)
  | urlScheme (url : String)
  | unreadableFile (path reason : String)
  | fileNotMapping (path : String)
  | duplicateResource (name : Value) (path first : String)
  | capability (value : Value)
  | alreadyRegistered (name : Value)
  | notAModel (name : Value)
  | softDeletesUnset (name : Value)
  | prunableUnset (name : Value)
  | nullableNotWritable (name : Value) (field : String)
  | unknownResource (name : String)
  | references (faults : List ReferenceFault)
  | ruleType (value : Value)
  | rulePattern (pattern : String) (fault : Pattern.FaultAt)
  | rules (value : Value)
  | definition (name : Value) (fault : DefinitionFault)

def ConfigurationFault.text : ConfigurationFault → String
  | .settingNotInteger name => s!"Invalid engine setting {name}: expected an integer"
  | .settingUnreadable name value =>
    s!"Invalid engine setting {name}: expected an integer, got " ++ value.literal
  | .engineLimits => "Engine limits must be integers >= -1"
  | .engineRelatedDepth => "Engine max_related_depth must be >= 1"
  | .engineFilterDepth => "Engine max_filter_depth must be >= 1"
  | .databaseUrl value => "Invalid database URL: " ++ value.literal
  | .urlScheme url => "Unsupported database URL scheme: " ++ url
  | .unreadableFile path reason => s!"Unable to parse {path}: {reason}"
  | .fileNotMapping path => path ++ " must contain a mapping"
  | .duplicateResource name path first =>
    "Duplicate resource '" ++ name.text ++ s!"' in {path} (already defined in {first})"
  | .capability value => "Invalid capability definition: " ++ value.literal
  | .alreadyRegistered name => "Resource '" ++ name.text ++ "' is already registered"
  | .notAModel name => "Model for '" ++ name.text ++ "' must subclass ResourceModel"
  | .softDeletesUnset name =>
    "Model for '" ++ name.text ++ "' uses SoftDeletes but the schema has no deleted_at_field"
  | .prunableUnset name =>
    "Model for '" ++ name.text ++ "' is Prunable but the schema has no prune_field"
  | .nullableNotWritable name field =>
    "Model for '" ++ name.text ++
      s!"' declares nullable JSON field '{field}' which is not writable"
  | .unknownResource name => s!"Unknown resource '{name}'"
  | .references faults => "Invalid resources: " ++ Text.join "; " (faults.map ReferenceFault.text)
  | .ruleType value =>
    "Unknown field rule type '" ++ value.text ++ "'. Valid types: " ++
      Text.join ", " fieldTypeNames
  | .rulePattern pattern fault => s!"Invalid field rule pattern '{pattern}': " ++ fault.text
  | .rules value => "Invalid field rules: " ++ value.literal
  | .definition name fault => "Invalid resource '" ++ name.text ++ "': " ++ fault.text

end Curator
