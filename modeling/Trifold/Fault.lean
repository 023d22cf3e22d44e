import Trifold.Element.Kind
import Trifold.Misuse
import Trifold.Platform.Name

namespace Trifold

inductive BadSetting where
  | timeout (given : String)
  | noPlatforms
  | unknownPlatform (given : String)
  | namespaceForm (given : String)
  deriving DecidableEq, Repr

inductive SignalError where
  | unknownSignal
  | invalidTypeFormat
  deriving DecidableEq, Repr

-- What is thrown and is no error counts by its text, which it has to have.
inductive Fault where
  | circularStyle (walk : List String)
  | duplicateId (id : String) (owners : List Kind)
  | danglingLabel (target : String) (inputs : List String)
  | missingElement (id : String)
  | missingRoot (platform : Platform)
  | badSetting (problem : BadSetting)
  | badSignal (name : String) (reason : SignalError)
  | misuse (cause : Misuse)
  | raised (message : String)
  | thrown (text : String)
  | unheard

def SignalError.name : SignalError → String
  | unknownSignal => "unknown_signal"
  | invalidTypeFormat => "invalid_type_format"

def platformNames : String := ", ".intercalate (Platform.all.map Platform.name)

def BadSetting.message : BadSetting → String
  | timeout given => s!"timeoutMs must be a positive integer (got {given})."
  | noPlatforms => s!"platforms must be a non-empty list drawn from {platformNames}."
  | unknownPlatform given => s!"unknown platform \"{given}\". Fix: use one of {platformNames}."
  | namespaceForm given => s!"namespace \"{given}\" must be one lowercase segment matching ^[a-z][a-z0-9_]*$."

namespace Fault

def code? : Fault → Option String
  | circularStyle _ => some "UI_CIRCULAR_STYLE"
  | duplicateId .. => some "UI_DUPLICATE_ID"
  | danglingLabel .. => some "UI_DANGLING_LABEL_REF"
  | missingElement _ | missingRoot _ => some "UI_ELEMENT_NOT_FOUND"
  | badSetting _ => some "UI_INVALID_CONFIG"
  | badSignal .. => some "UI_INVALID_SIGNAL"
  | _ => none

def quotedList (names : List String) : String :=
  if names.isEmpty then "(none)" else ", ".intercalate (names.map fun name => s!"\"{name}\"")

def message : Fault → String
  | circularStyle walk => "Circular style inheritance detected: " ++ " -> ".intercalate walk
  | duplicateId id owners =>
      s!"Duplicate ID found: \"{id}\"\nThe following elements share the same ID:\n" ++
        "\n".intercalate (owners.map fun kind => "  - " ++ kind.name)
  | danglingLabel target inputs =>
      s!"Invalid label reference: \"for\" references \"{target}\", but no text input with that ID exists. " ++
        s!"Available input IDs: {quotedList inputs}"
  | missingElement id => s!"Element with id \"{id}\" not found"
  | missingRoot platform => s!"No root rendered for platform \"{platform.name}\""
  | badSetting problem => "createNodeCoordinator config: " ++ problem.message
  | badSignal name reason => s!"Failed to create signal \"{name}\": {reason.name}"
  | misuse cause => cause.message
  | raised message => message
  | thrown text => text
  | unheard => "Unhandled error."

end Fault

end Trifold
