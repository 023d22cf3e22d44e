import Trifold.Element.Tree

namespace Trifold

inductive Issue where
  | duplicateId
  | missingIdOnTextInput
  | emptyLayout
  deriving DecidableEq, Repr

inductive MissingPart where
  | label
  | content
  | unknownType
  deriving DecidableEq, Repr

def Issue.name : Issue → String
  | duplicateId => "duplicate_id"
  | missingIdOnTextInput => "missing_id_on_text_input"
  | emptyLayout => "empty_layout"

def MissingPart.name : MissingPart → String
  | label => "missing_label"
  | content => "missing_content"
  | unknownType => "unknown_type"

namespace Tree

def distinct (names : List String) : List String :=
  names.foldl (fun seen name => if seen.contains name then seen else seen ++ [name]) []

def isBareInput (element : Element) : Bool := element.kind == .textInput && element.id.isNone

def isEmptyLayout (element : Element) : Bool :=
  (element.kind == .vbox || element.kind == .hbox) && element.contents.isEmpty

def issues (root : Value) : List Issue :=
  let ids := ids root
  (if (distinct ids).length != ids.length then [Issue.duplicateId] else []) ++
    (if any root isBareInput then [Issue.missingIdOnTextInput] else []) ++
    (if any root isEmptyLayout then [Issue.emptyLayout] else [])

def firstRepeat (seen : List String) : List String → Option String
  | [] => none
  | id :: rest => if seen.contains id then some id else firstRepeat (id :: seen) rest

def owners (root : Value) : List (String × Kind) :=
  gather root fun element => element.id.map fun id => (id,element.kind)

def verifyUniqueIds (root : Value) : Except Fault Unit :=
  let owners := owners root
  match firstRepeat [] (owners.map (·.1)) with
  | none => .ok ()
  | some id => .error (.duplicateId id ((owners.filter (·.1 == id)).map (·.2)))

def inputIds (root : Value) : List String :=
  gather root fun element => if element.kind = .textInput then element.id else none

def labelTarget? (element : Element) : Option String :=
  match element.body with
  | .label target _ => target
  | _ => none

def verifyLabels (root : Value) : Except Fault Unit :=
  let inputs := inputIds root
  match (gather root labelTarget?).find? (!inputs.contains ·) with
  | none => .ok ()
  | some target => .error (.danglingLabel target inputs)

def verify (root : Value) : Except Fault Unit := do
  verifyUniqueIds root
  verifyLabels root

def isFilled (content : Option String) : Bool := content.any (!·.isEmpty)

-- Buttons need a label and texts a content. Layouts and lists answer for what they hold, up to the first failure.
mutual
def missingPart (value : Value) : Option MissingPart :=
  match value with
  | .list items => missingAmong items
  | value =>
      match _ : Element.ofValue? value with
      | none => some .unknownType
      | some element =>
          match element.body with
          | .button it => if isFilled it.label then none else some .label
          | .text content => if isFilled content then none else some .content
          | .vbox _ | .hbox _ => missingAmong element.contents
          | _ => none
termination_by sizeOf value
decreasing_by
  · simp
  · exact Element.contents_lt (by assumption)
def missingAmong (values : List Value) : Option MissingPart :=
  match values with
  | [] => none
  | value :: rest => (missingPart value).orElse fun _ => missingAmong rest
termination_by sizeOf values
end

end Tree

end Trifold
