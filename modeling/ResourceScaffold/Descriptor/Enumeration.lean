import ResourceScaffold.Descriptor.Basic
import ResourceScaffold.Schema.Relations
import ResourceScaffold.Text.Words
import ResourceScaffold.Text.Identifier

/-!
# Enumerations

The class of an enumeration field has one member for each option: its name is made from the label, its value is the
text of the value.
-/

namespace ResourceScaffold

/-- The first character of a text in upper case and the others as they are. -/
def raiseFirst (s : String) : String :=
  String.ofList (Text.upperChars (s.toList.take 1) ++ s.toList.drop 1)

/-- The name that is made for the enumeration of a field. -/
def defaultEnumName (e : Entity) (f : Field) : Except Fault Value :=
  match f.name with
  | .text s => .ok (.text ("Enum" ++ e.name.display ++ raiseFirst s))
  | .illFormed t => .ok (.text ("Enum" ++ e.name.display ++ raiseFirst t.text.shown))
  | .list _ => .error (.misuse .missingOperation)
  | _ => .error (.misuse .wrongOperand)

/-- The name of the enumeration of a field: the declared one, which has to be an identifier, or else a made one. -/
def enumName (e : Entity) (f : Field) : Except Fault Value :=
  let declared := f.properties.getD "enumName"
  if declared.isTruthy then
    if Text.isIdentifier declared.display then .ok declared
    else .error (.ofField e.name f.name (.badEnumName declared))
  else defaultEnumName e f

/-- An option of an enumeration: an object with a value and perhaps a label, or a value that is its own label. -/
structure EnumOption where
  value : Value
  label : Value
  deriving Repr, Inhabited

/-- The option that an element of the options describes. -/
def EnumOption.ofValue (v : Value) : EnumOption :=
  match v.unmarked with
  | .mapping members =>
      let value := Entries.getD members "value"
      let label := Entries.getD members "label"
      { value, label := if label.isTruthy then label else value }
  | _ => { value := v, label := v }

/-- Whether an option has neither null nor the empty text as its value. -/
def EnumOption.hasValue (o : EnumOption) : Bool :=
  match o.value with
  | .null => false
  | .text s => s != ""
  | _ => true

/-- The name of the member of an option. -/
def EnumOption.memberName (o : EnumOption) : String :=
  Text.constantName o.label.display

/-- The members before an option and the member of the option, unless its value is missing or its name is taken. -/
def addMember (e : Entity) (f : Field) (members : List EnumMember) (v : Value) : Except Fault (List EnumMember) :=
  let o := EnumOption.ofValue v
  if !o.hasValue then .error (.ofField e.name f.name .optionWithoutValue)
  else if members.any fun m => m.name == o.memberName then .error (.ofField e.name f.name (.repeatedOption o.memberName))
  else .ok (members ++ [{ name := o.memberName, value := o.value.wide }])

/-- The enumeration class of a field. -/
def EnumDescriptor.ofField (e : Entity) (f : Field) : Except Fault EnumDescriptor := do
  let options ← (← enumOptions e f).elements
  let members ← options.foldlM (addMember e f) []
  let name ← enumName e f
  return { name, members }

end ResourceScaffold
