import ResourceScaffold.Schema.Relations

/-!
# Sample values

Values with which the generated tests call a resource: a minimal payload that creates an entity, and the record that is
read back.
-/

namespace ResourceScaffold

namespace Sample

/-- The sample id. -/
def id : String := "sample-id"

/-- The sample date. -/
def dateTime : String := "2026-01-01T00:00:00Z"

/-- The sample of a field that holds a scalar. -/
def ofDataType : DataType → Value
  | .id => .text id
  | .createdAt | .updatedAt | .dateTime => .text dateTime
  | .singleLineText | .multiLineText => .text "test"
  | .email => .text "test@example.com"
  | .wholeNumber => .int 1
  | .decimalNumber => .float (.finite false (3 * Nat.pow 2 51) (-52))
  | .boolean => .bool true
  | .json => .mapping []
  | .optionSet | .multiSelectOptionSet | .lookup => .null

/-- The first element of the options of an enumeration. -/
def firstOption (options : Value) : Except Fault Value :=
  match options.unmarked with
  | .list (first :: _) => .ok first
  | .bytes (b :: _) => .ok (.int b.toNat)
  | .text s =>
      match s.toList with
      | c :: _ => .ok (.text c.toString)
      | [] => .error (.misuse .absentKey)
  | .illFormed t =>
      match t.text.points with
      | p :: _ => .ok (.ofWide ⟨[p]⟩)
      | [] => .error (.misuse .absentKey)
  | .mapping entries =>
      match Table.find? entries (.int 0) with
      | some first => .ok first
      | none => .error (.misuse .absentKey)
  | _ => .error (.misuse .wrongOperand)

/-- The value of an option: the member of an object, or the option itself. -/
def optionValue (option : Value) : Value :=
  match option.unmarked with
  | .mapping members => Entries.getD members "value"
  | _ => option

/-- The sample of a field. -/
def value (e : Entity) (f : Field) (ids : Entries) : Except Fault Value :=
  match f.kind with
  | .relation => do
      let _ ← relatedName e f ids
      let target := Value.mapping [(.text "id", .text id)]
      return if f.isToMany then .list [target] else target
  | .enumeration many => do
      let first ← firstOption (← enumOptions e f)
      let v := optionValue first
      return if many then .list [v] else v
  | .scalar _ => .ok (ofDataType f.dataType)

/-- The entries with the sample of a field under its name. -/
def insertSample (e : Entity) (ids : Entries) (entries : Entries) (f : Field) : Except Fault Entries := do
  let v ← value e f ids
  let _ ← f.name.asKey
  return entries.insert f.name v

/-- The payload that creates an entity: every required field that clients may set. -/
def payload (e : Entity) (ids : Entries) : Except Fault Entries :=
  (e.fields.filter fun f => f.isEditable && f.required).foldlM (insertSample e ids) []

/-- The record with a field as it is read back after a create: a value of the server, or else what the payload holds. A
relation is read back only when it is selected. -/
def insertRead (payload record : Entries) (f : Field) : Except Fault Entries := do
  if f.dataType.isServerManaged then
    let _ ← f.name.asKey
    return record.insert f.name (ofDataType f.dataType)
  else
    match payload.find? (← f.name.asKey) with
    | some v => return if f.isRelation then record else record.insert f.name v
    | none => return record

/-- The record that is read back after a create. -/
def record (e : Entity) (ids : Entries) : Except Fault Entries := do
  let created ← payload e ids
  e.fields.foldlM (insertRead created) []

end Sample

end ResourceScaffold
