import ResourceScaffold.Json.Reader
import ResourceScaffold.Proofs.Tables

/-!
# Objects read from JSON

The members of an object that is read from JSON are filed under different texts, at every depth (`Json.isJson_of_read`). So
filing them one after the other in an empty table makes the object again (`Entries.IsObject.update_nil`).
-/

namespace ResourceScaffold

/-! ## Objects -/

namespace Entries

variable {entries : Entries} {name : String} {v : Value}

/-- The members of an object: they are filed under texts, all of them different. -/
structure IsObject (entries : Entries) : Prop where
  texts : ∀ first ∈ entries.map Prod.fst, first.IsText
  distinct : (entries.map Prod.fst).Nodup

/-- No entry at all is an object. -/
theorem IsObject.nil : IsObject [] :=
  ⟨by simp, List.nodup_nil⟩

/-- An object with one more member is an object. -/
theorem IsObject.insert (h : entries.IsObject) {first : Value} (text : first.IsText) (v : Value) :
    IsObject (Table.insert entries first v) := by
  by_cases listed : first ∈ entries.map Prod.fst
  · obtain ⟨key, known⟩ := text.exists_key
    have found : (Table.find? entries key).isSome = true := by
      rw [← Option.ne_none_iff_isSome, Ne, Table.find?_eq_none_iff_of_isText text known, not_not]
      exact listed
    have names := Table.names_insert_of_find? known found v
    exact ⟨names ▸ h.texts, names ▸ h.distinct⟩
  · rw [Table.insert_of_not_mem text listed]
    constructor
    · rw [List.map_append, List.forall_mem_append]
      exact ⟨h.texts, List.forall_mem_singleton.2 text⟩
    · rw [List.map_append, List.nodup_append_comm]
      exact List.nodup_cons.2 ⟨listed, h.distinct⟩

/-- The members of an object are all appended when they are filed after others with different names. -/
theorem foldl_insert {done rest : Entries} (h : IsObject (done ++ rest)) :
    rest.foldl (fun acc (name, value) => Table.insert acc name value) done = done ++ rest := by
  induction rest generalizing done with
  | nil => exact (List.append_nil done).symm
  | cons entry rest ih =>
      obtain ⟨first, value⟩ := entry
      have text : first.IsText := h.texts first (by simp)
      have absent : first ∉ done.map Prod.fst := by
        intro listed
        have distinct := h.distinct
        rw [List.map_append, List.nodup_append] at distinct
        exact distinct.2.2 _ listed _ (by simp) rfl
      simp only [List.foldl_cons, Table.insert_of_not_mem text absent]
      rw [ih (by rwa [List.append_assoc]), List.append_assoc, List.singleton_append]

/-- An object that updates an empty table is made again. -/
theorem IsObject.update_nil (h : entries.IsObject) : update [] (.mapping entries) = .ok entries :=
  congrArg Except.ok (foldl_insert h)

/-- The names of an object are texts, so nothing is filed under a number. -/
theorem IsObject.find?_int (h : entries.IsObject) (i : Int) : Table.find? entries (.int i) = none := by
  refine Table.find?_eq_none_iff.2 fun entry listed same => ?_
  have text := h.texts entry.1 (List.mem_map_of_mem listed)
  generalize entry.1 = name at text same
  cases text <;> cases same

/-- What is found under a name is the value of an entry. -/
theorem mem_of_get? (found : entries.get? name = some v) : ∃ entry ∈ entries, entry.2 = v := by
  induction entries with
  | nil => cases found
  | cons entry rest ih =>
      obtain ⟨first, value⟩ := entry
      rw [get?] at found
      split at found
      · exact ⟨_, List.mem_cons_self, Option.some.inj found⟩
      · obtain ⟨entry, listed, same⟩ := ih found
        exact ⟨entry, List.mem_cons_of_mem _ listed, same⟩

/-- An entry that is present is what reading with a default gives. -/
theorem getD_of_get? (found : entries.get? name = some v) : entries.getD name = v := by
  rw [getD, found, Option.getD_some]

/-- An absent entry reads as null. -/
theorem getD_of_absent (absent : entries.get? name = none) : entries.getD name = .null := by
  rw [getD, absent, Option.getD_none]

end Entries

/-! ## Values of JSON -/

/-- A value that JSON can express: no value of another notation occurs in it, and the members of every object in it have
different names. -/
inductive Value.IsJson : Value → Prop
  | null : IsJson .null
  | bool (b : Bool) : IsJson (.bool b)
  | int (i : Int) : IsJson (.int i)
  | float (x : Binary64) : IsJson (.float x)
  | text (s : String) : IsJson (.text s)
  | illFormed (t : IllFormedText) : IsJson (.illFormed t)
  | list {items : List Value} (values : ∀ v ∈ items, IsJson v) : IsJson (.list items)
  | mapping {entries : Entries} (object : entries.IsObject) (values : ∀ entry ∈ entries, IsJson entry.2) :
      IsJson (.mapping entries)

namespace Value.IsJson

/-- A text is a value of JSON. -/
theorem of_isText {v : Value} (h : v.IsText) : v.IsJson := by
  cases h with
  | text s => exact .text s
  | illFormed t => exact .illFormed t

/-- The value of an entry of a document is a document. -/
theorem of_get? {entries : Entries} {name : String} {v : Value} (h : IsJson (.mapping entries))
    (found : entries.get? name = some v) : v.IsJson := by
  cases h with
  | mapping object values =>
      obtain ⟨entry, listed, rfl⟩ := Entries.mem_of_get? found
      exact values entry listed

/-- An element of a document is a document. -/
theorem of_mem {items : List Value} {v : Value} (h : IsJson (.list items)) (listed : v ∈ items) : v.IsJson := by
  cases h with
  | list values => exact values v listed

/-- A mapping that is a document is an object. -/
theorem isObject {entries : Entries} (h : IsJson (.mapping entries)) : entries.IsObject := by
  cases h with
  | mapping object values => exact object

/-- An object with one more member. -/
theorem insert {entries : Entries} {first v : Value} (h : IsJson (.mapping entries)) (text : first.IsText) (hv : v.IsJson) :
    IsJson (.mapping (Table.insert entries first v)) := by
  cases h with
  | mapping object values =>
      refine .mapping (object.insert text v) fun entry listed => ?_
      rcases Table.mem_insert listed with same | old
      · rwa [same]
      · exact values entry old

end Value.IsJson

namespace Json

variable {s rest : List Char} {v : Value} {depth fuel : Nat}

/-- A number of a document that was read is a document. -/
theorem isJson_of_readNumber {negative : Bool} (h : readNumber negative s = .ok (v, rest)) : v.IsJson := by
  unfold readNumber at h
  extract_lets digits after at h
  split at h
  · cases h
  · cases readFraction after with
    | mk fraction after =>
        cases readExponent after with
        | mk exponent after =>
            simp only at h
            split at h
            · split at h
              · cases h
              · cases h
                exact .int _
            · cases h
              exact .float _

/-- A scalar of a document that was read is a document. -/
theorem isJson_of_readScalar (h : readScalar s = .ok (v, rest)) : v.IsJson := by
  unfold readScalar at h
  split at h
  · next found =>
      cases h
      obtain ⟨entry, listed, read⟩ := List.exists_of_findSome?_eq_some found
      obtain ⟨after, -, same⟩ := Option.map_eq_some_iff.1 read
      cases same
      have words : ∀ entry ∈ literalWords, entry.2.IsJson := by
        simp only [literalWords, List.forall_mem_cons, List.not_mem_nil, false_imp_iff, implies_true, and_true]
        exact ⟨.null, .bool _, .bool _, .float _, .float _, .float _⟩
      exact words entry listed
  · split at h
    · exact isJson_of_readNumber h
    · exact isJson_of_readNumber h

/-- The three readers return values of JSON, provided that what they have read before is of JSON. -/
theorem readers_isJson (fuel : Nat) :
    (∀ depth s v rest, readValue depth fuel s = .ok (v, rest) → v.IsJson) ∧
    (∀ depth done s v rest, readItems depth fuel done s = .ok (v, rest) → (∀ item ∈ done, item.IsJson) → v.IsJson) ∧
    ∀ depth entries s v rest, readMembers depth fuel entries s = .ok (v, rest) → (Value.mapping entries).IsJson →
      v.IsJson := by
  induction fuel with
  | zero =>
      refine ⟨fun depth s v rest h => ?_, fun depth done s v rest h => ?_, fun depth entries s v rest h => ?_⟩
      · cases h
      · cases h
      · cases h
  | succ fuel ih =>
      obtain ⟨values, items, members⟩ := ih
      refine ⟨fun depth s v rest h => ?_, fun depth done s v rest h before => ?_, fun depth entries s v rest h before => ?_⟩
      · unfold readValue at h
        split at h
        · split at h
          · cases h
            exact .of_isText (Value.isText_ofWide _)
          · cases h
        · split at h
          · cases h
          · split at h
            · cases h
              exact .list (by simp)
            · exact items _ _ _ _ _ h (by simp)
        · split at h
          · cases h
          · split at h
            · cases h
              exact .mapping .nil (by simp)
            · exact members _ _ _ _ _ h (.mapping .nil (by simp))
        · exact isJson_of_readScalar h
      · unfold readItems at h
        split at h
        · cases h
        · next item after found =>
            have all : ∀ v ∈ item :: done, v.IsJson := List.forall_mem_cons.2 ⟨values _ _ _ _ found, before⟩
            split at h
            · exact items _ _ _ _ _ h all
            · cases h
              exact .list fun v listed => all v (List.mem_reverse.1 listed)
            · cases h
      · unfold readMembers at h
        split at h
        · split at h
          · cases h
          · next name after read =>
              split at h
              · split at h
                · cases h
                · next value after found =>
                    have more := before.insert (Value.isText_ofWide name) (values _ _ _ _ found)
                    simp only at h
                    split at h
                    · exact members _ _ _ _ _ h more
                    · cases h
                      exact more
                    · cases h
              · cases h
        · cases h

/-- Every value that is read is one of JSON. -/
theorem isJson_of_read (h : read s = .ok v) : v.IsJson := by
  unfold read at h
  split at h
  · cases h
  · next found =>
      split at h
      · cases h
        exact (readers_isJson _).1 _ _ _ _ found
      · cases h

end Json

end ResourceScaffold
