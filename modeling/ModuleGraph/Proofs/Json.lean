import ModuleGraph.Json.Decode
import ModuleGraph.Proofs.List

/-!
# Reading what has been written

How the readers of JSON values take what is written as a text, a list, a table, an optional value
or a record.

## Key results

- `Json.list?_list`: a list is read if every item is
- `Json.nullable?_optional`: an optional value is read, its absence from null
- `Json.Fields.opt?_optional`: an optional field is read
-/

namespace ModuleGraph.Json

variable {α : Type} {read : Json → Option α} {write : α → Json}

@[simp] theorem text?_text (s : String) : (Json.text s).text? = some s := rfl

/-- A choice that carries nothing may be written as its name. -/
@[simp] theorem word?_text (d : Dialect) (parse : String → Option α) (s : String) :
    (Json.text s).word? d parse = parse s := rfl

/-- A list is read if every item is. -/
theorem list?_list {l : List α} (h : ∀ a ∈ l, read (write a) = some a) :
    list? read (.list (l.map write)) = some l :=
  List.mapM_map_eq_some h

@[simp] theorem texts?_texts (ss : List String) : (Json.texts ss).texts? = some ss :=
  list?_list fun _ _ => rfl

/-- A table is read if every value is. -/
theorem table?_record {rows : List (String × α)}
    (h : ∀ row ∈ rows, read (write row.2) = some row.2) :
    table? read (.record (rows.map fun row => (row.1, write row.2))) = some rows := by
  apply List.mapM_map_eq_some
  intro row hrow
  simp [h row hrow]

/-- An optional value is read, its absence from null. -/
theorem nullable?_optional {o : Option α} (hnull : read .null = none)
    (h : ∀ a ∈ o, read (write a) = some a) : nullable? read (.optional write o) = some o := by
  cases o with
  | none => rfl
  | some a =>
    have hread : read (write a) = some a := h a rfl
    -- Nothing is read from null, so the value has not been written as null.
    rw [optional]
    unfold nullable?
    split
    · next heq =>
      rw [heq, hnull] at hread
      exact nomatch hread
    · rw [hread, Option.map_some]

/-- What every item of a list satisfies if it is read. -/
theorem forall_of_list? {p : α → Prop} (hread : ∀ j a, read j = some a → p a) {j : Json}
    {l : List α} (h : list? read j = some l) : ∀ a ∈ l, p a := by
  intro a ha
  cases j with
  | list items =>
    obtain ⟨item, -, hitem⟩ := (List.mapM_eq_some.1 h).exists_of_mem_right ha
    exact hread item a hitem
  | _ => exact nomatch h

/-! ### Records -/

/-- A record is read by the names of its fields. -/
@[simp] theorem fields?_record (d : Dialect) (names : List String)
    (fields : List (String × Json)) :
    (Json.record fields).fields? d names = some fun name => fields.lookup name := rfl

/-- Fields are looked up one after the other. -/
@[simp] theorem lookup_field (name name' : String) (j : Json) (fields : List (String × Json)) :
    ((name', j) :: fields).lookup name = if name = name' then some j else fields.lookup name := by
  by_cases h : name = name'
  · rw [List.lookup_cons, if_pos h, beq_iff_eq.2 h]
  · rw [List.lookup_cons, if_neg h, beq_eq_false_iff_ne.2 h]

namespace Fields

variable {fs : Fields} {name : String}

@[simp] theorem get?_eq (fs : Fields) (name : String) (read : Json → Option α) :
    fs.get? name read = (fs name).bind read := rfl

@[simp] theorem getD?_eq (fs : Fields) (name : String) (default : α) (read : Json → Option α) :
    fs.getD? name default read = (fs name).elim (some default) read := by
  rw [getD?]
  cases fs name <;> rfl

@[simp] theorem opt?_eq (fs : Fields) (name : String) (read : Json → Option α) :
    fs.opt? name read = (fs name).elim (some none) (nullable? read) :=
  getD?_eq fs name none (nullable? read)

/-- What the value of a field satisfies, be it read or the default. -/
theorem of_getD? {p : α → Prop} (hread : ∀ j a, read j = some a → p a) {default : α}
    (hdefault : p default) {a : α} (h : fs.getD? name default read = some a) : p a := by
  rw [getD?] at h
  split at h
  · exact Option.some.inj h ▸ hdefault
  · exact hread _ a h

/-- What the value of an optional field satisfies if it is there. -/
theorem forall_of_opt? {p : α → Prop} (hread : ∀ j a, read j = some a → p a) {o : Option α}
    (h : fs.opt? name read = some o) : ∀ a ∈ o, p a := by
  apply of_getD? (p := fun o => ∀ a ∈ o, p a) _ (by simp) h
  intro j o hnullable a ha
  unfold nullable? at hnullable
  split at hnullable
  · exact absurd (Option.some.inj hnullable ▸ ha) (by simp)
  · obtain ⟨b, hb, rfl⟩ := Option.map_eq_some_iff.1 hnullable
    exact Option.some.inj ha ▸ hread _ b hb

end Fields

end ModuleGraph.Json
