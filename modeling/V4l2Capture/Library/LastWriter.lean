import Mathlib.Logic.Function.Basic

/-!
# Records written field by field

A record given by the values of its fields, and lists of writes, each to one field. The value
of a field behind a list of writes is that of the last write to it, so the order of writes to
different fields does not matter.
-/
namespace LastWriter

variable {F : Type} {V : F → Type} {S : Type}

/-- Read and write access to the fields of a record. -/
structure Fields (S : Type) (V : F → Type) where
  get : S → (field : F) → V field
  set : S → (field : F) → V field → S
  get_set_same : ∀ (s : S) (field : F) (value : V field), get (set s field value) field = value
  get_set_other : ∀ (s : S) {field other : F} (value : V field), field ≠ other →
    get (set s field value) other = get s other
  ext : ∀ {s t : S}, (∀ field, get s field = get t field) → s = t

structure Write (V : F → Type) where
  field : F
  value : V field

def Fields.write (fields : Fields S V) (w : Write V) (s : S) : S :=
  fields.set s w.field w.value

/-- The writes one behind the other. -/
def Fields.writeAll (fields : Fields S V) (writes : List (Write V)) (s : S) : S :=
  writes.foldl (fun s w => fields.write w s) s

@[simp] theorem Fields.writeAll_nil (fields : Fields S V) (s : S) :
    fields.writeAll [] s = s := rfl

@[simp] theorem Fields.writeAll_cons (fields : Fields S V) (w : Write V) (rest : List (Write V))
    (s : S) : fields.writeAll (w :: rest) s = fields.writeAll rest (fields.write w s) := rfl

theorem Fields.writeAll_append (fields : Fields S V) (first second : List (Write V)) (s : S) :
    fields.writeAll (first ++ second) s = fields.writeAll second (fields.writeAll first s) :=
  List.foldl_append

variable [DecidableEq F]

/-- The value this write gives to the field, when it is one to the field. -/
def Write.valueAt (field : F) (w : Write V) : Option (V field) :=
  if same : w.field = field then some (same ▸ w.value) else none

@[simp] theorem Write.valueAt_same (field : F) (value : V field) :
    Write.valueAt field ⟨field, value⟩ = some value := by
  simp [Write.valueAt]

theorem Write.valueAt_other {field : F} {w : Write V} (distinct : w.field ≠ field) :
    w.valueAt field = none := by
  simp [Write.valueAt, distinct]

/-- The value of the last write to the field. -/
def lastOf (field : F) : List (Write V) → Option (V field)
  | [] => none
  | w :: rest => (lastOf field rest).or (w.valueAt field)

@[simp] theorem lastOf_nil (field : F) : lastOf (V := V) field [] = none := rfl

@[simp] theorem lastOf_cons (field : F) (w : Write V) (rest : List (Write V)) :
    lastOf field (w :: rest) = (lastOf field rest).or (w.valueAt field) := rfl

@[simp] theorem lastOf_append (field : F) (first second : List (Write V)) :
    lastOf field (first ++ second) = (lastOf field second).or (lastOf field first) := by
  induction first with
  | nil => simp
  | cons w rest ih => simp [ih, Option.or_assoc]

theorem lastOf_eq_getLast? (field : F) (writes : List (Write V)) :
    lastOf field writes = (writes.filterMap (Write.valueAt field)).getLast? := by
  induction writes with
  | nil => rfl
  | cons w rest ih =>
    rw [lastOf_cons, ih, List.filterMap_cons]
    cases w.valueAt field with
    | none => simp
    | some value => simp [List.getLast?_cons, Option.or_some]

/-- Only the writes to the field count. -/
theorem lastOf_filter (field : F) (writes : List (Write V)) :
    lastOf field (writes.filter fun w => w.field = field) = lastOf field writes := by
  induction writes with
  | nil => rfl
  | cons w rest ih =>
    by_cases same : w.field = field
    · simp [same, ih]
    · simp [same, ih, Write.valueAt_other same]

/-- The same writes to each field, in the same order. -/
def SameByField (first second : List (Write V)) : Prop :=
  ∀ field, first.filter (fun w => w.field = field) = second.filter fun w => w.field = field

theorem SameByField.lastOf {first second : List (Write V)} (same : SameByField first second)
    (field : F) : lastOf field first = lastOf field second := by
  rw [← lastOf_filter field first, same field, lastOf_filter]

namespace Fields

variable (fields : Fields S V)

theorem get_write (w : Write V) (s : S) (field : F) :
    fields.get (fields.write w s) field = (w.valueAt field).getD (fields.get s field) := by
  obtain ⟨written, value⟩ := w
  by_cases same : written = field
  · subst same
    simp [write, fields.get_set_same]
  · rw [Write.valueAt_other same]
    exact fields.get_set_other s value same

/-- The last writer of a field wins, and a field that nobody writes stays. -/
theorem get_writeAll (writes : List (Write V)) (s : S) (field : F) :
    fields.get (fields.writeAll writes s) field = (lastOf field writes).getD (fields.get s field) := by
  induction writes generalizing s with
  | nil => rfl
  | cons w rest ih =>
    rw [writeAll_cons, ih, get_write, lastOf_cons]
    cases lastOf field rest <;> rfl

theorem writeAll_sameByField {first second : List (Write V)} (same : SameByField first second)
    (s : S) : fields.writeAll first s = fields.writeAll second s := by
  apply fields.ext
  intro field
  rw [get_writeAll, get_writeAll, same.lastOf field]

end Fields

end LastWriter
