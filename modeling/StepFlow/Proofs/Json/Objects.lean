import Mathlib.Data.List.Nodup
import Mathlib.Data.List.Forall2
import StepFlow.Json.Basic

/-! # Fields of objects

Putting a value under a name changes what that name finds and nothing else; a name that is there keeps its place and a
new one comes last. Putting several values is associative: values put one after another are put at once, in the same
order of names, if the later ones are first put over the earlier ones.
-/

namespace StepFlow.Json

/-- The names of fields, in order. -/
def names (fields : List (String × Json)) : List String := fields.map Prod.fst

/-- The fields of an object; other values have none. -/
def fields : Json → List (String × Json)
  | .obj fields => fields
  | _ => []

section Put

variable {name other : String} {fields : List (String × Json)}

theorem put_cons_self (value old : Json) : put name value ((name, old) :: fields) = (name, value) :: fields :=
  if_pos rfl

theorem put_cons_of_ne (differs : other ≠ name) (value old : Json) :
    put name value ((other, old) :: fields) = (other, old) :: put name value fields :=
  if_neg differs

theorem lookup_cons (first : String) (value : Json) (fields : List (String × Json)) (name : String) :
    ((first, value) :: fields).lookup name = if name = first then some value else fields.lookup name := by
  by_cases same : name = first
  · rw [same, List.lookup_cons_self, if_pos rfl]
  · rw [List.lookup_cons, beq_false_of_ne same, if_neg same]

theorem lookup_eq_none_of_not_mem_names (absent : name ∉ names fields) : fields.lookup name = none :=
  List.lookup_eq_none_iff.mpr fun field member =>
    bne_iff_ne.mpr fun same => absent (List.mem_map.mpr ⟨field, member, same.symm⟩)

theorem lookup_put (name : String) (value : Json) (fields : List (String × Json)) (other : String) :
    (put name value fields).lookup other = if other = name then some value else fields.lookup other := by
  induction fields with
  | nil => exact lookup_cons name value [] other
  | cons field fields ih =>
    obtain ⟨first, old⟩ := field
    by_cases here : first = name
    · subst here
      rw [put_cons_self, lookup_cons, lookup_cons]
      split <;> rfl
    · rw [put_cons_of_ne here, lookup_cons, lookup_cons, ih]
      by_cases same : other = first
      · rw [if_pos same, if_pos same, if_neg (same ▸ here)]
      · rw [if_neg same, if_neg same]

theorem names_put (name : String) (value : Json) (fields : List (String × Json)) :
    names (put name value fields) = if name ∈ names fields then names fields else names fields ++ [name] := by
  induction fields with
  | nil => rfl
  | cons field fields ih =>
    obtain ⟨first, old⟩ := field
    by_cases here : first = name
    · subst here
      rw [put_cons_self, if_pos (.head _)]
      rfl
    · have elsewhere : name ∈ names ((first, old) :: fields) ↔ name ∈ names fields :=
        List.mem_cons.trans (or_iff_right (Ne.symm here))
      rw [put_cons_of_ne here]
      simp only [elsewhere]
      rw [names, List.map_cons, ← names, ih]
      split <;> rfl

theorem nodup_names_put (distinct : (names fields).Nodup) (name : String) (value : Json) :
    (names (put name value fields)).Nodup := by
  rw [names_put]
  split
  · exact distinct
  · rename_i absent
    exact List.nodup_append.mpr ⟨distinct, List.nodup_singleton name, by
      rintro a isName b isNew rfl
      exact absent (List.mem_singleton.mp isNew ▸ isName)⟩

theorem put_put (name : String) (value old : Json) (fields : List (String × Json)) :
    put name value (put name old fields) = put name value fields := by
  induction fields with
  | nil => exact put_cons_self value old
  | cons field fields ih =>
    obtain ⟨first, older⟩ := field
    by_cases here : first = name
    · subst here
      rw [put_cons_self, put_cons_self, put_cons_self]
    · rw [put_cons_of_ne here, put_cons_of_ne here, put_cons_of_ne here, ih]

/-- A name that is there and another one can be given their values in either order. -/
theorem put_comm (present : name ∈ names fields) (differs : other ≠ name) (value value' : Json) :
    put name value (put other value' fields) = put other value' (put name value fields) := by
  induction fields with
  | nil => exact absurd present List.not_mem_nil
  | cons field fields ih =>
    obtain ⟨first, old⟩ := field
    by_cases here : first = name
    · subst here
      rw [put_cons_of_ne differs.symm, put_cons_self, put_cons_self, put_cons_of_ne differs.symm]
    · have later : name ∈ names fields := (List.mem_cons.mp present).resolve_left (Ne.symm here)
      by_cases there : first = other
      · subst there
        rw [put_cons_self, put_cons_of_ne here, put_cons_of_ne here, put_cons_self]
      · rw [put_cons_of_ne there, put_cons_of_ne here, put_cons_of_ne here, put_cons_of_ne there, ih later]

/-- Fields that look alike one by one still do after both were given the same value. -/
theorem forall₂_put {α : Type} {look : Json → α} {fields fields' : List (String × Json)}
    (alike : List.Forall₂ (fun field field' => field.1 = field'.1 ∧ look field.2 = look field'.2) fields fields')
    (name : String) (value : Json) :
    List.Forall₂ (fun field field' => field.1 = field'.1 ∧ look field.2 = look field'.2)
      (put name value fields) (put name value fields') := by
  induction alike with
  | nil => exact .cons ⟨rfl, rfl⟩ .nil
  | @cons field field' fields fields' first rest ih =>
    obtain ⟨other, old⟩ := field
    obtain ⟨other', old'⟩ := field'
    obtain ⟨rfl, olds⟩ : other = other' ∧ look old = look old' := first
    by_cases here : other = name
    · subst here
      rw [put_cons_self, put_cons_self]
      exact .cons ⟨rfl, rfl⟩ rest
    · rw [put_cons_of_ne here, put_cons_of_ne here]
      exact .cons ⟨rfl, olds⟩ ih

end Put

section PutAll

variable {fields more : List (String × Json)}

theorem putAll_nil (fields : List (String × Json)) : putAll fields [] = fields := rfl

theorem putAll_cons (fields : List (String × Json)) (name : String) (value : Json) (more : List (String × Json)) :
    putAll fields ((name, value) :: more) = putAll (put name value fields) more := rfl

theorem lookup_putAll (distinct : (names more).Nodup) (fields : List (String × Json)) (name : String) :
    (putAll fields more).lookup name = (more.lookup name).or (fields.lookup name) := by
  induction more generalizing fields with
  | nil => rfl
  | cons field more ih =>
    obtain ⟨first, value⟩ := field
    obtain ⟨fresh, distinct⟩ := List.nodup_cons.mp distinct
    rw [putAll_cons, ih distinct, lookup_put, lookup_cons]
    by_cases same : name = first
    · subst same
      rw [if_pos rfl, if_pos rfl, lookup_eq_none_of_not_mem_names fresh, Option.none_or, Option.some_or]
    · rw [if_neg same, if_neg same]

/-- Names that are there keep their places; new ones come last, in their own order. -/
theorem names_putAll (distinct : (names more).Nodup) (fields : List (String × Json)) :
    names (putAll fields more) = names fields ++ (names more).filter (· ∉ names fields) := by
  induction more generalizing fields with
  | nil => exact (List.append_nil _).symm
  | cons field more ih =>
    obtain ⟨first, value⟩ := field
    obtain ⟨fresh, distinct⟩ := List.nodup_cons.mp distinct
    rw [putAll_cons, ih distinct, names_put]
    change _ = _ ++ (first :: names more).filter _
    split
    · rename_i present
      rw [List.filter_cons_of_neg (by simpa using present)]
    · rename_i absent
      have others : (names more).filter (· ∉ names fields ++ [first]) = (names more).filter (· ∉ names fields) := by
        apply List.filter_congr
        intro name member
        have differs : name ≠ first := fun same => fresh (same ▸ member)
        simp [differs]
      rw [List.filter_cons_of_pos (by simpa using absent), others, List.append_assoc, List.singleton_append]

theorem nodup_names_putAll (distinct : (names fields).Nodup) (more : List (String × Json)) :
    (names (putAll fields more)).Nodup := by
  induction more generalizing fields with
  | nil => exact distinct
  | cons field more ih => exact ih (nodup_names_put distinct field.1 field.2)

/-- A name that is there can be given its value before others are. -/
theorem put_putAll {name : String} (present : name ∈ names fields) (absent : name ∉ names more) (value : Json) :
    put name value (putAll fields more) = putAll (put name value fields) more := by
  induction more generalizing fields with
  | nil => rfl
  | cons field more ih =>
    obtain ⟨first, value'⟩ := field
    obtain ⟨differs, absent⟩ := not_or.mp (List.mem_cons.not.mp absent)
    have still : name ∈ names (put first value' fields) := by
      rw [names_put]
      split
      · exact present
      · exact List.mem_append_left _ present
    rw [putAll_cons, putAll_cons, ih still absent, put_comm present (Ne.symm differs)]

theorem putAll_put (distinct : (names more).Nodup) (fields : List (String × Json)) (name : String) (value : Json) :
    putAll fields (put name value more) = put name value (putAll fields more) := by
  induction more generalizing fields with
  | nil => rfl
  | cons field more ih =>
    obtain ⟨first, old⟩ := field
    obtain ⟨fresh, distinct⟩ := List.nodup_cons.mp distinct
    by_cases here : first = name
    · subst here
      have present : first ∈ names (put first old fields) := by
        rw [names_put]
        split
        · assumption
        · simp
      rw [put_cons_self, putAll_cons, putAll_cons, put_putAll present fresh, put_put]
    · rw [put_cons_of_ne here, putAll_cons, putAll_cons, ih distinct]

/-- Values put one after another are put at once, the later ones over the earlier ones. -/
theorem putAll_putAll (distinct : (names more).Nodup) (fields others : List (String × Json)) :
    putAll fields (putAll more others) = putAll (putAll fields more) others := by
  induction others generalizing more with
  | nil => rfl
  | cons field others ih =>
    obtain ⟨name, value⟩ := field
    rw [putAll_cons, putAll_cons, ih (nodup_names_put distinct name value), putAll_put distinct]

/-- Fields that look alike one by one still do after both were given the same values. -/
theorem forall₂_putAll {α : Type} {look : Json → α} {fields fields' : List (String × Json)}
    (alike : List.Forall₂ (fun field field' => field.1 = field'.1 ∧ look field.2 = look field'.2) fields fields')
    (more : List (String × Json)) :
    List.Forall₂ (fun field field' => field.1 = field'.1 ∧ look field.2 = look field'.2)
      (putAll fields more) (putAll fields' more) := by
  induction more generalizing fields fields' with
  | nil => exact alike
  | cons field more ih => exact ih (forall₂_put alike field.1 field.2)

end PutAll

end StepFlow.Json
