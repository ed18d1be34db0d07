import TemplateCalc.Session.Operand

/-!
Variables that are set and removed, and the names of elements.

A store is looked at through the values of its variables only. Setting or removing one of them leaves
all others as they were. The name of an element has a bracket in it, so it differs from every name that
has none.
-/

set_option autoImplicit false

namespace TemplateCalc.Store

theorem lookup_entry (name other : String) (value : Value) (entries : List (String × Value)) :
    ((name, value) :: entries).lookup other =
      if other = name then some value else entries.lookup other := by
  rw [List.lookup_cons]
  by_cases same : other = name
  · rw [if_pos same, beq_iff_eq.mpr same]
  · rw [if_neg same, beq_eq_false_iff_ne.mpr same]

theorem lookup_put (name other : String) (value : Value) (entries : List (String × Value)) :
    (put name value entries).lookup other =
      if other = name then some value else entries.lookup other := by
  induction entries with
  | nil => exact lookup_entry name other value []
  | cons entry entries ih =>
      obtain ⟨n, v⟩ := entry
      by_cases isEntry : n = name
      · subst isEntry
        rw [put, if_pos (beq_self_eq_true n), lookup_entry, lookup_entry]
        split <;> rfl
      · rw [put, if_neg (by simp [isEntry]), lookup_entry, lookup_entry, ih]
        by_cases same : other = n
        · subst same
          rw [if_pos rfl, if_pos rfl, if_neg isEntry]
        · rw [if_neg same, if_neg same]

theorem lookup_filter (name other : String) (entries : List (String × Value)) :
    (entries.filter (·.1 != name)).lookup other =
      if other = name then none else entries.lookup other := by
  induction entries with
  | nil => simp
  | cons entry entries ih =>
      obtain ⟨n, v⟩ := entry
      by_cases isEntry : n = name
      · subst isEntry
        rw [List.filter_cons_of_neg (by simp), ih, lookup_entry]
        split <;> rfl
      · rw [List.filter_cons_of_pos (by simp [isEntry]), lookup_entry, lookup_entry, ih]
        by_cases same : other = n
        · subst same
          rw [if_pos rfl, if_pos rfl, if_neg isEntry]
        · rw [if_neg same, if_neg same]

theorem get?_set (s : Store) (name other : String) (value : Value) :
    (s.set name value).get? other = if other = name then some value else s.get? other :=
  lookup_put name other value s.entries

theorem get?_erase (s : Store) (name other : String) :
    (s.erase name).get? other = if other = name then none else s.get? other :=
  lookup_filter name other s.entries

variable {s : Store} {name other : String} {value : Value}

@[simp] theorem get?_set_self : (s.set name value).get? name = some value := by
  rw [get?_set, if_pos rfl]

theorem get?_set_of_ne (different : other ≠ name) :
    (s.set name value).get? other = s.get? other := by
  rw [get?_set, if_neg different]

@[simp] theorem get?_erase_self : (s.erase name).get? name = none := by
  rw [get?_erase, if_pos rfl]

theorem get?_erase_of_ne (different : other ≠ name) :
    (s.erase name).get? other = s.get? other := by
  rw [get?_erase, if_neg different]

/-- A variable that is there stays there, whatever is set. -/
theorem contains_set (there : s.contains other = true) (name : String) (value : Value) :
    (s.set name value).contains other = true := by
  unfold contains at there ⊢
  rw [get?_set]
  split
  · rfl
  · exact there

end TemplateCalc.Store

namespace TemplateCalc.Session

theorem mem_elementName (name : String) (i : Int64) : '[' ∈ (elementName name i).toList := by
  simp [elementName]

theorem elementName_ne {other : String} (plain : '[' ∉ other.toList) (name : String) (i : Int64) :
    elementName name i ≠ other := by
  intro same
  exact plain (same ▸ mem_elementName name i)

end TemplateCalc.Session
