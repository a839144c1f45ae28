import ParamSql.Proofs.Param.Issued
import Mathlib.Data.List.Nodup

/-!
# Numbered parameters

Parameters that a builder binds are *numbered*: the first one has the name with the number zero, and
each further one has the next number (`Numbered`). So a name is found where its number says, and no
two parameters share one. That a name means a value and that it has one binding, to that value, are
then the same (`Numbered.filter_eq_singleton`).

Parameters grow by binding further values and in no other way (`Extends`); whatever a number stands
for, it goes on standing for it.
-/

namespace ParamSql.Params

variable {ps earlier : Params}

/-! ### What numbers stand for -/

/-- The number stands for the value: that is what its name means. -/
def Refers (ps : Params) (n : Nat) (v : Value) : Prop :=
  ps.get? (nameAt n) = some v

/-! ### More parameters -/

/-- Values are bound under the next names, behind what is bound already. -/
theorem bindAll_entries (ps : Params) (values : List Value) :
    (ps.bindAll values).entries = ps.entries ++
      List.zipWith Parameter.mk ((List.range' ps.next values.length).map nameAt) values := by
  induction values generalizing ps with
  | nil => simp
  | cons value values ih =>
    rw [bindAll_cons, ih, bind_entries, bind_next, List.append_assoc, List.length_cons,
      List.range'_succ, List.map_cons, List.zipWith_cons_cons]
    rfl

/-- Some values have been bound since. -/
def Extends (ps earlier : Params) : Prop :=
  ∃ values, ps = earlier.bindAll values

namespace Extends

theorem refl (ps : Params) : ps.Extends ps :=
  ⟨[], rfl⟩

theorem bind (ps : Params) (value : Value) : (ps.bind value).Extends ps :=
  ⟨[value], rfl⟩

theorem trans {middle : Params} (h : ps.Extends middle) (h' : middle.Extends earlier) :
    ps.Extends earlier := by
  obtain ⟨later, rfl⟩ := h
  obtain ⟨values, rfl⟩ := h'
  exact ⟨values ++ later, (bindAll_append earlier values later).symm⟩

/-- Bindings stay where they are. -/
theorem entries_extend (h : ps.Extends earlier) : earlier.entries <+: ps.entries := by
  obtain ⟨values, rfl⟩ := h
  induction values generalizing earlier with
  | nil => exact List.prefix_refl _
  | cons value values ih =>
    rw [bindAll_cons]
    exact (List.prefix_append _ _).trans (@ih (earlier.bind value))

/-- Numbers go on standing for what they stand for. -/
theorem refers (h : ps.Extends earlier) {n : Nat} {v : Value} (hv : earlier.Refers n v) :
    ps.Refers n v := by
  obtain ⟨values, rfl⟩ := h
  exact get?_bindAll_of_eq_some hv values

end Extends

/-! ### Numbered parameters -/

/-- Every parameter has the number of its place. -/
structure Numbered (ps : Params) : Prop where
  /-- The next name has the number that comes next. -/
  next : ps.next = ps.entries.length
  /-- The parameter at a place has the name with that number. -/
  name : ∀ i p, ps.entries[i]? = some p → p.name = nameAt i

theorem numbered_empty : Numbered {} where
  next := rfl
  name _ _ h := by cases h

namespace Numbered

theorem bind (h : Numbered ps) (value : Value) : Numbered (ps.bind value) where
  next := by
    rw [bind_next, bind_entries, List.length_append, h.next]
    rfl
  name i p hp := by
    rw [bind_entries, List.getElem?_append] at hp
    split at hp
    · exact h.name i p hp
    · rename_i hlength
      obtain ⟨hi, hvalue⟩ := List.getElem?_eq_some_iff.1 hp
      have hlast : i - ps.entries.length = 0 := Nat.lt_one_iff.1 hi
      have hplace : i = ps.next := by
        rw [h.next]
        omega
      rw [hlast, List.getElem?_cons_zero, Option.some_inj] at hp
      rw [← hp, hplace]

theorem bindAll (h : Numbered ps) (values : List Value) : Numbered (ps.bindAll values) := by
  induction values generalizing ps with
  | nil => exact h
  | cons value values ih => exact ih (h.bind value)

theorem map_name (h : Numbered ps) :
    ps.entries.map (·.name) = (List.range ps.entries.length).map nameAt := by
  refine List.ext_getElem? fun i ↦ ?_
  rw [List.getElem?_map, List.getElem?_map]
  cases hp : ps.entries[i]? with
  | none =>
    have hlength := List.getElem?_eq_none_iff.1 hp
    rw [List.getElem?_eq_none (by simpa using hlength)]
    rfl
  | some p =>
    obtain ⟨hi, -⟩ := List.getElem?_eq_some_iff.1 hp
    rw [List.getElem?_range hi, Option.map_some, Option.map_some, h.name i p hp]

/-- **No name is given twice.** -/
theorem nodup_names (h : Numbered ps) : (ps.entries.map (·.name)).Nodup := by
  -- the names are those of consecutive numbers
  rw [h.map_name]
  exact List.nodup_range.map fun m n hname ↦ nameAt_inj.1 hname

/-- Every name has a number. -/
theorem exists_eq_nameAt (h : Numbered ps) {p : Parameter} (hp : p ∈ ps.entries) :
    ∃ n, p.name = nameAt n := by
  obtain ⟨i, hi⟩ := List.mem_iff_getElem?.1 hp
  exact ⟨i, h.name i p hi⟩

/-- A parameter is the only one of its name. -/
theorem filter_name_eq (h : Numbered ps) {p : Parameter} (hp : p ∈ ps.entries) :
    ps.entries.filter (·.name == p.name) = [p] := by
  have hnodup := h.nodup_names
  revert hp hnodup
  generalize ps.entries = entries
  intro hp hnodup
  induction entries with
  | nil => exact absurd hp List.not_mem_nil
  | cons q entries ih =>
    obtain ⟨hnew, hrest⟩ := List.nodup_cons.1 hnodup
    rcases List.mem_cons.1 hp with rfl | hmem
    · have hnone : entries.filter (·.name == p.name) = [] := by
        rw [List.filter_eq_nil_iff]
        intro r hr hname
        exact hnew (List.mem_map.2 ⟨r, hr, beq_iff_eq.1 hname⟩)
      rw [List.filter_cons_of_pos (by simp), hnone]
    · have hne : ¬ (q.name == p.name) = true := by
        rw [beq_iff_eq]
        intro hname
        exact hnew (List.mem_map.2 ⟨p, hmem, hname.symm⟩)
      rw [List.filter_cons, if_neg hne, ih hmem hrest]

/-- **A name means the value that was bound under it.** -/
theorem get?_name (h : Numbered ps) {p : Parameter} (hp : p ∈ ps.entries) :
    ps.get? p.name = some p.value := by
  rw [get?, ← List.head?_filter, h.filter_name_eq hp]
  rfl

/-- What stands for a value has one binding, to that value. -/
theorem filter_eq_singleton (h : Numbered ps) {n : Nat} {v : Value} (hv : ps.Refers n v) :
    ps.entries.filter (·.name == nameAt n) = [⟨nameAt n, v⟩] := by
  obtain ⟨p, hfind, hvalue⟩ := Option.map_eq_some_iff.1 hv
  have hname := List.find?_some hfind
  have hfilter := h.filter_name_eq (List.mem_of_find?_eq_some hfind)
  rw [beq_iff_eq] at hname
  rw [← hname, hfilter, ← hvalue]

end Numbered

end ParamSql.Params
