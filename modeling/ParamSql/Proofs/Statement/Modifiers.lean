import ParamSql.Proofs.Statement.Settled

/-!
# Select modifiers

The modifiers of a SELECT are a set that remembers an order. A keyword that is switched on while it
is on, or off while it is off, is left where it is, so its place is neither that of its first nor
that of its last mention: what counts is the last moment at which it was turned on, from off to on
(`LastTurnsOnAt`).

`Leaves` says which keywords a history of switches leaves on and in which order, without any
reference to how modifiers are kept. No history leaves two lists (`Leaves.unique`), and the list
that it leaves is the one that switching the keywords one after the other comes to
(`leaves_iff_eq_toggleAll`); the step is `Leaves.toggle`.
-/

namespace ParamSql

/-- Which keywords were switched on or off, oldest first. -/
abbrev Switches :=
  History Bool

namespace Switches

variable {switches : Switches} {entry : String × Bool} {keyword : String} {i : Nat}

/-! ### Keywords that are on -/

/-- Whether a keyword is on in the end: when it was last switched, it was switched on. -/
def IsOn (switches : Switches) (keyword : String) : Prop :=
  switches.last? keyword = some true

instance (switches : Switches) (keyword : String) : Decidable (switches.IsOn keyword) :=
  inferInstanceAs (Decidable (switches.last? keyword = some true))

theorem not_isOn_nil (keyword : String) : ¬ IsOn [] keyword :=
  fun h ↦ nomatch h

theorem isOn_append_singleton_iff {other : String} {on : Bool} :
    IsOn (switches ++ [(keyword, on)]) other ↔
      if other = keyword then on = true else switches.IsOn other := by
  rw [IsOn, History.last?_append_singleton]
  split
  · rw [Option.some_inj]
  · rfl

/-- A keyword that is on has been switched on. -/
theorem mem_of_isOn (h : switches.IsOn keyword) : (keyword, true) ∈ switches :=
  History.mem_of_mem_settled (History.mem_settled_iff.2 h)

/-! ### When a keyword was turned on -/

/-- At this moment the keyword is turned on: it is switched on and was not on before. -/
def TurnsOnAt (switches : Switches) (keyword : String) (i : Nat) : Prop :=
  switches[i]? = some (keyword, true) ∧ ¬ IsOn (switches.take i) keyword

instance (switches : Switches) (keyword : String) (i : Nat) :
    Decidable (switches.TurnsOnAt keyword i) :=
  inferInstanceAs
    (Decidable (switches[i]? = some (keyword, true) ∧ ¬ IsOn (switches.take i) keyword))

/-- This is the last moment at which the keyword is turned on. -/
def LastTurnsOnAt (switches : Switches) (keyword : String) (i : Nat) : Prop :=
  switches.TurnsOnAt keyword i ∧ ∀ j, switches.TurnsOnAt keyword j → j ≤ i

theorem TurnsOnAt.lt_length (h : switches.TurnsOnAt keyword i) : i < switches.length :=
  (List.getElem?_eq_some_iff.1 h.1).1

/-- A further switch turns its keyword on if that was off, and no other keyword. -/
theorem turnsOnAt_append_singleton_iff :
    TurnsOnAt (switches ++ [entry]) keyword i ↔
      switches.TurnsOnAt keyword i ∨
        i = switches.length ∧ entry = (keyword, true) ∧ ¬ switches.IsOn keyword := by
  have hend : ∀ {i}, switches.length ≤ i → ¬ switches.TurnsOnAt keyword i :=
    fun hle h ↦ Nat.not_lt_of_le hle h.lt_length
  rcases Nat.lt_trichotomy i switches.length with hlt | rfl | hgt
  · rw [TurnsOnAt, List.getElem?_append_left hlt, List.take_append_of_le_length (Nat.le_of_lt hlt),
      TurnsOnAt]
    exact (or_iff_left fun hlast ↦ Nat.ne_of_lt hlt hlast.1).symm
  · rw [TurnsOnAt, List.getElem?_concat_length, List.take_left, Option.some_inj]
    exact ⟨fun h ↦ .inr ⟨rfl, h⟩, fun h ↦ (h.resolve_left (hend (Nat.le_refl _))).2⟩
  · refine iff_of_false (fun h ↦ ?_) fun h ↦
      h.elim (hend (Nat.le_of_lt hgt)) fun hlast ↦ Nat.ne_of_gt hgt hlast.1
    have hlt := h.lt_length
    rw [List.length_append, List.length_singleton] at hlt
    exact Nat.not_lt_of_le hgt hlt

/-- Switching a keyword on once more is no such moment. -/
example : (List.range 5).filter (TurnsOnAt [("DISTINCT", true), ("HIGH_PRIORITY", true),
      ("DISTINCT", true), ("DISTINCT", false), ("DISTINCT", true)] "DISTINCT" ·) = [0, 4] := by
  decide

theorem LastTurnsOnAt.unique {j : Nat} (hi : switches.LastTurnsOnAt keyword i)
    (hj : switches.LastTurnsOnAt keyword j) : i = j :=
  Nat.le_antisymm (hj.2 i hi.1) (hi.2 j hj.1)

/-- A keyword that a further switch does not turn on was last turned on when it was. -/
theorem lastTurnsOnAt_append_singleton_iff
    (h : entry = (keyword, true) → switches.IsOn keyword) :
    LastTurnsOnAt (switches ++ [entry]) keyword i ↔ switches.LastTurnsOnAt keyword i := by
  have hsame : ∀ j, TurnsOnAt (switches ++ [entry]) keyword j ↔ switches.TurnsOnAt keyword j := by
    intro j
    rw [turnsOnAt_append_singleton_iff]
    exact or_iff_left fun hlast ↦ hlast.2.2 (h hlast.2.1)
  simp only [LastTurnsOnAt, hsame]

/-- A keyword that was off is turned on by being switched on. -/
theorem lastTurnsOnAt_length (h : ¬ switches.IsOn keyword) :
    LastTurnsOnAt (switches ++ [(keyword, true)]) keyword switches.length := by
  refine ⟨turnsOnAt_append_singleton_iff.2 (.inr ⟨rfl, rfl, h⟩), fun j hj ↦ ?_⟩
  have hlt := hj.lt_length
  rw [List.length_append, List.length_singleton] at hlt
  exact Nat.le_of_lt_succ hlt

/-- A keyword that is on has been turned on. -/
theorem exists_lastTurnsOnAt (h : switches.IsOn keyword) :
    ∃ i, switches.LastTurnsOnAt keyword i := by
  induction switches using List.reverseRecOn with
  | nil => exact absurd h (not_isOn_nil keyword)
  | append_singleton switches entry ih =>
    by_cases hon : IsOn switches keyword
    · obtain ⟨i, hi⟩ := ih hon
      exact ⟨i, (lastTurnsOnAt_append_singleton_iff fun _ ↦ hon).2 hi⟩
    · obtain ⟨other, on⟩ := entry
      rw [isOn_append_singleton_iff] at h
      split at h
      · subst_vars
        exact ⟨_, lastTurnsOnAt_length hon⟩
      · exact absurd h hon

/-! ### What switches leave on -/

/-- One keyword was last turned on before another one was. -/
def Precedes (switches : Switches) (first second : String) : Prop :=
  ∃ i j, switches.LastTurnsOnAt first i ∧ switches.LastTurnsOnAt second j ∧ i < j

/-- The keywords are those that the switches leave on, each once, in the order in which they were
last turned on. -/
structure Leaves (switches : Switches) (keywords : List String) : Prop where
  /-- No keyword is there twice. -/
  nodup : keywords.Nodup
  /-- The keywords that are on are there, and no other ones. -/
  mem_iff : ∀ keyword, keyword ∈ keywords ↔ switches.IsOn keyword
  /-- What was last turned on earlier comes earlier. -/
  ordered : keywords.Pairwise switches.Precedes

theorem leaves_nil : Leaves [] [] where
  nodup := .nil
  mem_iff := fun keyword ↦ iff_of_false List.not_mem_nil (not_isOn_nil keyword)
  ordered := .nil

/-- Keywords that a further switch does not turn on keep their order. -/
theorem Precedes.append_singleton {first second : String} (h : switches.Precedes first second)
    (hfirst : entry = (first, true) → switches.IsOn first)
    (hsecond : entry = (second, true) → switches.IsOn second) :
    Precedes (switches ++ [entry]) first second := by
  obtain ⟨i, j, hi, hj, hlt⟩ := h
  exact ⟨i, j, (lastTurnsOnAt_append_singleton_iff hfirst).2 hi,
    (lastTurnsOnAt_append_singleton_iff hsecond).2 hj, hlt⟩

/-- A keyword that is turned on comes behind those that are on. -/
theorem precedes_append_singleton {first : String} (hfirst : switches.IsOn first)
    (h : ¬ switches.IsOn keyword) : Precedes (switches ++ [(keyword, true)]) first keyword := by
  obtain ⟨i, hi⟩ := exists_lastTurnsOnAt hfirst
  exact ⟨i, switches.length, (lastTurnsOnAt_append_singleton_iff fun _ ↦ hfirst).2 hi,
    lastTurnsOnAt_length h, hi.1.lt_length⟩

namespace Leaves

variable {keywords : List String}

/-- The keywords that are on keep their order whatever is switched. -/
theorem pairwise_append_singleton (h : switches.Leaves keywords) (entry : String × Bool) :
    keywords.Pairwise (Precedes (switches ++ [entry])) :=
  h.ordered.imp_of_mem fun hfirst hsecond hprecedes ↦
    hprecedes.append_singleton (fun _ ↦ (h.mem_iff _).1 hfirst) fun _ ↦ (h.mem_iff _).1 hsecond

/-- Switching a keyword off takes it away. -/
theorem off (h : switches.Leaves keywords) (keyword : String) :
    Leaves (switches ++ [(keyword, false)]) (keywords.filter (· != keyword)) where
  nodup := h.nodup.filter _
  mem_iff := fun other ↦ by
    rw [isOn_append_singleton_iff, List.mem_filter, h.mem_iff, bne_iff_ne]
    by_cases hother : other = keyword <;> simp [hother]
  ordered := (h.pairwise_append_singleton _).filter _

/-- Switching a keyword on that is on changes nothing. -/
theorem on_of_isOn (h : switches.Leaves keywords) (hon : switches.IsOn keyword) :
    Leaves (switches ++ [(keyword, true)]) keywords where
  nodup := h.nodup
  mem_iff := fun other ↦ by
    rw [isOn_append_singleton_iff, h.mem_iff]
    split
    · subst_vars
      exact iff_of_true hon rfl
    · rfl
  ordered := h.pairwise_append_singleton _

/-- Switching a keyword on that is off puts it at the end. -/
theorem on_of_not_isOn (h : switches.Leaves keywords) (hoff : ¬ switches.IsOn keyword) :
    Leaves (switches ++ [(keyword, true)]) (keywords ++ [keyword]) where
  nodup := by
    refine List.nodup_append.2 ⟨h.nodup, List.nodup_singleton _, fun first hfirst other hother ↦ ?_⟩
    rw [List.mem_singleton.1 hother]
    rintro rfl
    exact hoff ((h.mem_iff first).1 hfirst)
  mem_iff := fun other ↦ by
    rw [isOn_append_singleton_iff, List.mem_append, List.mem_singleton, h.mem_iff]
    by_cases hother : other = keyword <;> simp [hother]
  ordered := by
    refine List.pairwise_append.2 ⟨h.pairwise_append_singleton _, List.pairwise_singleton _ _, ?_⟩
    intro first hfirst other hother
    obtain rfl := List.mem_singleton.1 hother
    exact precedes_append_singleton ((h.mem_iff first).1 hfirst) hoff

/-- **What one switch does**: the modifiers are what it leaves if they were what the switches before
it have left. -/
theorem toggle {c : Clauses} (h : switches.Leaves c.modifiers) (keyword : String) (on : Bool) :
    Leaves (switches ++ [(keyword, on)]) (c.toggle keyword on).modifiers := by
  cases on with
  | false => exact h.off keyword
  | true =>
    have hmem : c.hasModifier keyword = true ↔ switches.IsOn keyword := by
      rw [Clauses.hasModifier, List.contains_iff_mem, h.mem_iff]
    rw [Clauses.toggle, if_pos rfl]
    split
    · exact h.on_of_isOn (hmem.1 ‹_›)
    · exact h.on_of_not_isOn (mt hmem.2 ‹_›)

/-- Switches leave one list only. -/
theorem unique {others : List String} (h : switches.Leaves keywords)
    (hothers : switches.Leaves others) : keywords = others := by
  have hperm : keywords.Perm others :=
    (List.perm_ext_iff_of_nodup h.nodup hothers.nodup).2 fun keyword ↦
      (h.mem_iff keyword).trans (hothers.mem_iff keyword).symm
  refine hperm.eq_of_pairwise ?_ h.ordered hothers.ordered
  rintro first second - - ⟨i, j, hi, hj, hlt⟩ ⟨j', i', hj', hi', hlt'⟩
  obtain rfl := hi.unique hi'
  obtain rfl := hj.unique hj'
  exact absurd hlt (Nat.not_lt_of_lt hlt')

end Leaves

end Switches

/-! ### Switching one keyword after the other -/

namespace Clauses

/-- The clauses after several switches of modifiers. -/
def toggleAll (c : Clauses) (switches : Switches) : Clauses :=
  switches.foldl (fun c (keyword, on) ↦ c.toggle keyword on) c

/-- Switches go on from what earlier ones have left. -/
theorem leaves_append_toggleAll {c : Clauses} {before : Switches} (h : before.Leaves c.modifiers)
    (switches : Switches) :
    Switches.Leaves (before ++ switches) (c.toggleAll switches).modifiers := by
  induction switches generalizing before c with
  | nil => rwa [List.append_nil]
  | cons entry switches ih =>
    rw [List.append_cons]
    exact ih (h.toggle entry.1 entry.2)

/-- **What modifiers are**: the keywords that have been left on, in the order in which they were
last turned on, and there is no other such list. -/
theorem leaves_iff_eq_toggleAll (switches : Switches) (keywords : List String) :
    switches.Leaves keywords ↔ keywords = (toggleAll {} switches).modifiers := by
  have hleaves : switches.Leaves (toggleAll {} switches).modifiers :=
    leaves_append_toggleAll (c := {}) Switches.leaves_nil switches
  exact ⟨fun h ↦ h.unique hleaves, fun h ↦ h ▸ hleaves⟩

/-- What was on all the time keeps its place, and what is turned on again comes last. -/
example : (toggleAll {} [("DISTINCT", true), ("HIGH_PRIORITY", true), ("SQL_CALC_FOUND_ROWS", true),
      ("DISTINCT", false), ("HIGH_PRIORITY", true), ("DISTINCT", true)]).modifiers =
    ["HIGH_PRIORITY", "SQL_CALC_FOUND_ROWS", "DISTINCT"] := by
  decide

end Clauses

end ParamSql
