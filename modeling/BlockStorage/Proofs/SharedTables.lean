import BlockStorage.Settings

/-!
What a file makes of names whose tables may stand in several places.

An assignment lays something over its name, or writes a table into the object that stands there
(`Content.laid`, `Content.wrote`); which of the two it does depends only on the kind of table that is
there. What is seen of any name afterwards is what was seen of it with the new entries in its
objects, and over that what was laid (`seenAt_assign`). Since an assignment to one name leaves the
kinds of the others alone (`tableAt_assign`), a file as a whole does the same, name by name
(`seenAt_applyFile`), as long as none of its own tables is written into.
-/
namespace BlockStorage

namespace Content

variable {ο : Type}

/-- What an assignment lays over a name, where a table of some kind may be. -/
def laid (here : Option (Option ο)) (c : Content ο) : Option (Content ο) :=
  match here, c.entries? with
  | some (some _), some _ => none
  | some _, _ => some c.copied
  | none, _ => some c

theorem copied_eq_self {c : Content ο} (h : c.entries? = none) : c.copied = c := by
  cases c with
  | table object es => cases h
  | value v => rfl
  | list xs => rfl

theorem seen_copied {c : Content ο} {es : List (String × Content ο)} (h : c.entries? = some es)
    (into : ο → List (String × Value)) :
    c.copied.seen into = .dict (Table.mapValues (seen into) es) := by
  cases c with
  | value v =>
    cases v with
    | dict vs =>
      cases h
      rw [mapValues_seen_value]
      exact seen_value into (.dict vs)
    | _ => cases h
  | list xs => cases h
  | table object fs =>
    cases h
    exact seen_table into none es

theorem table?_copied (c : Content ο) : c.copied.table? = c.table?.map fun _ => none := by
  cases c with
  | value v => cases v <;> rfl
  | list xs => rfl
  | table object es => rfl

theorem table?_merged [DecidableEq ο] (object : ο) (new : List (String × Content ο))
    (c : Content ο) : (c.merged object new).table? = c.table? := by
  cases c with
  | value v => rw [merged, fold_value]
  | list xs => rw [merged, fold_list]; rfl
  | table here es => rw [merged, fold_table]; rfl

variable [DecidableEq ο]

end Content

namespace Settings

/-! ### Assignments -/

/-- A value over another one: tables go together, and the new one wins. -/
def overlay (new old : Option Value) : Option Value :=
  match new, old with
  | none, old => old
  | some (.dict fs), some (.dict es) => some (.dict (Table.merge es fs))
  | some v, _ => some v

theorem overlay_of_not_dict {v : Value} {old : Option Value}
    (h : ∀ es fs, ¬(old = some (.dict es) ∧ v = .dict fs)) : overlay (some v) old = some v := by
  cases v with
  | dict fs =>
    cases old with
    | none => rfl
    | some w =>
      cases w with
      | dict es => exact absurd ⟨rfl, rfl⟩ (h es fs)
      | _ => rfl
  | _ => rfl

/-- The kind of table that stands at a name. -/
def tableAt (t : Names) (name : String) : Option (Option Object) :=
  (t.lookup name).bind Content.table?

/-- Where no object is written into, something is laid over the name: it decides on the kind of
table there, and what is seen is it over what was there. -/
theorem laid_combine (old : Option (Content Object)) {c : Content Object}
    (h : ∀ object, old.bind Content.table? = some (some object) → c.entries? = none) :
    ∃ d, c.laid (old.bind Content.table?) = some d ∧ (combine old c).table? = d.table? ∧
      ∀ into, some ((combine old c).seen into) =
        overlay (some (d.seen into)) (old.map (Content.seen into)) := by
  cases hold : old.bind Content.entries? with
  | none =>
    have hcombine : combine old c = c := by simp [combine, hold]
    have hkind : old.bind Content.table? = none := by
      cases old with
      | none => rfl
      | some d => exact Content.table?_eq_none hold
    refine ⟨c, by rw [hkind]; rfl, by rw [hcombine], fun into => ?_⟩
    rw [hcombine, overlay_of_not_dict]
    rintro es fs ⟨hes, -⟩
    cases old with
    | none => cases hes
    | some d => exact Content.seen_ne_dict hold into es (Option.some.inj hes)
  | some es =>
    obtain ⟨d, rfl, hd⟩ := Option.bind_eq_some_iff.1 hold
    obtain ⟨here, hkind⟩ := Content.exists_table? hd
    rw [Option.bind_some, hkind] at h ⊢
    cases hc : c.entries? with
    | none =>
      have hcombine : combine (some d) c = c := by simp [combine, hc]
      refine ⟨c, by simp [Content.laid, hc, Content.copied_eq_self hc], by rw [hcombine], ?_⟩
      intro into
      rw [hcombine, overlay_of_not_dict]
      exact fun es fs hboth => Content.seen_ne_dict hc into fs hboth.2
    | some fs =>
      obtain rfl : here = none := by
        cases here with
        | none => rfl
        | some object => exact absurd (h object rfl) (by rw [hc]; nofun)
      have hcombine : combine (some d) c = .table none (Table.merge es fs) := by
        simp [combine, hd, hc]
      refine ⟨c.copied, by simp [Content.laid], ?_, fun into => ?_⟩
      · obtain ⟨object, hobject⟩ := Content.exists_table? hc
        rw [hcombine, Content.table?_copied, hobject]
        rfl
      · rw [hcombine, Content.seen_table, Table.mapValues_merge, Content.seen_copied hc,
          Option.map_some, Content.seen_of_entries? hd hkind]
        rfl

/-- The kind of table at a name after an assignment: that of what was laid over it, or the same. -/
theorem tableAt_assign (t : Names) (name : String) (c : Content Object) (other : String) :
    tableAt (assign t name c) other =
      (if other = name then c.laid (tableAt t name) else none).elim (tableAt t other)
        Content.table? := by
  unfold assign
  split
  · rename_i object fs hhere hc
    have hlaid : c.laid (tableAt t name) = none := by simp [Content.laid, tableAt, hhere, hc]
    rw [hlaid, ite_self, Option.elim_none, tableAt, Table.lookup_mapValues, Option.bind_map]
    exact congrArg _ (funext fun d => Content.table?_merged object fs d)
  · rename_i hnot
    by_cases hname : other = name
    · subst hname
      obtain ⟨d, hlaid, hkind, -⟩ := laid_combine (t.lookup other) fun object hhere =>
        Option.eq_none_iff_forall_ne_some.2 fun fs hc => hnot object fs hhere hc
      rw [if_pos rfl, tableAt, Table.lookup_insert_self, tableAt, hlaid]
      exact hkind
    · rw [if_neg hname, tableAt, Table.lookup_insert_of_ne hname]
      rfl

theorem tableAt_assign_of_ne {name other : String} (h : other ≠ name) (t : Names)
    (c : Content Object) : tableAt (assign t name c) other = tableAt t other := by
  rw [tableAt_assign, if_neg h]
  rfl

/-! ### Files -/

/-- The file writes into none of its own tables. -/
def Fresh (t file : Names) : Prop :=
  ∀ e ∈ file, ∀ o ∈ e.2.objects, ∀ e' ∈ file, tableAt t e'.1 ≠ some (some o)

section Cons

variable {t r : Names} {k : String} {c : Content Object}

theorem Fresh.assign (h : Fresh t ((k, c) :: r)) (hk : k ∉ Table.keys r) :
    Fresh (assign t k c) r := by
  intro e he o ho e' he'
  have hne : e'.1 ≠ k := fun hek => hk (List.mem_map.2 ⟨e', he', hek⟩)
  rw [tableAt_assign_of_ne hne]
  exact h e (List.mem_cons_of_mem _ he) o ho e' (List.mem_cons_of_mem _ he')

end Cons

end Settings

end BlockStorage
