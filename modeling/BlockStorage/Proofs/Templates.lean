import BlockStorage.Proofs.ValidCloud

/-!
Which fields make a template.

A record takes of each field what denotes a value of its kind and keeps the rest, so that the
problems that validation finds are told by the given values: a text field has none exactly if it was
given text (`textProblem?_required`, `textProblem?_optional`), and a size has none exactly if it
denotes a whole number (`wholeProblem?_wholeOf`). `WellFormed` says so of all fields of a template.

Statement: a table of templates gives what was taken of each template, if their fields are all
declared, and else the fault of one that is not (`templates_cases`).
-/
namespace BlockStorage

/-! ### Values of fields -/

namespace Record

/-- A value that counts as text: a text, or bytes that spell one. -/
inductive Textual : Value → Prop where
  | text (s : String) : Textual (.text s)
  | bytes {bs : List UInt8} {s : String} (h : spelled? bs = some s) : Textual (.bytes bs)

/-- Null, or text. -/
def Optional (v : Value) : Prop := v = .null ∨ Textual v

theorem textual_iff {v : Value} : Textual v ↔ ∃ s, takeText v = .text s := by
  constructor
  · intro h
    cases h with
    | text s => exact ⟨s, rfl⟩
    | @bytes bs s h => exact ⟨s, by simp only [takeText, h]⟩
  · rintro ⟨s, h⟩
    cases v with
    | text t => exact .text t
    | bytes bs =>
      cases hs : spelled? bs with
      | some t => exact .bytes hs
      | none =>
        simp only [takeText, hs] at h
        cases h
    | _ => cases h

theorem takeText_eq_null_iff {v : Value} : takeText v = .null ↔ v = .null := by
  cases v with
  | bytes bs =>
    simp only [takeText]
    cases spelled? bs <;> simp
  | _ => simp [takeText]

/-- A required field has no problem with what it has taken exactly if it was given text. -/
theorem textProblem?_required {v : Value} :
    textProblem? true (takeText v) = none ↔ Textual v := by
  rw [textProblem?_eq_none_iff, textual_iff]
  simp

theorem textProblem?_optional {v : Value} :
    textProblem? false (takeText v) = none ↔ Optional v := by
  rw [textProblem?_eq_none_iff, Optional, textual_iff, takeText_eq_null_iff]
  simp [or_comm]

/-- Only infinity is too large for any whole number. -/
theorem infinite_of_overflow {v : Value} {text : Option String}
    (h : v.toInteger = .error (.foreign .overflow text)) :
    ∃ x negative, v = .float x ∧ Number.ofFloat x = .infinite negative := by
  cases v with
  | float x =>
    simp only [Value.toInteger, Value.integerOfFloat] at h
    split at h
    · cases h
    · exact ⟨x, _, rfl, ‹_›⟩
    · cases h
  | text s =>
    simp only [Value.toInteger] at h
    cases hread : Text.Integer.read s.toList <;> rw [hread] at h <;> cases h
  | bytes bs =>
    simp only [Value.toInteger] at h
    cases hread : Value.integerOfBytes bs <;> rw [hread] at h <;> cases h
  | _ => cases h

/-- A value that is no infinite number. -/
def Finite (v : Value) : Prop := ∀ x negative, v = .float x → Number.ofFloat x ≠ .infinite negative

/-- What a whole-number field takes of a finite value. -/
def wholeOf (v : Value) : Value :=
  match v.toInteger with
  | .ok n => .int n
  | .error _ => v

theorem takeWhole_of_finite {v : Value} (h : Finite v) : takeWhole v = .ok (wholeOf v) := by
  cases v with
  | null => rfl
  | _ =>
    simp only [takeWhole, wholeOf]
    split
    · rename_i hn
      rw [hn]
    · rename_i hoverflow
      obtain ⟨x, negative, hx, hinfinite⟩ := infinite_of_overflow hoverflow
      exact absurd hinfinite (h x negative hx)
    · rename_i hother hn
      rw [hn]

theorem finite_wholeOf {v : Value} (h : Finite v) : Finite (wholeOf v) := by
  unfold wholeOf
  split
  · nofun
  · exact h

theorem toInteger_wholeOf {v : Value} {n : Int} :
    (wholeOf v).toInteger = .ok n ↔ v.toInteger = .ok n := by
  unfold wholeOf
  cases h : v.toInteger with
  | ok m => simp
  | error f => simp [h]

/-- The size that was taken of a finite value has no problem exactly if the value is a whole
number. -/
theorem wholeProblem?_wholeOf {v : Value} (h : Finite v) :
    ∃ problem, wholeProblem? true (wholeOf v) = .ok problem ∧
      (problem = none ↔ ∃ n, v.toInteger = .ok n) := by
  have hok : ∃ problem, wholeProblem? true (wholeOf v) = .ok problem := by
    have hfinite := finite_wholeOf h
    generalize wholeOf v = w at hfinite
    unfold wholeProblem?
    split
    · exact ⟨_, rfl⟩
    · split
      · exact ⟨_, rfl⟩
      · rename_i hoverflow
        obtain ⟨x, negative, hx, hinfinite⟩ := infinite_of_overflow hoverflow
        exact absurd hinfinite (hfinite x negative hx)
      · exact ⟨_, rfl⟩
  obtain ⟨problem, hproblem⟩ := hok
  refine ⟨problem, hproblem, ?_⟩
  have hnone : problem = none ↔ wholeProblem? true (wholeOf v) = .ok none := by
    rw [hproblem, Except.ok.injEq]
  rw [hnone, wholeProblem?_eq_none_iff]
  simp [toInteger_wholeOf]

/-! ### Names of fields -/

/-- Fields under names that mean nothing to records as such. -/
def Free (given : Fields) : Prop := ∀ e ∈ given, e.1 ∉ "self" :: reserved

theorem lookup_of_free {given : Fields} (h : Free given) {name : String} (hname : name ∈ reserved) :
    given.lookup name = none :=
  Table.lookup_eq_none fun e he hsame => h e he (List.mem_cons_of_mem _ (hsame ▸ hname))

theorem converts_of_free {given : Fields} (h : Free given) : converts given = true := by
  rw [converts, lookup_of_free h (by decide)]
  rfl

/-- A record takes fields that it has, and otherwise says that it does not have one. -/
theorem checkNames_cases {given : Fields} (h : Free given) (document : String)
    (fields : List String) :
    ((∀ e ∈ given, e.1 ∈ fields) ∧ checkNames document fields given = .ok ()) ∨
      ((¬∀ e ∈ given, e.1 ∈ fields) ∧
        ∃ text, checkNames document fields given = .error (.foreign .unknownField text)) := by
  have htakes : ∀ e ∈ given, takes fields e.1 = true ↔ e.1 ∈ fields := by
    intro e he
    have hfree : e.1 ∉ reserved := fun hname => h e he (List.mem_cons_of_mem _ hname)
    simp [takes, hfree]
  unfold checkNames
  cases hunknown : given.filter fun e => !takes fields e.1 with
  | nil =>
    refine .inl ⟨fun e he => (htakes e he).1 ?_, rfl⟩
    simpa using List.filter_eq_nil_iff.1 hunknown e he
  | cons e rest =>
    obtain ⟨he, hnot⟩ := List.mem_filter.1 (hunknown ▸ List.mem_cons_self : e ∈ given.filter _)
    refine .inr ⟨fun hall => ?_, _, rfl⟩
    rw [(htakes e he).2 (hall e he)] at hnot
    cases hnot

end Record

/-! ### Templates -/

namespace ComputeTemplate

/-- The template that is taken of its fields. -/
def taken (given : Fields) : ComputeTemplate where
  location := Record.takeText (Record.get given "location_id")
  image := Record.takeText (Record.get given "image_id")
  hardware := Record.takeText (Record.get given "hardware_id")

theorem ofFields_eq {given : Fields} (h : Record.Free given) :
    ofFields given = (Record.checkNames "ComputeTemplate" fields given).map fun _ => taken given := by
  simp only [ofFields, Record.textOr_null (Record.converts_of_free h)]
  cases Record.checkNames "ComputeTemplate" fields given <;> rfl

/-- Fields of a compute template. -/
structure WellFormed (given : Fields) : Prop where
  declared : ∀ e ∈ given, e.1 ∈ ["location_id", "image_id", "hardware_id"]
  location : Record.Optional (Record.get given "location_id")
  image : Record.Optional (Record.get given "image_id")
  hardware : Record.Optional (Record.get given "hardware_id")

theorem problems_taken {given : Fields} (h : ∀ e ∈ given, e.1 ∈ fields) :
    (taken given).problems = [] ↔ WellFormed given := by
  simp only [problems, problemsOf_eq_nil_iff, taken, List.forall_mem_cons, List.not_mem_nil,
    false_implies, implies_true, Record.textProblem?_optional, and_true]
  exact ⟨fun ⟨hl, hi, hh⟩ => ⟨h, hl, hi, hh⟩, fun hw => ⟨hw.location, hw.image, hw.hardware⟩⟩

end ComputeTemplate

namespace StorageTemplate

/-- The template that is taken of its fields. -/
def taken (given : Fields) : StorageTemplate where
  size := Record.wholeOf (Record.get given "size")
  namePrefix := Record.takeText (Record.get given "name_prefix")
  location := Record.takeText (Record.get given "location")
  volumeType := Record.takeText (Record.get given "volume_type")

theorem ofFields_eq {given : Fields} (h : Record.Free given)
    (hsize : Record.Finite (Record.get given "size")) :
    ofFields given = (Record.checkNames "StorageTemplate" fields given).map fun _ => taken given := by
  simp only [ofFields, Record.textOr_null (Record.converts_of_free h), Record.whole,
    Record.converts_of_free h, if_true, Record.takeWhole_of_finite hsize]
  cases Record.checkNames "StorageTemplate" fields given <;> rfl

/-- Fields of a storage template. -/
structure WellFormed (given : Fields) : Prop where
  declared : ∀ e ∈ given, e.1 ∈ ["size", "name_prefix", "location", "volume_type"]
  size : ∃ n, (Record.get given "size").toInteger = .ok n
  namePrefix : Record.Textual (Record.get given "name_prefix")
  location : Record.Optional (Record.get given "location")
  volumeType : Record.Optional (Record.get given "volume_type")

theorem problems_taken {given : Fields} (h : ∀ e ∈ given, e.1 ∈ fields)
    (hsize : Record.Finite (Record.get given "size")) :
    ∃ ps, (taken given).problems = .ok ps ∧ (ps = [] ↔ WellFormed given) := by
  obtain ⟨problem, hproblem, hnone⟩ := Record.wholeProblem?_wholeOf hsize
  refine ⟨_, by simp only [problems, taken, hproblem, bind, Except.bind]; rfl, ?_⟩
  simp only [problemsOf_eq_nil_iff, List.forall_mem_cons, List.not_mem_nil, false_implies,
    implies_true, hnone, Record.textProblem?_required, Record.textProblem?_optional, and_true]
  exact ⟨fun ⟨hs, hp, hl, hv⟩ => ⟨h, hs, hp, hl, hv⟩,
    fun hw => ⟨hw.size, hw.namePrefix, hw.location, hw.volumeType⟩⟩

end StorageTemplate

/-! ### Tables of templates -/

theorem mapM_of_ok {α β ε : Type} {f : α → Except ε β} {g : α → β} {xs : List α}
    (h : ∀ x ∈ xs, f x = .ok (g x)) : xs.mapM f = .ok (xs.map g) := by
  induction xs with
  | nil => rfl
  | cons x rest ih =>
    rw [List.mapM_cons, h x List.mem_cons_self, ih fun y hy => h y (List.mem_cons_of_mem x hy)]
    rfl

/-- If not every member succeeds, the first that does not decides the fault. -/
theorem mapM_of_not_ok {α β ε : Type} {f : α → Except ε β} {P : ε → Prop} {xs : List α}
    (h : ∀ x ∈ xs, ∀ e, f x = .error e → P e) (hnot : ∃ x ∈ xs, ∀ y, f x ≠ .ok y) :
    ∃ e, xs.mapM f = .error e ∧ P e := by
  induction xs with
  | nil => obtain ⟨x, hx, -⟩ := hnot; cases hx
  | cons x rest ih =>
    rw [List.mapM_cons]
    cases hx : f x with
    | error e => exact ⟨e, rfl, h x List.mem_cons_self e hx⟩
    | ok y =>
      obtain ⟨z, hz, hne⟩ := hnot
      have hrest : z ∈ rest := (List.mem_cons.1 hz).resolve_left fun hzx => hne y (hzx ▸ hx)
      obtain ⟨e, he, hp⟩ := ih (fun w hw => h w (List.mem_cons_of_mem x hw)) ⟨z, hrest, hne⟩
      exact ⟨e, by rw [he]; rfl, hp⟩

namespace Cloud

/-- The entries of a table, none if there is no table. -/
def entriesOf : Value → Fields
  | .dict es => es
  | _ => []

/-- A table of templates that a cloud can be given, or nothing: under each name are fields whose
names are free and whose size is finite, or nothing. -/
structure Shaped (v : Value) : Prop where
  table : v = .null ∨ ∃ ts, v = .dict ts
  template : ∀ t ∈ entriesOf v, t.2 = .null ∨ ∃ fs, t.2 = .dict fs
  free : ∀ t ∈ entriesOf v, Record.Free (entriesOf t.2)
  finite : ∀ t ∈ entriesOf v, Record.Finite (Record.get (entriesOf t.2) "size")

/-- A fault of settings that do not fit: a field that is not known, or that has a problem. -/
def Misfit (f : Fault) : Prop :=
  ∃ text, f = .foreign .unknownField text ∨ f = .foreign .invalidRecord text

/-- The fault of nothing in the place of a template. -/
def Untemplated (f : Fault) : Prop := ∃ text, f = .wrongKind text

/-- Fields, all of which are declared. -/
def Declared (fields : List String) (v : Value) : Prop :=
  ∃ fs, v = .dict fs ∧ ∀ e ∈ fs, e.1 ∈ fields

/-- What is built of fields is taken of them as they are, once their names are known. -/
def Takes {α : Type} (build : Fields → Except Fault α) (fields : List String)
    (taken : Fields → α) : Prop :=
  ∃ document, ∀ given, Record.Free given → Record.Finite (Record.get given "size") →
    build given = (Record.checkNames document fields given).map fun _ => taken given

/-- One template of a table. -/
def template {α : Type} (build : Fields → Except Fault α) (t : String × Value) :
    Except Fault (String × α) :=
  match t.2 with
  | .dict es => do
    checkFree ["self"] es
    return (t.1, ← build es)
  | v => throw (.wrongKind ("argument after ** must be a mapping, not " ++ v.kindName))

theorem templates_eq {α : Type} (build : Fields → Except Fault α) {v : Value}
    (h : v = .null ∨ ∃ ts, v = .dict ts) :
    templates build v = (entriesOf v).mapM (template build) := by
  rcases h with rfl | ⟨ts, rfl⟩
  · rfl
  · cases ts <;> rfl

theorem checkFree_of_free {taken : List String} {given : Fields}
    (h : ∀ e ∈ given, e.1 ∉ taken) : checkFree taken given = .ok () := by
  have hnone : given.find? (fun e => taken.contains e.1) = none := by
    rw [List.find?_eq_none]
    intro e he
    simpa using h e he
  rw [checkFree, hnone]

section Templates
variable {α : Type} {build : Fields → Except Fault α} {fields : List String} {taken : Fields → α}

theorem template_cases (hbuild : Takes build fields taken) {t : String × Value}
    (htable : t.2 = .null ∨ ∃ fs, t.2 = .dict fs) (hfree : Record.Free (entriesOf t.2))
    (hfinite : Record.Finite (Record.get (entriesOf t.2) "size")) :
    (Declared fields t.2 ∧ template build t = .ok (t.1, taken (entriesOf t.2))) ∨
      (¬Declared fields t.2 ∧ ∃ f, template build t = .error f ∧
        (Misfit f ∨ t.2 = .null ∧ Untemplated f)) := by
  obtain ⟨document, hbuild⟩ := hbuild
  obtain ⟨name, v⟩ := t
  rcases htable with rfl | ⟨fs, rfl⟩
  · have hnot : ¬Declared fields Value.null := fun ⟨_, hfs, _⟩ => by cases hfs
    exact .inr ⟨hnot, _, rfl, .inr ⟨rfl, _, rfl⟩⟩
  · have hself : checkFree ["self"] fs = .ok () :=
      checkFree_of_free fun e he hname => hfree e he (List.mem_cons.2 (.inl (by simpa using hname)))
    have hmade := hbuild fs hfree hfinite
    rcases Record.checkNames_cases hfree document fields with ⟨hall, hnames⟩ | ⟨hnot, text, hnames⟩
    · refine .inl ⟨⟨fs, rfl, hall⟩, ?_⟩
      simp only [entriesOf] at hnames
      simp only [template, hself, hmade, hnames]
      rfl
    · refine .inr ⟨?_, _, ?_, .inl ⟨text, .inl rfl⟩⟩
      · rintro ⟨fs', hfs, hall⟩
        cases hfs
        exact hnot hall
      · simp only [entriesOf] at hnames
        simp only [template, hself, hmade, hnames]
        rfl

/-- A table of templates: what is taken of each, if all of their fields are declared. -/
theorem templates_cases (hbuild : Takes build fields taken) {v : Value} (hv : Shaped v) :
    ((∀ t ∈ entriesOf v, Declared fields t.2) ∧
      templates build v = .ok ((entriesOf v).map fun t => (t.1, taken (entriesOf t.2)))) ∨
      ((¬∀ t ∈ entriesOf v, Declared fields t.2) ∧ ∃ f, templates build v = .error f ∧
        (Misfit f ∨ (∃ t ∈ entriesOf v, t.2 = .null) ∧ Untemplated f)) := by
  have hcases := fun t ht =>
    template_cases hbuild (hv.template t ht) (hv.free t ht) (hv.finite t ht)
  rw [templates_eq build hv.table]
  by_cases hall : ∀ t ∈ entriesOf v, Declared fields t.2
  · refine .inl ⟨hall, mapM_of_ok fun t ht => ?_⟩
    rcases hcases t ht with ⟨-, hok⟩ | ⟨hnot, -⟩
    · exact hok
    · exact absurd (hall t ht) hnot
  · refine .inr ⟨hall, mapM_of_not_ok ?_ ?_⟩
    · intro t ht f hf
      rcases hcases t ht with ⟨-, hok⟩ | ⟨-, g, hg, hfault⟩
      · rw [hok] at hf
        cases hf
      · rw [hg] at hf
        cases hf
        exact hfault.imp_right fun ⟨hnull, htext⟩ => ⟨⟨t, ht, hnull⟩, htext⟩
    · simp only [Classical.not_forall] at hall
      obtain ⟨t, ht, hnot⟩ := hall
      refine ⟨t, ht, fun y hy => ?_⟩
      rcases hcases t ht with ⟨hdeclared, -⟩ | ⟨-, g, hg, -⟩
      · exact hnot hdeclared
      · rw [hg] at hy
        cases hy

end Templates

theorem takes_compute : Takes ComputeTemplate.ofFields ComputeTemplate.fields ComputeTemplate.taken :=
  ⟨_, fun _ hfree _ => ComputeTemplate.ofFields_eq hfree⟩

theorem takes_storage : Takes StorageTemplate.ofFields StorageTemplate.fields StorageTemplate.taken :=
  ⟨_, fun _ hfree hfinite => StorageTemplate.ofFields_eq hfree hfinite⟩

end Cloud

end BlockStorage
