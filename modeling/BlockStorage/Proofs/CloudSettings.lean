import BlockStorage.Proofs.Templates
import BlockStorage.Sandbox.Trial
import Mathlib.Data.List.Forall2

/-!
Which settings make a cloud.

Building and validating a cloud decides at each field, in one place or the other, whether its value
is of its kind. `WellFormed` says so of all fields at once, without the order in which they are
looked at, and each stage is shown either to pass on what it has taken or to refuse something that
is not well formed (`make_cases`, `validated_cases`). Put together they decide well-formedness
(`ofEntries_cases`), and what is not well formed is reported as bad input as long as its title can
be written and no template is nothing (`ofSettings_decided`).
-/
namespace BlockStorage

namespace Cloud

/-! ### Settings of a cloud -/

/-- Settings of the right shape: tables of templates, and names that are free. The keys of tables are
texts (`Value.dict`), so settings and templates with keys of other kinds are not among them. -/
structure Orderly (es : Fields) : Prop where
  provider : Record.get es "provider" = .null ∨ ∃ s, Record.get es "provider" = .text s
  compute : Shaped (Record.get es "compute_templates")
  storage : Shaped (Record.get es "storage_templates")
  free : Record.Free es
  untitled : ∀ e ∈ es, e.1 ≠ "title"

/-- The names of an account's settings. -/
def accountNames : List String :=
  ["provider", "compute_templates", "storage_templates", "apikey", "apisecret", "region"]

/-- Settings that an account can be made of. -/
structure WellFormed (title : Value) (es : Fields) : Prop where
  declared : ∀ e ∈ es, e.1 ∈ accountNames
  title : Record.Textual title
  apikey : Record.Textual (Record.get es "apikey")
  apisecret : Record.Textual (Record.get es "apisecret")
  region : Record.Textual (Record.get es "region")
  compute : ∀ t ∈ entriesOf (Record.get es "compute_templates"),
    t.1.startsWith "$" = false ∧ ∃ fs, t.2 = .dict fs ∧ ComputeTemplate.WellFormed fs
  storage : ∀ t ∈ entriesOf (Record.get es "storage_templates"),
    t.1.startsWith "$" = false ∧ ∃ fs, t.2 = .dict fs ∧ StorageTemplate.WellFormed fs

/-- The account that is made of settings. -/
def account (title : Value) (es : Fields) : Cloud where
  cls := .amazon
  title := Record.takeText title
  computeTemplates := (entriesOf (Record.get es "compute_templates")).map fun t =>
    (t.1, ComputeTemplate.taken (entriesOf t.2))
  storageTemplates := (entriesOf (Record.get es "storage_templates")).map fun t =>
    (t.1, StorageTemplate.taken (entriesOf t.2))
  apikey := Record.takeText (Record.get es "apikey")
  apisecret := Record.takeText (Record.get es "apisecret")
  region := Record.takeText (Record.get es "region")

/-- What is wrong with a table of compute templates that was taken of their fields. -/
theorem computeProblem?_eq_none_iff {v : Value}
    (hdeclared : ∀ t ∈ entriesOf v, Declared ComputeTemplate.fields t.2) :
    templatesProblem? (Table.mapValues ComputeTemplate.problems
        ((entriesOf v).map fun t => (t.1, ComputeTemplate.taken (entriesOf t.2)))) = none ↔
      ∀ t ∈ entriesOf v, t.1.startsWith "$" = false ∧
        ∃ fs, t.2 = .dict fs ∧ ComputeTemplate.WellFormed fs := by
  simp only [templatesProblem?_eq_none_iff, Table.mapValues, List.map_map, List.forall_mem_map,
    Function.comp_apply]
  refine forall₂_congr fun t ht => and_congr_right' ?_
  obtain ⟨fs, hfs, hall⟩ := hdeclared t ht
  rw [hfs]
  refine (ComputeTemplate.problems_taken hall).trans ⟨fun h => ⟨fs, rfl, h⟩, ?_⟩
  rintro ⟨_, heq, h⟩
  cases heq
  exact h

/-- And with a table of storage templates, of finite sizes. -/
theorem storageProblem?_eq_none_iff {v : Value}
    (hdeclared : ∀ t ∈ entriesOf v, Declared StorageTemplate.fields t.2)
    (hfinite : ∀ t ∈ entriesOf v, Record.Finite (Record.get (entriesOf t.2) "size")) :
    ∃ found, ((entriesOf v).map fun t => (t.1, StorageTemplate.taken (entriesOf t.2))).mapM
        (fun e => do return (e.1, ← e.2.problems)) = .ok found ∧
      (templatesProblem? found = none ↔ ∀ t ∈ entriesOf v, t.1.startsWith "$" = false ∧
        ∃ fs, t.2 = .dict fs ∧ StorageTemplate.WellFormed fs) := by
  have hproblems : ∀ t ∈ entriesOf v, ∃ ps,
      (StorageTemplate.taken (entriesOf t.2)).problems = .ok ps ∧
        (ps = [] ↔ ∃ fs, t.2 = .dict fs ∧ StorageTemplate.WellFormed fs) := by
    intro t ht
    obtain ⟨fs, hfs, hall⟩ := hdeclared t ht
    have hsize := hfinite t ht
    rw [hfs] at hsize ⊢
    obtain ⟨ps, hps, hnone⟩ := StorageTemplate.problems_taken hall hsize
    refine ⟨ps, hps, hnone.trans ⟨fun h => ⟨fs, rfl, h⟩, ?_⟩⟩
    rintro ⟨_, heq, h⟩
    cases heq
    exact h
  refine ⟨_, mapM_of_ok (g := fun e => (e.1, e.2.problems.toOption.getD [])) ?_, ?_⟩
  · rw [List.forall_mem_map]
    intro t ht
    obtain ⟨ps, hps, -⟩ := hproblems t ht
    simp only [hps]
    rfl
  · simp only [templatesProblem?_eq_none_iff, List.map_map, List.forall_mem_map,
      Function.comp_apply]
    refine forall₂_congr fun t ht => and_congr_right' ?_
    obtain ⟨ps, hps, hnone⟩ := hproblems t ht
    rw [hps]
    exact hnone

/-- The problems of an account are found, and there are none exactly if its settings are well
formed. -/
theorem problems_account {es : Fields} (hes : Orderly es) (title : Value)
    (hnames : ∀ e ∈ es, e.1 ∈ accountNames)
    (hcompute : ∀ t ∈ entriesOf (Record.get es "compute_templates"),
      Declared ComputeTemplate.fields t.2)
    (hstorage : ∀ t ∈ entriesOf (Record.get es "storage_templates"),
      Declared StorageTemplate.fields t.2) :
    ∃ ps, (account title es).problems = .ok ps ∧ (ps = [] ↔ WellFormed title es) := by
  obtain ⟨found, hfound, hnone⟩ := storageProblem?_eq_none_iff hstorage hes.storage.finite
  have hfound : (account title es).storageTemplates.mapM
      (fun e => do return (e.1, ← e.2.problems)) = .ok found := hfound
  refine ⟨_, by rw [problems, hfound]; rfl, ?_⟩
  simp only [problemsOf_eq_nil_iff, account, Class.hasAccount, if_true, List.cons_append,
    List.nil_append, List.forall_mem_cons, List.not_mem_nil, false_implies, implies_true,
    Record.textProblem?_required, computeProblem?_eq_none_iff hcompute, hnone, and_true]
  constructor
  · rintro ⟨htitle, hc, hs, hkey, hsecret, hregion, -⟩
    exact ⟨hnames, htitle, hkey, hsecret, hregion, hc, hs⟩
  · rintro ⟨-, htitle, hkey, hsecret, hregion, hc, hs⟩
    exact ⟨htitle, hc, hs, hkey, hsecret, hregion, rfl⟩

/-! ### Building an account -/

theorem member_texts (es : Fields) (name : String) :
    member (es.map fun e => (.text e.1, e.2)) name = Record.get es name := by
  have hfind : Value.find? (.text name) (es.map fun e => (Value.text e.1, e.2)) =
      es.lookup name := by
    induction es with
    | nil => rfl
    | cons e rest ih =>
      obtain ⟨k, v⟩ := e
      by_cases hk : k = name
      · subst hk
        simp [Value.find?]
      · rw [Table.lookup_cons_of_ne (Ne.symm hk)]
        simpa [Value.find?, hk] using ih
  rw [member, hfind, Record.get]

theorem named_texts (es : Fields) :
    Record.named (es.map fun e => (.text e.1, e.2)) = .ok es := by
  unfold Record.named
  induction es with
  | nil => rfl
  | cons e rest ih =>
    rw [List.map_cons, List.mapM_cons, ih]
    rfl

/-- The names of the settings that are taken out before an account is made of the others. -/
def apart : List String := ["provider", "compute_templates", "storage_templates"]

/-- The fields that are neither the provider nor templates. -/
def rest (es : Fields) : Fields := es.filter fun e => !apart.contains e.1

theorem get_rest {es : Fields} {name : String} (h : name ∉ apart) :
    Record.get (rest es) name = Record.get es name := by
  have hkept : (!apart.contains name) = true := by simpa using h
  rw [Record.get, rest, Table.lookup_filter (p := fun name => !apart.contains name) hkept,
    Record.get]

theorem free_given {es : Fields} (hes : Orderly es) (title : Value) :
    Record.Free (("title", title) :: rest es) := by
  intro e he
  rcases List.mem_cons.1 he with rfl | he
  · show "title" ∉ "self" :: Record.reserved
    decide
  · exact hes.free e (List.mem_filter.1 he).1

/-- The fields of an account are its title and its settings but for the provider. -/
theorem names_given {es : Fields} (hes : Orderly es) (title : Value) :
    (∀ e ∈ ("title", title) :: rest es, e.1 ∈ Class.fields .amazon) ↔
      ∀ e ∈ es, e.1 ∈ accountNames := by
  have htaken : ∀ name ∈ Class.fields .amazon, name ≠ "title" → name ∈ accountNames := by decide
  have hgiven : ∀ name ∈ accountNames, name ≠ "provider" → name ∈ Class.fields .amazon := by decide
  have hapart : ∀ name ∈ apart, name ∈ accountNames := by decide
  rw [List.forall_mem_cons]
  constructor
  · rintro ⟨-, h⟩ e he
    by_cases hname : e.1 ∈ apart
    · exact hapart e.1 hname
    · have hrest : e ∈ rest es := List.mem_filter.2 ⟨he, by simpa using hname⟩
      exact htaken e.1 (h e hrest) (hes.untitled e he)
  · intro h
    have htitle : "title" ∈ Class.fields .amazon := by decide
    refine ⟨htitle, fun e he => ?_⟩
    obtain ⟨he, hname⟩ := List.mem_filter.1 he
    refine hgiven e.1 (h e he) fun hprovider => ?_
    rw [hprovider] at hname
    exact absurd hname (by decide)

/-- An account is made of its fields, if it has all of them. -/
theorem make_cases {es : Fields} (hes : Orderly es) (title : Value) :
    ((∀ e ∈ es, e.1 ∈ accountNames) ∧
      make .amazon (account title es).computeTemplates (account title es).storageTemplates
        (("title", title) :: rest es) = .ok (account title es)) ∨
      ((¬∀ e ∈ es, e.1 ∈ accountNames) ∧
        ∃ f, make .amazon (account title es).computeTemplates (account title es).storageTemplates
          (("title", title) :: rest es) = .error f ∧ Misfit f) := by
  have hfree := free_given hes title
  rcases Record.checkNames_cases hfree (Class.name .amazon) (Class.fields .amazon) with
    ⟨hall, hnames⟩ | ⟨hnot, text, hnames⟩
  · refine .inl ⟨(names_given hes title).1 hall, ?_⟩
    have habsent : ∀ name ∈ Record.reserved,
        Record.get (("title", title) :: rest es) name = .null := by
      intro name hname
      rw [Record.get, Record.lookup_of_free hfree hname]
      rfl
    have hgiven : ∀ name ∈ ["apikey", "apisecret", "region"],
        Record.get (("title", title) :: rest es) name = Record.get es name := by
      intro name hname
      have hapart : ∀ name ∈ ["apikey", "apisecret", "region"], name ≠ "title" ∧ name ∉ apart := by
        decide
      obtain ⟨hne, hkept⟩ := hapart name hname
      rw [Record.get, Table.lookup_cons_of_ne hne]
      exact get_rest hkept
    simp only [make, hnames, Record.textOr_null (Record.converts_of_free hfree), Class.hasAccount,
      if_true, hgiven "apikey" (by decide), hgiven "apisecret" (by decide),
      hgiven "region" (by decide), habsent "pk" (by decide), habsent "_cls" (by decide)]
    rfl
  · refine .inr ⟨fun h => hnot ((names_given hes title).2 h), _, ?_, text, .inl rfl⟩
    simp only [make, hnames]
    rfl

/-- Nothing stands in the place of some template. -/
def Untold (es : Fields) : Prop :=
  ∃ field ∈ ["compute_templates", "storage_templates"], ∃ t ∈ entriesOf (Record.get es field),
    t.2 = .null

/-- Settings by name, as the entries of a table are taken. -/
def entriesIn (es : Fields) : List (Value × Value) := es.map fun e => (.text e.1, e.2)

theorem named_rest (es : Fields) :
    Record.named ((entriesIn es).filter fun e =>
      !Value.mem e.1 [.text "provider", .text "compute_templates", .text "storage_templates"]) =
        .ok (rest es) := by
  have hmem : ∀ name, Value.mem (.text name)
      [.text "provider", .text "compute_templates", .text "storage_templates"] =
        apart.contains name := by
    intro name
    rw [Bool.eq_iff_iff, Value.mem_text_iff]
    simp [apart]
  rw [← named_texts (rest es), entriesIn, List.filter_map, rest]
  congr 3
  funext e
  rw [Function.comp_apply, hmem]

/-- Once the templates are built, the cloud is made and validated. -/
theorem validated_cases {es : Fields} (hes : Orderly es) (title : Value)
    (hcompute : ∀ t ∈ entriesOf (Record.get es "compute_templates"),
      Declared ComputeTemplate.fields t.2)
    (hstorage : ∀ t ∈ entriesOf (Record.get es "storage_templates"),
      Declared StorageTemplate.fields t.2) :
    let made := make .amazon (account title es).computeTemplates
      (account title es).storageTemplates (("title", title) :: rest es)
    (WellFormed title es ∧ made.bind validate = .ok (account title es)) ∨
      (¬WellFormed title es ∧ ∃ f, made.bind validate = .error f ∧ Misfit f) := by
  intro made
  rcases make_cases hes title with ⟨hnames, hmade⟩ | ⟨hnot, f, hmade, hmisfit⟩
  · obtain ⟨ps, hps, hnone⟩ := problems_account hes title hnames hcompute hstorage
    simp only [made, hmade, Except.bind, validate, hps]
    cases ps with
    | nil => exact .inl ⟨hnone.1 rfl, rfl⟩
    | cons p ps =>
      refine .inr ⟨fun h => List.cons_ne_nil p ps (hnone.2 h), _, rfl, ?_⟩
      have hkey : ∀ v ∈ [(account title es).key], v.writable = true := by
        simp [account, Value.writable]
      rw [complaint, Fault.mentioning_of_writable _ hkey]
      exact ⟨_, .inr rfl⟩
  · simp only [made, hmade, Except.bind]
    exact .inr ⟨fun h => hnot h.declared, f, rfl, hmisfit⟩

/-- Building a cloud from settings decides whether they are well formed. -/
theorem ofEntries_cases {es : Fields} (hes : Orderly es) (title : Value) :
    (WellFormed title es ∧ ofEntries .amazon title (entriesIn es) = .ok (account title es)) ∨
      (¬WellFormed title es ∧ ∃ f, ofEntries .amazon title (entriesIn es) = .error f ∧
        (Misfit f ∨ Untold es ∧ Untemplated f)) := by
  have hfree : checkFree ["title", "self"] (rest es) = .ok () := by
    refine checkFree_of_free fun e he => ?_
    have he := (List.mem_filter.1 he).1
    have hself : e.1 ≠ "self" := fun h => hes.free e he (h ▸ List.mem_cons_self)
    simp [hes.untitled e he, hself]
  have hmember := member_texts es
  rcases templates_cases takes_compute hes.compute with ⟨hcompute, hc⟩ | ⟨hnot, f, hf, hfault⟩
  · rcases templates_cases takes_storage hes.storage with ⟨hstorage, hs⟩ | ⟨hnot, f, hf, hfault⟩
    · have hmade : ofEntries .amazon title (entriesIn es) =
          (make .amazon (account title es).computeTemplates (account title es).storageTemplates
            (("title", title) :: rest es)).bind validate := by
        rw [ofEntries, named_rest, entriesIn, hmember, hmember, hc, hs]
        simp only [hfree, bind, Except.bind]
        rfl
      rw [hmade]
      rcases validated_cases hes title hcompute hstorage with ⟨hwf, hok⟩ | ⟨hwf, f, hf, hmisfit⟩
      · exact .inl ⟨hwf, hok⟩
      · exact .inr ⟨hwf, f, hf, .inl hmisfit⟩
    · refine .inr ⟨fun h => hnot fun t ht => ?_, f, ?_, ?_⟩
      · obtain ⟨-, fs, hfs, hwf⟩ := h.storage t ht
        exact ⟨fs, hfs, hwf.declared⟩
      · rw [ofEntries, entriesIn, hmember, hmember, hc, hf]
        rfl
      · exact hfault.imp_right (And.imp_left fun hnull => ⟨_, by simp, hnull⟩)
  · refine .inr ⟨fun h => hnot fun t ht => ?_, f, ?_, ?_⟩
    · obtain ⟨-, fs, hfs, hwf⟩ := h.compute t ht
      exact ⟨fs, hfs, hwf.declared⟩
    · rw [ofEntries, entriesIn, hmember, hf]
      rfl
    · exact hfault.imp_right (And.imp_left fun hnull => ⟨_, by simp, hnull⟩)

/-! ### From settings -/

/-- A cloud that has taken its settings: templates of exactly the given names, and sizes that are
the whole numbers of the given ones. -/
structure Normal (es : Fields) (c : Cloud) : Prop where
  computeNames : Table.keys c.computeTemplates =
    Table.keys (entriesOf (Record.get es "compute_templates"))
  storageNames : Table.keys c.storageTemplates =
    Table.keys (entriesOf (Record.get es "storage_templates"))
  sizes : List.Forall₂
    (fun given t => ∃ n, (Record.get (entriesOf given.2) "size").toInteger = .ok n ∧
      t.2.size = .int n)
    (entriesOf (Record.get es "storage_templates")) c.storageTemplates

theorem normal_account {title : Value} {es : Fields} (h : WellFormed title es) :
    Normal es (account title es) where
  computeNames := by simp [Table.keys, account]
  storageNames := by simp [Table.keys, account]
  sizes := by
    rw [account, List.forall₂_map_right_iff, List.forall₂_same]
    intro t ht
    obtain ⟨-, fs, hfs, hwf⟩ := h.storage t ht
    obtain ⟨n, hn⟩ := hwf.size
    rw [hfs]
    refine ⟨n, hn, ?_⟩
    simp only [entriesOf, StorageTemplate.taken, Record.wholeOf, hn]

/-! ### The provider -/

section Provider
variable {known : Known}

theorem resolve_known (hsole : known.Sole) {s : String} (h : known.Has (.text s)) :
    Class.resolve .abstract known (.text s) = .ok .amazon := by
  obtain ⟨htruthy, hfound⟩ := h
  obtain ⟨cls, hcls⟩ := Option.isSome_iff_exists.1 hfound
  obtain rfl := hsole.find? hcls
  simp only [Class.resolve, htruthy, hcls]
  rfl

/-- A provider that is missing, or not known, is bad input. -/
theorem resolve_unknown {v : Value} (hv : v = .null ∨ ∃ s, v = .text s) (h : ¬known.Has v) :
    ∃ kind m, Class.resolve .abstract known v = .error (.because kind m none []) ∧
      (v.truthy = false ∧ kind = .parameterMissing ∨ v.truthy = true ∧ kind = .validation) := by
  rcases hv with rfl | ⟨s, rfl⟩
  · exact ⟨_, _, rfl, .inl ⟨rfl, rfl⟩⟩
  · by_cases hempty : s = ""
    · subst hempty
      exact ⟨_, _, rfl, .inl ⟨rfl, rfl⟩⟩
    · have htruthy : (Value.text s).truthy = true := by simpa [Value.truthy] using hempty
      have hunknown : Value.find? (.text s) known = none := by
        rw [← Option.not_isSome_iff_eq_none]
        exact fun hfound => h ⟨htruthy, hfound⟩
      have hwritable : ∀ w ∈ [Value.text s], w.writable = true := by simp
      have hinvalid : ∃ m, Class.resolve .abstract known (.text s) =
          .error (.mentioning [.text s] (.because .validation m none [])) := by
        simp only [Class.resolve, htruthy, hunknown, Value.hashable]
        exact ⟨_, rfl⟩
      obtain ⟨m, hinvalid⟩ := hinvalid
      rw [Fault.mentioning_of_writable _ hwritable] at hinvalid
      exact ⟨.validation, _, hinvalid, .inr ⟨htruthy, rfl⟩⟩

/-- When nothing is set, the provider has three names. -/
theorem has_usual (s : String) : usual.Has (.text s) ↔ s ∈ ["ec2", "aws", "amazon"] := by
  constructor
  · rintro ⟨-, hfound⟩
    unfold Value.find? at hfound
    rw [Option.isSome_map, List.find?_isSome] at hfound
    obtain ⟨e, he, hname⟩ := hfound
    have hnames : ∀ e ∈ usual, ∃ name ∈ ["ec2", "aws", "amazon"], e.1 = .text name := by
      simp [usual]
    obtain ⟨name, hmem, hkey⟩ := hnames e he
    rw [hkey, Value.equal_text_text, beq_iff_eq] at hname
    exact hname ▸ hmem
  · intro h
    simp only [List.mem_cons, List.not_mem_nil, or_false] at h
    rcases h with rfl | rfl | rfl
    all_goals exact ⟨rfl, rfl⟩

end Provider

/-- Settings that do not fit are bad input, as long as the title can be written. -/
theorem settingsFault_of_misfit {f : Fault} (h : Misfit f) (title : Value) :
    (title.writable = true ∧ ∃ m cause, settingsFault title f = .because .validation m cause []) ∨
      (title.writable = false ∧ settingsFault title f = .notWritable) := by
  have hfault : ∃ m cause,
      settingsFault title f = .mentioning [title] (.because .validation m cause []) := by
    obtain ⟨text, rfl | rfl⟩ := h
    all_goals exact ⟨_, _, rfl⟩
  obtain ⟨m, cause, hfault⟩ := hfault
  rw [hfault]
  by_cases hwritable : title.writable = true
  · exact .inl ⟨hwritable, m, cause, Fault.mentioning_of_writable _ (by simpa using hwritable)⟩
  · exact .inr ⟨by simpa using hwritable, Fault.mentioning_of_unwritable _ (by simpa using hwritable)⟩

/-- Why settings of an account are refused: they do not fit, which is bad input but cannot be said
of a title that cannot be written, or a template is not told. -/
def Refused (title : Value) (es : Fields) (f : Fault) : Prop :=
  (title.writable = true ∧ ∃ m cause, f = .because .validation m cause []) ∨
    (title.writable = false ∧ f = .notWritable) ∨ Untold es ∧ Untemplated f

theorem Refused.isA_validation {title : Value} {es : Fields} {f : Fault} (h : Refused title es f)
    (hwritable : title.writable = true) (htold : ¬Untold es) : f.isA .validation = true := by
  rcases h with ⟨-, m, cause, rfl⟩ | ⟨hnot, -⟩ | ⟨huntold, -⟩
  · rfl
  · rw [hwritable] at hnot
    cases hnot
  · exact absurd huntold htold

theorem Refused.not_parameterMissing {title : Value} {es : Fields} {f : Fault}
    (h : Refused title es f) : f.isA .parameterMissing = false := by
  rcases h with ⟨-, m, cause, rfl⟩ | ⟨-, rfl⟩ | ⟨-, text, rfl⟩
  all_goals rfl

/-- Settings in a table: the provider decides on the class, and then a cloud of that class is
built. -/
theorem ofSettings_dict (known : Known) (cls : Class) (title : Value) (es : Fields) :
    ofSettings known cls title (.dict es) =
      (cls.resolve known (Record.get es "provider")).bind fun resolved =>
        (ofEntries resolved title (entriesIn es)).mapError (settingsFault title) := by
  rw [← member_texts es]
  rfl

/-- What becomes of settings as settings of an account. -/
theorem ofSettings_amazon {es : Fields} (hes : Orderly es) (known : Known) (title : Value) :
    (WellFormed title es ∧ ofSettings known .amazon title (.dict es) = .ok (account title es)) ∨
      (¬WellFormed title es ∧
        ∃ f, ofSettings known .amazon title (.dict es) = .error f ∧ Refused title es f) := by
  have hsettings : ofSettings known .amazon title (.dict es) =
      (ofEntries .amazon title (entriesIn es)).mapError (settingsFault title) := rfl
  rw [hsettings]
  rcases ofEntries_cases hes title with ⟨hwf, hok⟩ | ⟨hwf, f, hf, hmisfit | ⟨huntold, htext⟩⟩
  · rw [hok]
    exact .inl ⟨hwf, rfl⟩
  · rw [hf]
    refine .inr ⟨hwf, _, rfl, ?_⟩
    rcases settingsFault_of_misfit hmisfit title with hvalid | hunwritable
    · exact .inl hvalid
    · exact .inr (.inl hunwritable)
  · rw [hf]
    refine .inr ⟨hwf, f, ?_, .inr (.inr ⟨huntold, htext⟩)⟩
    obtain ⟨text, rfl⟩ := htext
    rfl

/-- A cloud of no class in particular is of the class of its provider. -/
theorem ofSettings_abstract {es : Fields} (hes : Orderly es) {known : Known} (hsole : known.Sole)
    (title : Value) :
    (known.Has (Record.get es "provider") ∧
      ofSettings known .abstract title (.dict es) = ofSettings known .amazon title (.dict es)) ∨
      (¬known.Has (Record.get es "provider") ∧
        ∃ kind m, ofSettings known .abstract title (.dict es) = .error (.because kind m none []) ∧
          ((Record.get es "provider").truthy = false ∧ kind = .parameterMissing ∨
            (Record.get es "provider").truthy = true ∧ kind = .validation)) := by
  rw [ofSettings_dict known .abstract]
  by_cases hknown : known.Has (Record.get es "provider")
  · refine .inl ⟨hknown, ?_⟩
    rcases hes.provider with hnull | ⟨s, hs⟩
    · rw [hnull] at hknown
      cases hknown.1
    · rw [hs] at hknown ⊢
      rw [resolve_known hsole hknown]
      rfl
  · refine .inr ⟨hknown, ?_⟩
    obtain ⟨kind, m, hresolve, hkind⟩ := resolve_unknown hes.provider hknown
    exact ⟨kind, m, by rw [hresolve]; rfl, hkind⟩

section Inversion

variable {es : Fields} (hes : Orderly es) {known : Known} {title : Value} {c : Cloud} {f : Fault}

include hes

theorem amazon_of_wellFormed (h : WellFormed title es) (known : Known) :
    ofSettings known .amazon title (.dict es) = .ok (account title es) := by
  rcases ofSettings_amazon hes known title with ⟨-, hok⟩ | ⟨hnot, -⟩
  · exact hok
  · exact absurd h hnot

theorem abstract_of_has (hsole : known.Sole) (h : known.Has (Record.get es "provider"))
    (title : Value) :
    ofSettings known .abstract title (.dict es) = ofSettings known .amazon title (.dict es) := by
  rcases ofSettings_abstract hes hsole title with ⟨-, hsame⟩ | ⟨hnot, -⟩
  · exact hsame
  · exact absurd h hnot

theorem wellFormed_of_amazon (h : ofSettings known .amazon title (.dict es) = .ok c) :
    WellFormed title es ∧ c = account title es := by
  rcases ofSettings_amazon hes known title with ⟨hwf, hok⟩ | ⟨-, f, hf, -⟩
  · rw [hok] at h
    exact ⟨hwf, (Except.ok.inj h).symm⟩
  · rw [hf] at h
    cases h

theorem refused_of_amazon (h : ofSettings known .amazon title (.dict es) = .error f) :
    ¬WellFormed title es ∧ Refused title es f := by
  rcases ofSettings_amazon hes known title with ⟨-, hok⟩ | ⟨hwf, g, hg, hrefused⟩
  · rw [hok] at h
    cases h
  · rw [hg] at h
    cases h
    exact ⟨hwf, hrefused⟩

theorem amazon_of_abstract (hsole : known.Sole)
    (h : ofSettings known .abstract title (.dict es) = .ok c) :
    known.Has (Record.get es "provider") ∧ ofSettings known .amazon title (.dict es) = .ok c := by
  rcases ofSettings_abstract hes hsole title with ⟨hhas, hsame⟩ | ⟨-, kind, m, hf, -⟩
  · exact ⟨hhas, hsame ▸ h⟩
  · rw [hf] at h
    cases h

/-- What a cloud of no class in particular fails with, the class of its provider fails with, if it
has one. -/
theorem refused_of_abstract (hsole : known.Sole)
    (h : ofSettings known .abstract title (.dict es) = .error f) :
    (known.Has (Record.get es "provider") ∧
      ofSettings known .amazon title (.dict es) = .error f) ∨
      ∃ kind m, f = .because kind m none [] ∧
        ((Record.get es "provider").truthy = false ∧ kind = .parameterMissing ∨
          (Record.get es "provider").truthy = true ∧ kind = .validation) := by
  rcases ofSettings_abstract hes hsole title with ⟨hhas, hsame⟩ | ⟨-, kind, m, hf, hkind⟩
  · exact .inl ⟨hhas, hsame ▸ h⟩
  · rw [hf] at h
    cases h
    exact .inr ⟨kind, m, rfl, hkind⟩

end Inversion

theorem forall_mem_classes {P : Class → Prop} :
    (∀ cls ∈ [Class.amazon, .abstract], P cls) ↔ P .amazon ∧ P .abstract := by
  simp

/-- What settings are decided to be. -/
structure Decided (known : Known) (title : Value) (es : Fields) : Prop where
  account : (∃ c, ofSettings known .amazon title (.dict es) = .ok c) ↔ WellFormed title es
  abstract : (∃ c, ofSettings known .abstract title (.dict es) = .ok c) ↔
    WellFormed title es ∧ known.Has (Record.get es "provider")
  normal : ∀ cls ∈ [Class.amazon, .abstract], ∀ c,
    ofSettings known cls title (.dict es) = .ok c → Normal es c
  /-- Whatever is refused is bad input, if every template is told and the title can be written. -/
  refused : title.writable = true → ¬Untold es → ∀ cls ∈ [Class.amazon, .abstract], ∀ f,
    ofSettings known cls title (.dict es) = .error f → f.isA .validation = true
  /-- Only a cloud of no class in particular misses its provider. -/
  missing : ∀ cls ∈ [Class.amazon, .abstract], ∀ f, ofSettings known cls title (.dict es) = .error f →
    (f.isA .parameterMissing = true ↔
      cls = .abstract ∧ (Record.get es "provider").truthy = false)
  /-- And a title that cannot be written is not reported. -/
  unwritable : title.writable = false → ¬Untold es →
    ofSettings known .amazon title (.dict es) = .error .notWritable

/-- **Settings make a cloud exactly if they are well formed**, and then the cloud has taken them. -/
theorem ofSettings_decided {es : Fields} (hes : Orderly es) {table : Value} {known : Known}
    (hknown : knownIn table = .ok known) (title : Value) :
    Decided known title es ∧ (table = Settings.builtInProviders →
      ∀ s, known.Has (.text s) ↔ s ∈ ["ec2", "aws", "amazon"]) := by
  have hsole := sole_knownIn hknown
  refine ⟨?_, ?usual⟩
  case usual =>
    rintro rfl s
    rw [knownIn_builtInProviders] at hknown
    cases hknown
    exact has_usual s
  constructor
  case account =>
    exact ⟨fun ⟨_, hc⟩ => (wellFormed_of_amazon hes hc).1,
      fun hwf => ⟨_, amazon_of_wellFormed hes hwf known⟩⟩
  case abstract =>
    constructor
    · rintro ⟨c, hc⟩
      obtain ⟨hhas, hc⟩ := amazon_of_abstract hes hsole hc
      exact ⟨(wellFormed_of_amazon hes hc).1, hhas⟩
    · rintro ⟨hwf, hhas⟩
      exact ⟨_, (abstract_of_has hes hsole hhas title).trans (amazon_of_wellFormed hes hwf known)⟩
  case normal =>
    have hnormal : ∀ c, ofSettings known .amazon title (.dict es) = .ok c → Normal es c := by
      intro c hc
      obtain ⟨hwf, rfl⟩ := wellFormed_of_amazon hes hc
      exact normal_account hwf
    rw [forall_mem_classes]
    exact ⟨hnormal, fun c hc => hnormal c (amazon_of_abstract hes hsole hc).2⟩
  case refused =>
    intro hwritable htold
    have hrefused : ∀ f, ofSettings known .amazon title (.dict es) = .error f →
        f.isA .validation = true := fun f hf =>
      (refused_of_amazon hes hf).2.isA_validation hwritable htold
    rw [forall_mem_classes]
    refine ⟨hrefused, fun f hf => ?_⟩
    rcases refused_of_abstract hes hsole hf with ⟨-, hf⟩ | ⟨kind, m, rfl, ⟨-, rfl⟩ | ⟨-, rfl⟩⟩
    · exact hrefused f hf
    · rfl
    · rfl
  case missing =>
    have hothers : ∀ f, ofSettings known .amazon title (.dict es) = .error f →
        f.isA .parameterMissing = false := fun f hf =>
      (refused_of_amazon hes hf).2.not_parameterMissing
    rw [forall_mem_classes]
    refine ⟨fun f hf => iff_of_false (by simp [hothers f hf]) (by simp), fun f hf => ?_⟩
    rcases refused_of_abstract hes hsole hf with ⟨hhas, hf⟩ | ⟨kind, m, rfl, hkind⟩
    · exact iff_of_false (by simp [hothers f hf]) (by simp [hhas.1])
    · rcases hkind with ⟨hempty, rfl⟩ | ⟨hsome, rfl⟩
      · exact iff_of_true rfl ⟨rfl, hempty⟩
      · exact iff_of_false (by nofun) fun h => by rw [hsome] at h; cases h.2
  case unwritable =>
    intro hunwritable htold
    rcases ofSettings_amazon hes known title with
      ⟨hwf, -⟩ | ⟨-, f, hf, ⟨hwritable, -⟩ | ⟨-, rfl⟩ | ⟨huntold, -⟩⟩
    · cases hwf.title <;> cases hunwritable
    · rw [hunwritable] at hwritable
      cases hwritable
    · exact hf
    · exact absurd huntold htold

/-- Settings with a size in digits and a key in bytes. -/
def spelledSettings : Fields :=
  [("provider", .text "aws"), ("apikey", .bytes [107]), ("apisecret", .text "s"),
    ("region", .text "west"), ("storage_templates", .dict [("small",
      .dict [("size", .text " 5 "), ("name_prefix", .text "s")])])]

theorem ofSettings_decided_spelled :
    knownIn Settings.builtInProviders = .ok usual ∧ Orderly spelledSettings ∧
      WellFormed (.text "home") spelledSettings ∧ usual.Has (.text "aws") ∧
      ∃ c, ofSettings usual .abstract (.text "home") (.dict spelledSettings) = .ok c ∧
        Normal spelledSettings c := by
  have hcompute : Shaped .null := ⟨.inl rfl, nofun, nofun, nofun⟩
  have hstorage : Shaped (Record.get spelledSettings "storage_templates") := by
    refine ⟨.inr ⟨_, rfl⟩, ?_, ?_, ?_⟩
    all_goals
      show ∀ t ∈ [("small", Value.dict [("size", .text " 5 "), ("name_prefix", .text "s")])], _
      rw [List.forall_mem_singleton]
    · exact .inr ⟨_, rfl⟩
    · unfold Record.Free
      decide
    · exact nofun
  have hes : Orderly spelledSettings := by
    refine ⟨.inr ⟨"aws", rfl⟩, hcompute, hstorage, ?_, by decide⟩
    unfold Record.Free
    decide
  have hwf : WellFormed (.text "home") spelledSettings := by
    refine ⟨by decide, .text _, .bytes (s := "k") ?_, .text _, .text _, nofun, ?_⟩
    · decide
    · show ∀ t ∈ [("small", Value.dict [("size", .text " 5 "), ("name_prefix", .text "s")])], _
      rw [List.forall_mem_singleton]
      refine ⟨by decide +kernel, _, rfl, by decide, ⟨5, rfl⟩, .text "s", .inl rfl, .inl rfl⟩
  obtain ⟨hdecided, hnames⟩ :=
    ofSettings_decided hes knownIn_builtInProviders (.text "home")
  have hhas : usual.Has (.text "aws") := (hnames rfl "aws").2 (by decide)
  obtain ⟨c, hc⟩ := hdecided.abstract.2 ⟨hwf, hhas⟩
  exact ⟨knownIn_builtInProviders, hes, hwf, hhas, c, hc, hdecided.normal .abstract (by simp) c hc⟩

/-- A title that is too long to be written, and a template that is nothing, are not reported as bad
input. -/
theorem ofSettings_misreported :
    ofSettings usual .amazon Sandbox.overlong (.dict []) = .error .notWritable ∧
      (Fault.notWritable).isA .validation = false ∧
      ∃ text, ofSettings usual .amazon (.text "c") (.dict [("storage_templates", .dict [("T", .null)])]) =
          .error (.wrongKind text) ∧
        (Fault.wrongKind text).isA .validation = false := by
  have hempty : Shaped .null := ⟨.inl rfl, nofun, nofun, nofun⟩
  have hes : Orderly [] := ⟨.inl rfl, hempty, hempty, nofun, nofun⟩
  have hlong : ofSettings usual .amazon Sandbox.overlong (.dict []) = .error .notWritable := by
    rcases ofSettings_amazon hes usual Sandbox.overlong with
      ⟨hwf, -⟩ | ⟨-, f, hf, ⟨hwritable, -⟩ | ⟨-, rfl⟩ | ⟨⟨field, -, t, ht, -⟩, -⟩⟩
    · cases hwf.title
    · rw [Sandbox.writable_overlong] at hwritable
      cases hwritable
    · exact hf
    · cases ht
  exact ⟨hlong, rfl, _, rfl, rfl⟩

end Cloud

end BlockStorage
