import BlockStorage.Proofs.CloudSettings

/-!
A cloud can be made again from what it shows.

What a cloud shows, with its secret, are settings (`settings`): no field of a cloud without problems
has anything but what it would take of itself, so these are well formed (`wellFormed_settings`), and
the cloud made of them differs only in what is not shown and in sizes that stand for a number
(`account_settings`). A size is a number already, unless its template was told not to convert it.

Main statement: the cloud that is made again shows the same and tells the same of every template,
with every size as a number (`remade_of_ofSettings`).
-/
namespace BlockStorage

/-! ### Fields without a problem -/

namespace Record

theorem takeText_of_problem {required : Bool} {v : Value} (h : textProblem? required v = none) :
    takeText v = v := by
  rcases textProblem?_eq_none_iff.1 h with ⟨s, rfl⟩ | ⟨rfl, -⟩
  all_goals rfl

theorem textual_of_problem {v : Value} (h : textProblem? true v = none) : Textual v :=
  textProblem?_required.1 ((takeText_of_problem h).symm ▸ h)

theorem optional_of_problem {v : Value} (h : textProblem? false v = none) : Optional v :=
  textProblem?_optional.1 ((takeText_of_problem h).symm ▸ h)

theorem finite_of_toInteger {v : Value} {n : Int} (h : v.toInteger = .ok n) : Finite v := by
  rintro x negative rfl hinfinite
  rw [Value.toInteger, Value.integerOfFloat, hinfinite] at h
  cases h

theorem wholeOf_of_toInteger {v : Value} {n : Int} (h : v.toInteger = .ok n) :
    wholeOf v = .int n := by
  rw [wholeOf, h]

end Record

namespace ComputeTemplate

/-- The template as far as it is shown. -/
def located (t : ComputeTemplate) : ComputeTemplate := ⟨t.location, .null, .null⟩

/-- What is shown of the template. -/
def shown (t : ComputeTemplate) : Fields := [("location_id", t.location)]

theorem location_of_problems {t : ComputeTemplate} (h : t.problems = []) :
    Record.textProblem? false t.location = none :=
  problemsOf_eq_nil_iff.1 h ("location_id", _) List.mem_cons_self

theorem taken_shown {t : ComputeTemplate} (h : t.problems = []) : taken t.shown = t.located := by
  show ComputeTemplate.mk (Record.takeText t.location) .null .null = _
  rw [Record.takeText_of_problem (location_of_problems h), located]

theorem wellFormed_shown {t : ComputeTemplate} (h : t.problems = []) : WellFormed t.shown where
  declared := by simp [shown]
  location := Record.optional_of_problem (location_of_problems h)
  image := .inl rfl
  hardware := .inl rfl

end ComputeTemplate

namespace StorageTemplate

/-- The template with a number for its size. -/
def counted (t : StorageTemplate) : StorageTemplate := { t with size := Record.wholeOf t.size }

theorem taken_toFields {t : StorageTemplate} (h : t.problems = .ok []) :
    taken t.toFields = t.counted := by
  obtain ⟨-, hprefix, hlocation, htype⟩ := problems_eq_nil_iff.1 h
  show StorageTemplate.mk (Record.wholeOf t.size) (Record.takeText t.namePrefix)
    (Record.takeText t.location) (Record.takeText t.volumeType) = _
  rw [Record.takeText_of_problem hprefix, Record.takeText_of_problem hlocation,
    Record.takeText_of_problem htype, counted]

theorem wellFormed_toFields {t : StorageTemplate} (h : t.problems = .ok []) :
    WellFormed t.toFields := by
  obtain ⟨-, hprefix, hlocation, htype⟩ := problems_eq_nil_iff.1 h
  exact
    { declared := by simp [toFields]
      size := (plain_of_problems h).size
      namePrefix := Record.textual_of_problem hprefix
      location := Record.optional_of_problem hlocation
      volumeType := Record.optional_of_problem htype }

end StorageTemplate

/-! ### Tables of what templates show -/

namespace Cloud

section Shown
variable {α : Type} {shown : α → Fields} {ts : List (String × α)}

/-- Templates as tables of the fields that they show. -/
def shownAs (shown : α → Fields) (ts : List (String × α)) : Value :=
  .dict (Table.mapValues (fun t => .dict (shown t)) ts)

theorem entriesOf_shownAs :
    entriesOf (shownAs shown ts) = Table.mapValues (fun t => .dict (shown t)) ts := rfl

theorem forall_mem_shownAs {P : String × Value → Prop} :
    (∀ t ∈ entriesOf (shownAs shown ts), P t) ↔ ∀ t ∈ ts, P (t.1, .dict (shown t.2)) := by
  rw [entriesOf_shownAs, Table.forall_mem_mapValues]

theorem shaped_shownAs (hfree : ∀ t ∈ ts, Record.Free (shown t.2))
    (hfinite : ∀ t ∈ ts, Record.Finite (Record.get (shown t.2) "size")) :
    Shaped (shownAs shown ts) where
  table := .inr ⟨_, rfl⟩
  template := forall_mem_shownAs.2 fun _ _ => .inr ⟨_, rfl⟩
  free := forall_mem_shownAs.2 hfree
  finite := forall_mem_shownAs.2 hfinite

/-- What is taken of each template in a table is told by what is taken of its fields. -/
theorem taken_shownAs {taken : Fields → α} {made : α → α}
    (h : ∀ t ∈ ts, taken (shown t.2) = made t.2) :
    ((entriesOf (shownAs shown ts)).map fun t => (t.1, taken (entriesOf t.2))) =
      Table.mapValues made ts := by
  rw [entriesOf_shownAs, Table.mapValues, Table.mapValues, List.map_map]
  exact List.map_congr_left fun t ht => congrArg (Prod.mk t.1) (h t ht)

end Shown

/-! ### What a cloud shows, as settings -/

/-- The settings that a cloud shows, with its secret. -/
def settings (c : Cloud) : Fields :=
  Table.insert "apisecret" c.apisecret (Table.erase "title" c.toFields)

theorem toFields_eq {c : Cloud} (hc : c.cls = .amazon) : c.toFields =
    [("title", c.title), ("provider", .text "ec2"),
      ("compute_templates", shownAs ComputeTemplate.shown c.computeTemplates),
      ("storage_templates", shownAs StorageTemplate.toFields c.storageTemplates),
      ("apikey", c.apikey), ("region", c.region)] := by
  rw [toFields, hc]
  rfl

theorem settings_eq {c : Cloud} (hc : c.cls = .amazon) : c.settings =
    [("provider", .text "ec2"),
      ("compute_templates", shownAs ComputeTemplate.shown c.computeTemplates),
      ("storage_templates", shownAs StorageTemplate.toFields c.storageTemplates),
      ("apikey", c.apikey), ("region", c.region), ("apisecret", c.apisecret)] := by
  rw [settings, toFields_eq hc]
  rfl

/-- The cloud with a number for every size. -/
def counted (c : Cloud) : Cloud :=
  { c with storageTemplates := Table.mapValues StorageTemplate.counted c.storageTemplates }

/-- The cloud as it is made again: the templates as far as they are shown, and every size a
number. -/
def restored (c : Cloud) : Cloud where
  cls := .amazon
  title := c.title
  computeTemplates := Table.mapValues ComputeTemplate.located c.computeTemplates
  storageTemplates := Table.mapValues StorageTemplate.counted c.storageTemplates
  apikey := c.apikey
  apisecret := c.apisecret
  region := c.region

section Settings
variable {c : Cloud} (hc : c.cls = .amazon) (h : c.problems = .ok [])
include hc h

theorem orderly_settings : Orderly c.settings := by
  rw [settings_eq hc]
  constructor
  case provider => exact .inr ⟨"ec2", rfl⟩
  case compute =>
    refine shaped_shownAs (fun t _ => ?_) fun _ _ => nofun
    simp [Record.Free, ComputeTemplate.shown, Record.reserved]
  case storage =>
    refine shaped_shownAs (fun t _ => ?_) fun t ht => ?_
    · simp [Record.Free, StorageTemplate.toFields, Record.reserved]
    · have hproblems := ((faultless_of_problems h).storage t ht).2
      obtain ⟨n, hn⟩ := (StorageTemplate.plain_of_problems hproblems).size
      exact Record.finite_of_toInteger hn
  case free => simp [Record.Free, Record.reserved]
  case untitled => simp

theorem wellFormed_settings : WellFormed c.title c.settings := by
  have hfaultless := faultless_of_problems h
  obtain ⟨hkey, hsecret, hregion⟩ := hfaultless.account (by rw [hc]; rfl)
  have htextual : ∀ v : Value, (∃ text, v = .text text) → Record.Textual v := by
    rintro v ⟨text, rfl⟩
    exact .text text
  rw [settings_eq hc]
  constructor
  case declared => simp [accountNames]
  case title => exact htextual c.title hfaultless.title
  case apikey => exact htextual c.apikey hkey
  case apisecret => exact htextual c.apisecret hsecret
  case region => exact htextual c.region hregion
  case compute =>
    refine forall_mem_shownAs.2 fun t ht => ?_
    obtain ⟨hname, hproblems⟩ := hfaultless.compute t ht
    exact ⟨hname, _, rfl, ComputeTemplate.wellFormed_shown hproblems⟩
  case storage =>
    refine forall_mem_shownAs.2 fun t ht => ?_
    obtain ⟨hname, hproblems⟩ := hfaultless.storage t ht
    exact ⟨hname, _, rfl, StorageTemplate.wellFormed_toFields hproblems⟩

theorem account_settings : account c.title c.settings = c.restored := by
  have hfaultless := faultless_of_problems h
  obtain ⟨hkey, hsecret, hregion⟩ := hfaultless.account (by rw [hc]; rfl)
  have htext : ∀ v : Value, (∃ text, v = .text text) → Record.takeText v = v := by
    rintro v ⟨text, rfl⟩
    rfl
  have hcompute := taken_shownAs fun t ht =>
    ComputeTemplate.taken_shown (hfaultless.compute t ht).2
  have hstorage := taken_shownAs fun t ht =>
    StorageTemplate.taken_toFields (hfaultless.storage t ht).2
  rw [settings_eq hc, restored, ← hcompute, ← hstorage]
  show Cloud.mk .amazon (Record.takeText c.title) _ _ (Record.takeText c.apikey)
    (Record.takeText c.apisecret) (Record.takeText c.region) .null .null = _
  rw [htext c.title hfaultless.title, htext c.apikey hkey, htext c.apisecret hsecret,
    htext c.region hregion]
  rfl

/-- **What a cloud shows, with its secret, are settings that make it again.** -/
theorem ofSettings_settings {known : Known} (hsole : known.Sole) :
    ofSettings known .abstract c.title (.dict c.settings) = .ok c.restored := by
  have hes := orderly_settings hc h
  have hprovider : Record.get c.settings "provider" = .text "ec2" := by
    rw [settings_eq hc]
    rfl
  have hhas : known.Has (Record.get c.settings "provider") := by
    rw [hprovider]
    exact ⟨rfl, hsole.own⟩
  rw [abstract_of_has hes hsole hhas, amazon_of_wellFormed hes (wellFormed_settings hc h),
    account_settings hc h]

end Settings

/-! ### What is seen of the cloud that is made again -/

theorem find?_mapValues {α β : Type} (f : α → β) (ts : List (String × α)) (name : Value) :
    find? (Table.mapValues f ts) name = (find? ts name).map (Option.map f) := by
  cases name with
  | text s => exact congrArg Except.ok (Table.lookup_mapValues f ts s)
  | _ => rfl

theorem toFields_restored {c : Cloud} (hc : c.cls = .amazon) :
    c.restored.toFields = c.counted.toFields := by
  have hcompute : shownAs ComputeTemplate.shown c.restored.computeTemplates =
      shownAs ComputeTemplate.shown c.computeTemplates := by
    simp [shownAs, restored, Table.mapValues, ComputeTemplate.located, ComputeTemplate.shown]
  have hcounted : c.counted.cls = .amazon := hc
  rw [toFields_eq rfl, toFields_eq hcounted, hcompute]
  rfl

theorem display_restored {c : Cloud} (hc : c.cls = .amazon) : c.restored.display = c.display := by
  rw [display, display, hc]
  rfl

/-- A template is found under the same names, and is in the same place. -/
theorem computeTemplate_restored {c : Cloud} (hc : c.cls = .amazon) (name : Value) :
    (c.restored.computeTemplate name).map (·.location) =
      (c.computeTemplate name).map (·.location) := by
  rw [computeTemplate, computeTemplate, display_restored hc]
  show ((find? (Table.mapValues _ c.computeTemplates) name).bind _).map _ =
    ((find? c.computeTemplates name).bind _).map _
  rw [find?_mapValues]
  cases find? c.computeTemplates name with
  | error f => rfl
  | ok found => cases found <;> rfl

/-! ### Sizes that were converted -/

/-- None of the storage templates in the settings is told not to convert its fields. -/
def Converting (data : Value) : Prop :=
  ∀ entries, Record.copyEntries data = .ok entries →
    ∀ t ∈ entriesOf (member entries "storage_templates"), Record.converts (entriesOf t.2) = true

theorem converting_dict {es : Fields} :
    Converting (.dict es) ↔
      ∀ t ∈ entriesOf (Record.get es "storage_templates"),
        Record.converts (entriesOf t.2) = true := by
  rw [← member_texts es]
  exact ⟨fun h => h _ rfl, fun h entries hentries => Except.ok.inj hentries ▸ h⟩

/-- A template of a table was built of fields that are in it. -/
theorem fields_of_templates {α : Type} {build : Fields → Except Fault α} {v : Value}
    {ts : List (String × α)} (h : templates build v = .ok ts) :
    ∀ t ∈ ts, ∃ fs, (t.1, .dict fs) ∈ entriesOf v ∧ build fs = .ok t.2 := by
  unfold templates at h
  split at h
  · cases h
    exact nofun
  · obtain ⟨es, hes, hbuilt⟩ := bind_eq_ok_iff.1 h
    obtain rfl : v = .dict es := by
      cases v with
      | dict => rw [Except.ok.inj hes]
      | _ => cases hes
    intro t ht
    obtain ⟨⟨name, v⟩, hentry, hof⟩ := exists_of_mapM hbuilt ht
    cases v with
    | dict fs =>
      obtain ⟨-, -, hof⟩ := bind_eq_ok_iff.1 hof
      obtain ⟨template, htemplate, hof⟩ := bind_eq_ok_iff.1 hof
      cases hof
      exact ⟨fs, hentry, htemplate⟩
    | _ => cases hof

/-- The storage templates of a cloud were built of those in its settings. -/
theorem storageTemplates_of_ofSettings {known : Known} {cls : Class} {title data : Value}
    {c : Cloud} (h : ofSettings known cls title data = .ok c) :
    ∃ entries, Record.copyEntries data = .ok entries ∧
      templates StorageTemplate.ofFields (member entries "storage_templates") =
        .ok c.storageTemplates := by
  obtain ⟨entries, hentries, h⟩ := bind_eq_ok_iff.1 h
  obtain ⟨resolved, -, h⟩ := bind_eq_ok_iff.1 h
  cases hbuilt : ofEntries resolved title entries with
  | error f =>
    rw [hbuilt] at h
    cases h
  | ok e =>
    rw [hbuilt] at h
    cases h
    obtain ⟨compute, -, hbuilt⟩ := bind_eq_ok_iff.1 hbuilt
    obtain ⟨storage, hstorage, hbuilt⟩ := bind_eq_ok_iff.1 hbuilt
    obtain ⟨given, -, hbuilt⟩ := bind_eq_ok_iff.1 hbuilt
    obtain ⟨-, -, hbuilt⟩ := bind_eq_ok_iff.1 hbuilt
    obtain ⟨made, hmade, hvalid⟩ := bind_eq_ok_iff.1 hbuilt
    obtain rfl := (validate_eq_ok_iff.1 hvalid).1
    obtain ⟨-, -, hmade⟩ := bind_eq_ok_iff.1 hmade
    obtain ⟨-, -, hmade⟩ := bind_eq_ok_iff.1 hmade
    cases hmade
    exact ⟨entries, hentries, hstorage⟩

/-- Sizes that were converted are numbers already. -/
theorem counted_of_converting {known : Known} {cls : Class} {title data : Value} {c : Cloud}
    (h : ofSettings known cls title data = .ok c) (hdata : Converting data) : c.counted = c := by
  obtain ⟨entries, hentries, hbuilt⟩ := storageTemplates_of_ofSettings h
  have hfaultless := faultless_of_problems (problems_ofSettings h)
  have hcounted : ∀ e ∈ c.storageTemplates, (e.1, e.2.counted) = e := by
    intro e he
    obtain ⟨fs, hfs, htemplate⟩ := fields_of_templates hbuilt e he
    have hconverts : Record.converts fs = true := hdata entries hentries _ hfs
    have hvalid := StorageTemplate.valid_of_fields hconverts htemplate (hfaultless.storage e he).2
    obtain ⟨n, hn⟩ := hvalid.size
    rw [StorageTemplate.counted, hn, Record.wholeOf_of_toInteger (Value.toInteger_int n), ← hn]
  rw [counted, Table.mapValues, List.map_congr_left hcounted, List.map_id']

/-! ### The cloud that is made again -/

/-- How a cloud compares with one that is made of what it shows. -/
structure Remade (data : Value) (c d : Cloud) : Prop where
  fields : d.toFields = c.counted.toFields
  display : d.display = c.display
  storage : ∀ name, d.storageTemplate name = c.counted.storageTemplate name
  /-- A template that is not there is reported as missing, but for what cannot be a name or cannot be
  written. -/
  missing : ∀ name f, d.storageTemplate name = .error f →
    (f.isA .storageTemplateNotFound = true ↔ name.hashable = true ∧ name.writable = true)
  compute : ∀ name,
    (d.computeTemplate name).map (·.location) = (c.computeTemplate name).map (·.location)
  /-- A size is shown as the number that it stands for. -/
  sizes : ∀ e ∈ c.storageTemplates, ∃ n, e.2.size.toInteger = .ok n ∧ e.2.counted.size = .int n
  /-- And where sizes were converted they are numbers already. -/
  kept : Converting data → c.counted = c

/-- **An account can be made again from what it shows and its secret.** -/
theorem remade_of_ofSettings {table : Value} {known : Known} (hknown : knownIn table = .ok known)
    {cls : Class} {title data : Value} {c : Cloud}
    (h : ofSettings known cls title data = .ok c) (hc : c.cls = .amazon) :
    ∃ d, ofSettings known .abstract c.title (.dict c.settings) = .ok d ∧ Remade data c d := by
  have hproblems := problems_ofSettings h
  have hagain := ofSettings_settings hc hproblems (sole_knownIn hknown)
  refine ⟨c.restored, hagain, ?_⟩
  constructor
  case fields => exact toFields_restored hc
  case display => exact display_restored hc
  case storage =>
    intro name
    rw [storageTemplate, storageTemplate, display_restored hc]
    rfl
  case missing =>
    exact fun name f hf => missing_iff_of_storageTemplate (problems_ofSettings hagain) hf
  case compute => exact computeTemplate_restored hc
  case sizes =>
    intro e he
    have htemplate := ((faultless_of_problems hproblems).storage e he).2
    obtain ⟨n, hn⟩ := (StorageTemplate.plain_of_problems htemplate).size
    exact ⟨n, hn, Record.wholeOf_of_toInteger hn⟩
  case kept => exact counted_of_converting h

/-- Settings with a size in digits, which is converted or not. -/
def digitSettings (converts : Bool) : Fields :=
  [("provider", .text "ec2"), ("apikey", .text "a"), ("apisecret", .text "b"),
    ("region", .text "r"), ("storage_templates", .dict [("T", .dict [("size", .text "10"),
      ("name_prefix", .text "p"), ("__auto_convert", .bool converts)])])]

/-- The account that has these settings, with a size. -/
def digitAccount (size : Value) : Cloud where
  cls := .amazon
  title := .text "t"
  computeTemplates := []
  storageTemplates := [("T", ⟨size, .text "p", .null, .null⟩)]
  apikey := .text "a"
  apisecret := .text "b"
  region := .text "r"

theorem problems_digitAccount {size : Value} (h : Record.wholeProblem? true size = .ok none) :
    (digitAccount size).problems = .ok [] := by
  have htemplate : (StorageTemplate.mk size (.text "p") .null .null).problems = .ok [] :=
    StorageTemplate.problems_eq_nil_iff.2 ⟨h, rfl, rfl, rfl⟩
  have hname : templatesProblem? [("T", [])] = none :=
    templatesProblem?_eq_none_iff.2 (by decide +kernel)
  unfold problems
  simp only [digitAccount, List.mapM_cons, List.mapM_nil, htemplate, bind, Except.bind, pure,
    Except.pure, hname]
  rfl

theorem ofSettings_digits (converts : Bool) :
    ofSettings usual .abstract (.text "t") (.dict (digitSettings converts)) =
      .ok (digitAccount (if converts then .int 10 else .text "10")) := by
  have hbuilt : ofSettings usual .abstract (.text "t") (.dict (digitSettings converts)) =
      (digitAccount (if converts then .int 10 else .text "10")).validate.mapError
        (settingsFault (.text "t")) := by
    cases converts <;> rfl
  have hvalid : (digitAccount (if converts then .int 10 else .text "10")).problems = .ok [] := by
    cases converts
    all_goals exact problems_digitAccount rfl
  rw [hbuilt, validate_eq_ok_iff.2 ⟨rfl, hvalid⟩]
  rfl

theorem remade_of_ofSettings_digits :
    knownIn Settings.builtInProviders = .ok usual ∧
      ofSettings usual .abstract (.text "t") (.dict (digitSettings true)) =
        .ok (digitAccount (.int 10)) ∧
      (digitAccount (.int 10)).cls = .amazon ∧ Converting (.dict (digitSettings true)) ∧
      ∃ d, ofSettings usual .abstract (.text "t") (.dict (digitAccount (.int 10)).settings) =
          .ok d ∧
        Remade (.dict (digitSettings true)) (digitAccount (.int 10)) d := by
  have hbuilt := ofSettings_digits true
  refine ⟨knownIn_builtInProviders, hbuilt, rfl, converting_dict.2 ?_,
    remade_of_ofSettings knownIn_builtInProviders hbuilt rfl⟩
  show ∀ t ∈ [("T", Value.dict [("size", .text "10"), ("name_prefix", .text "p"),
    ("__auto_convert", .bool true)])], _
  rw [List.forall_mem_singleton]
  rfl

/-- A size that is kept in digits is another one when the cloud is made again. -/
theorem ofSettings_recounted :
    ofSettings usual .abstract (.text "t") (.dict (digitSettings false)) =
        .ok (digitAccount (.text "10")) ∧
      ofSettings usual .abstract (.text "t") (.dict (digitAccount (.text "10")).settings) =
        .ok (digitAccount (.int 10)) ∧
      (Value.dict (digitAccount (.int 10)).toFields).equal
        (.dict (digitAccount (.text "10")).toFields) = false := by
  have hbuilt := ofSettings_digits false
  have hsole := sole_knownIn knownIn_builtInProviders
  exact ⟨hbuilt, ofSettings_settings rfl (problems_ofSettings hbuilt) hsole, rfl⟩

end Cloud

end BlockStorage
