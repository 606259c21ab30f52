import BlockStorage.Cloud
import Mathlib.Data.List.Forall2

/-!
What validation finds out about a cloud: if no field has a problem, the title is a text, so are the
credentials and the region of an account, and no template has a problem or a name that is not
allowed (`Cloud.faultless_of_problems`). Of a storage template every place that it names is a text
then, and every size is a number or stands for one (`Cloud.storageTemplate_plain`). Templates
convert their fields, and then the size is a number (`StorageTemplate.valid_of_fields`,
`StorageTemplate.Valid.size`).
-/
namespace BlockStorage

theorem bind_eq_ok_iff {ε α β : Type} {x : Except ε α} {f : α → Except ε β} {b : β} :
    (x >>= f) = .ok b ↔ ∃ a, x = .ok a ∧ f a = .ok b := by
  cases x with
  | error e => exact iff_of_false nofun fun ⟨_, h, _⟩ => nomatch h
  | ok a => exact ⟨fun h => ⟨a, rfl, h⟩, fun ⟨_, h, hf⟩ => Except.ok.inj h ▸ hf⟩

theorem problemsOf_eq_nil_iff {checks : List (String × Option String)} :
    problemsOf checks = [] ↔ ∀ c ∈ checks, c.2 = none := by
  unfold problemsOf
  rw [List.filterMap_eq_nil_iff]
  simp

/-- A storage template whose fields have no problem. -/
structure StorageTemplate.Plain (t : StorageTemplate) : Prop where
  size : ∃ n, t.size.toInteger = .ok n
  namePrefix : ∃ text, t.namePrefix = .text text
  location : t.location = .null ∨ ∃ text, t.location = .text text

theorem StorageTemplate.problems_eq_nil_iff {t : StorageTemplate} :
    t.problems = .ok [] ↔ Record.wholeProblem? true t.size = .ok none ∧
      Record.textProblem? true t.namePrefix = none ∧
      Record.textProblem? false t.location = none ∧
      Record.textProblem? false t.volumeType = none := by
  unfold problems
  cases Record.wholeProblem? true t.size with
  | error f => exact iff_of_false nofun fun h => nomatch h.1
  | ok problem =>
    show Except.ok (problemsOf [("size", problem), _, _, _]) = Except.ok [] ↔ _
    rw [Except.ok.injEq, problemsOf_eq_nil_iff]
    simp

theorem StorageTemplate.plain_of_problems {t : StorageTemplate} (h : t.problems = .ok []) :
    t.Plain := by
  obtain ⟨hsize, hprefix, hlocation, -⟩ := problems_eq_nil_iff.1 h
  constructor
  · exact (Record.wholeProblem?_eq_none_iff.1 hsize).resolve_right (by simp)
  · exact (Record.textProblem?_eq_none_iff.1 hprefix).resolve_right (by simp)
  · exact (Record.textProblem?_eq_none_iff.1 hlocation).symm.imp_left And.left

/-- A storage template that can be used: no field has a problem, and what it has for a size is a
number, and not only what stands for one. -/
structure StorageTemplate.Valid (t : StorageTemplate) : Prop where
  problems : t.problems = .ok []
  whole : Record.takeWhole t.size = .ok t.size

/-- A template that converts its fields can be used if no field has a problem. -/
theorem StorageTemplate.valid_of_fields {given : Fields} {t : StorageTemplate}
    (hc : Record.converts given = true) (h : ofFields given = .ok t) (hp : t.problems = .ok []) :
    t.Valid := by
  refine ⟨hp, ?_⟩
  simp only [ofFields, Record.whole, hc, if_true] at h
  obtain ⟨-, -, h⟩ := bind_eq_ok_iff.1 h
  obtain ⟨size, hsize, h⟩ := bind_eq_ok_iff.1 h
  cases h
  exact Record.takeWhole_idem hsize

/-- The size of a template that can be used is a whole number. -/
theorem StorageTemplate.Valid.size {t : StorageTemplate} (h : t.Valid) : ∃ n, t.size = .int n := by
  obtain ⟨n, hn⟩ := (plain_of_problems h.problems).size
  have hwhole := h.whole
  unfold Record.takeWhole at hwhole
  split at hwhole
  · rename_i hnull
    rw [hnull] at hn
    cases hn
  · rw [hn] at hwhole
    exact ⟨n, (Except.ok.inj hwhole).symm⟩

/-- Every member has its result, in order. -/
theorem forall₂_of_mapM {α β ε : Type} {f : α → Except ε β} {xs : List α} {ys : List β}
    (h : xs.mapM f = .ok ys) : List.Forall₂ (fun x y => f x = .ok y) xs ys := by
  induction xs generalizing ys with
  | nil =>
    cases h
    exact .nil
  | cons a rest ih =>
    rw [List.mapM_cons] at h
    obtain ⟨b, ha, h⟩ := bind_eq_ok_iff.1 h
    obtain ⟨bs, hrest, h⟩ := bind_eq_ok_iff.1 h
    cases h
    exact .cons ha (ih hrest)

/-- The result of a member is among the results. -/
theorem mem_of_mapM {α β ε : Type} {f : α → Except ε β} {xs : List α} {ys : List β}
    (h : xs.mapM f = .ok ys) {x : α} (hx : x ∈ xs) : ∃ y ∈ ys, f x = .ok y := by
  have hall := forall₂_of_mapM h
  clear h
  induction hall with
  | nil => cases hx
  | @cons a b _ _ hab _ ih =>
    rcases List.mem_cons.1 hx with rfl | hx
    · exact ⟨b, List.mem_cons_self, hab⟩
    · obtain ⟨y, hy, hfx⟩ := ih hx
      exact ⟨y, List.mem_cons_of_mem b hy, hfx⟩

/-- And every result is that of a member. -/
theorem exists_of_mapM {α β ε : Type} {f : α → Except ε β} {xs : List α} {ys : List β}
    (h : xs.mapM f = .ok ys) {y : β} (hy : y ∈ ys) : ∃ x ∈ xs, f x = .ok y := by
  have hall := forall₂_of_mapM h
  clear h
  induction hall with
  | nil => cases hy
  | @cons a b _ _ hab _ ih =>
    rcases List.mem_cons.1 hy with rfl | hy
    · exact ⟨a, List.mem_cons_self, hab⟩
    · obtain ⟨x, hx, hfx⟩ := ih hy
      exact ⟨x, List.mem_cons_of_mem a hx, hfx⟩

namespace Cloud

theorem templatesProblem?_eq_none_iff {found : List (String × Problems)} :
    templatesProblem? found = none ↔ ∀ e ∈ found, e.1.startsWith "$" = false ∧ e.2 = [] := by
  unfold templatesProblem?
  split
  · rename_i hany
    obtain ⟨e, he, hname⟩ := List.any_eq_true.1 hany
    refine iff_of_false (by nofun) fun hall => ?_
    rw [(hall e he).1] at hname
    cases hname
  · rename_i hany
    have hnames : ∀ e ∈ found, e.1.startsWith "$" = false := by simpa using hany
    dsimp only
    split
    · rename_i hnone
      simp only [List.isEmpty_iff, List.filter_eq_nil_iff] at hnone
      exact ⟨fun _ e he => ⟨hnames e he, by simpa using hnone e he⟩, fun _ => rfl⟩
    · rename_i hsome
      refine iff_of_false (by nofun) fun hall => hsome ?_
      simp only [List.isEmpty_iff, List.filter_eq_nil_iff]
      intro e he
      simp [(hall e he).2]

/-- A cloud none of whose fields has a problem. -/
structure Faultless (c : Cloud) : Prop where
  title : ∃ text, c.title = .text text
  compute : ∀ e ∈ c.computeTemplates, e.1.startsWith "$" = false ∧ e.2.problems = []
  storage : ∀ e ∈ c.storageTemplates, e.1.startsWith "$" = false ∧ e.2.problems = .ok []
  account : c.cls.hasAccount = true → (∃ text, c.apikey = .text text) ∧
    (∃ text, c.apisecret = .text text) ∧ ∃ text, c.region = .text text

/-- Each storage template of a table has been found to have no problem. -/
theorem storage_of_found {ts : List (String × StorageTemplate)} {found : List (String × Problems)}
    (hfound : ts.mapM (fun e => do return (e.1, ← e.2.problems)) = (.ok found : Except Fault _))
    (hnone : templatesProblem? found = none) :
    ∀ e ∈ ts, e.1.startsWith "$" = false ∧ e.2.problems = .ok [] := by
  intro e he
  obtain ⟨told, htold, hproblems⟩ := mem_of_mapM hfound he
  obtain ⟨hname, hempty⟩ := templatesProblem?_eq_none_iff.1 hnone told htold
  obtain ⟨ps, hps, hproblems⟩ := bind_eq_ok_iff.1 hproblems
  cases hproblems
  exact ⟨hname, hempty ▸ hps⟩

theorem faultless_of_problems {c : Cloud} (h : c.problems = .ok []) : c.Faultless := by
  obtain ⟨found, hfound, h⟩ := bind_eq_ok_iff.1 h
  have hnone := problemsOf_eq_nil_iff.1 (Except.ok.inj h)
  simp only [List.forall_mem_append, List.forall_mem_cons, List.not_mem_nil, false_implies,
    implies_true, and_true] at hnone
  obtain ⟨⟨⟨htitle, hcompute, hstorage⟩, haccount⟩, -⟩ := hnone
  have htext : ∀ v, Record.textProblem? true v = none → ∃ text, v = .text text :=
    fun v hv => (Record.textProblem?_eq_none_iff.1 hv).resolve_right (by simp)
  constructor
  case title => exact htext c.title htitle
  case compute =>
    exact fun e he => templatesProblem?_eq_none_iff.1 hcompute _ (List.mem_map_of_mem he)
  case storage => exact storage_of_found hfound hstorage
  case account =>
    intro hcls
    simp only [hcls, if_true, List.forall_mem_cons, List.not_mem_nil, false_implies,
      implies_true, and_true] at haccount
    exact haccount.imp (htext c.apikey) (And.imp (htext c.apisecret) (htext c.region))

theorem title_of_problems {c : Cloud} (h : c.problems = .ok []) : ∃ text, c.title = .text text :=
  (faultless_of_problems h).title

/-- The storage templates of a cloud without problems have none. -/
theorem storageTemplate_plain {c : Cloud} (h : c.problems = .ok []) {name : String}
    {t : StorageTemplate} (ht : c.storageTemplate (.text name) = .ok t) : t.Plain := by
  have hmem : (name, t) ∈ c.storageTemplates := by
    simp only [storageTemplate, find?, bind, Except.bind] at ht
    split at ht
    · cases ht
      rename_i hlookup
      obtain ⟨before, after, hsplit, -⟩ := List.lookup_eq_some_iff.1 hlookup
      rw [hsplit]
      simp
    · cases ht
  exact StorageTemplate.plain_of_problems ((faultless_of_problems h).storage _ hmem).2

/-- A template that is not there is reported as missing, if what it was asked for by can be a name
and be written. -/
theorem missing_iff_of_storageTemplate {c : Cloud} (h : c.problems = .ok []) {name : Value}
    {f : Fault} (hf : c.storageTemplate name = .error f) :
    f.isA .storageTemplateNotFound = true ↔ name.hashable = true ∧ name.writable = true := by
  obtain ⟨title, htitle⟩ := title_of_problems h
  by_cases hname : name.hashable = true
  · have hfind : ∃ found, find? c.storageTemplates name = .ok found := by
      unfold find?
      split
      · exact ⟨_, rfl⟩
      · exact ⟨none, if_pos hname⟩
    obtain ⟨found, hfound⟩ := hfind
    rw [storageTemplate, hfound] at hf
    cases found with
    | some t => cases hf
    | none =>
      cases hf
      by_cases hwritable : name.writable = true
      · rw [Fault.mentioning_of_writable _ (by simp [hwritable, htitle])]
        exact iff_of_true rfl ⟨hname, hwritable⟩
      · rw [Fault.mentioning_of_unwritable _ (by simpa [htitle] using hwritable)]
        exact iff_of_false nofun fun h => hwritable h.2
  · have hunhashable : find? c.storageTemplates name = .error (.unhashable name) := by
      unfold find?
      split
      · exact absurd rfl hname
      · exact if_neg hname
    rw [storageTemplate, hunhashable] at hf
    cases hf
    exact iff_of_false nofun fun h => hname h.1

end Cloud

end BlockStorage
