import BlockStorage.Proofs.CloudSettings

/-!
The secret of a cloud is never shown.

Two runs are compared, on settings whose entries differ only in the text of the secret (`Twins`),
under names of any kind. Every stage of building a cloud looks at the names, which are the same, or
at the value of another entry, which is the same, or takes the secret, of which validation only asks
that it is a text. So each stage either goes on with entries or clouds that differ only in their
secrets (`named_matched`, `make_matched`) or ends in one and the same fault, whatever else is wrong
with the settings (`ofEntries_matched`). Nothing that can be asked of a cloud depends on its secret
(`Matched.alike`), which leaves nobody who sees only that with a way to tell the two runs apart
(`secret_unseen`).
-/
namespace BlockStorage

/-! ### Results that agree -/

/-- Both runs have results, and these are related, or both end in the same fault: of one kind, with
one message, one context and one cause. -/
inductive Agree {α β : Type} (R : α → β → Prop) : Except Fault α → Except Fault β → Prop where
  | ok {a : α} {b : β} (h : R a b) : Agree R (.ok a) (.ok b)
  | error (f : Fault) : Agree R (.error f) (.error f)

namespace Agree
variable {α β γ δ : Type} {R : α → β → Prop} {S : γ → δ → Prop}

theorem refl {R : α → α → Prop} (h : ∀ a, R a a) (x : Except Fault α) : Agree R x x := by
  cases x with
  | error f => exact .error f
  | ok a => exact .ok (h a)

theorem bind {x : Except Fault α} {y : Except Fault β} {f : α → Except Fault γ}
    {g : β → Except Fault δ} (h : Agree R x y) (hfg : ∀ a b, R a b → Agree S (f a) (g b)) :
    Agree S (x.bind f) (y.bind g) := by
  cases h with
  | ok hab => exact hfg _ _ hab
  | error e => exact .error e

/-- Lists of related members are worked through alike, up to the first fault. -/
theorem mapM {xs : List α} {ys : List β} {f : α → Except Fault γ} {g : β → Except Fault δ}
    (h : List.Forall₂ R xs ys) (hfg : ∀ a b, R a b → Agree S (f a) (g b)) :
    Agree (List.Forall₂ S) (xs.mapM f) (ys.mapM g) := by
  induction h with
  | nil => exact .ok .nil
  | cons hab _ ih =>
    rw [List.mapM_cons, List.mapM_cons]
    refine (hfg _ _ hab).bind fun _ _ hfirst => ?_
    exact ih.bind fun _ _ hrest => .ok (.cons hfirst hrest)

theorem mapError {x : Except Fault α} {y : Except Fault β} (h : Agree R x y)
    (change : Fault → Fault) : Agree R (x.mapError change) (y.mapError change) := by
  cases h with
  | ok hab => exact .ok hab
  | error f => exact .error (change f)

theorem mono {R' : α → β → Prop} {x : Except Fault α} {y : Except Fault β} (h : Agree R x y)
    (hR : ∀ a b, R a b → R' a b) : Agree R' x y := by
  cases h with
  | ok hab => exact .ok (hR _ _ hab)
  | error f => exact .error f

end Agree

/-! ### Checks of names -/

namespace Record

/-- Which fields a record does not have depends only on their names. -/
theorem checkNames_congr {es es' : Fields} (h : Table.keys es = Table.keys es')
    (document : String) (fields : List String) :
    checkNames document fields es = checkNames document fields es' := by
  have hkeys : ∀ given : Fields, Table.keys (given.filter fun e => !takes fields e.1) =
      (Table.keys given).filter fun name => !takes fields name := by
    intro given
    rw [Table.keys, Table.keys, List.filter_map]
    rfl
  have hunknown := (hkeys es).trans (h ▸ (hkeys es').symm)
  unfold checkNames
  generalize (es.filter fun e => !takes fields e.1) = unknown at hunknown
  generalize (es'.filter fun e => !takes fields e.1) = unknown' at hunknown
  cases unknown with
  | nil =>
    cases unknown' with
    | nil => rfl
    | cons => cases hunknown
  | cons =>
    cases unknown' with
    | nil => cases hunknown
    | cons =>
      show Except.error (unknownFields document _) = Except.error (unknownFields document _)
      rw [hunknown]

end Record

namespace Cloud

theorem checkFree_congr {es es' : Fields} (h : Table.keys es = Table.keys es')
    (taken : List String) : checkFree taken es = checkFree taken es' := by
  have hkeys : ∀ given : Fields, (given.find? fun e => taken.contains e.1).map (·.1) =
      (Table.keys given).find? taken.contains := by
    intro given
    rw [Table.keys, List.find?_map]
    rfl
  have hfound := (hkeys es).trans (h ▸ (hkeys es').symm)
  unfold checkFree
  generalize (es.find? fun e => taken.contains e.1) = found at hfound
  generalize (es'.find? fun e => taken.contains e.1) = found' at hfound
  cases found with
  | none =>
    cases found' with
    | none => rfl
    | some => cases hfound
  | some e =>
    cases found' with
    | none => cases hfound
    | some e' =>
      have hname : e.1 = e'.1 := Option.some.inj hfound
      show Except.error (repeatedName e.1) = Except.error (repeatedName e'.1)
      rw [hname]

/-! ### Settings that differ in the secret -/

/-- Two entries that are the same, or two texts under one key. -/
inductive Twin {κ : Type} (key : κ) : κ × Value → κ × Value → Prop where
  | same (e : κ × Value) : Twin key e e
  | secret (s t : String) : Twin key (key, .text s) (key, .text t)

/-- Entries that differ at most in the text under one key. -/
def Twins {κ : Type} (key : κ) (es es' : List (κ × Value)) : Prop := List.Forall₂ (Twin key) es es'

section Keyed
variable {κ : Type} {key : κ}

theorem Twin.name {e e' : κ × Value} (h : Twin key e e') : e.1 = e'.1 := by
  cases h <;> rfl

theorem Twins.filter {es es' : List (κ × Value)} (h : Twins key es es') (p : κ → Bool) :
    Twins key (es.filter fun e => p e.1) (es'.filter fun e => p e.1) :=
  List.rel_filter (fun _ _ he => by simp only [he.name]) h

end Keyed

/-- What is under a text is the same, unless it is the text that the secret is under. -/
theorem Twins.member {es es' : List (Value × Value)} (h : Twins (.text "apisecret") es es')
    (name : String) (hname : name ≠ "apisecret") : member es name = member es' name := by
  suffices hfound : Value.find? (.text name) es = Value.find? (.text name) es' by
    rw [Cloud.member, Cloud.member, hfound]
  have hother : (Value.text "apisecret").equal (.text name) = false := by
    simpa [Value.equal_text_text] using hname.symm
  induction h with
  | nil => rfl
  | cons he _ ih =>
    unfold Value.find? at ih ⊢
    cases he with
    | same e =>
      rw [List.find?_cons, List.find?_cons]
      split
      · rfl
      · exact ih
    | secret s t =>
      simp only [List.find?_cons, hother]
      exact ih

/-- Entries under texts are twins as fields, and any others have no names in either run. -/
theorem named_matched {es es' : List (Value × Value)} (h : Twins (.text "apisecret") es es') :
    Agree (Twins "apisecret") (Record.named es) (Record.named es') := by
  refine .mapM h fun e e' he => ?_
  cases he with
  | same e => exact .refl .same _
  | secret s t => exact .ok (.secret s t)

/-- A text is taken as it is, whether or not a record converts. -/
theorem textOr_of_lookup {es : Fields} {name s : String} (h : es.lookup name = some (.text s))
    (default : Value) : Record.textOr es name default = .text s := by
  rw [Record.textOr, Record.get, h]
  exact ite_self (c := Record.converts es = true) (Value.text s)

section Named
variable {es es' : Fields} (h : Twins "apisecret" es es')
include h

theorem Twins.keys : Table.keys es = Table.keys es' := by
  induction h with
  | nil => rfl
  | cons he _ ih => exact congrArg₂ List.cons he.name ih

/-- What is under a name is the same, or two texts for the secret. -/
theorem Twins.lookup (name : String) :
    es.lookup name = es'.lookup name ∨ name = "apisecret" ∧
      ∃ s t, es.lookup name = some (.text s) ∧ es'.lookup name = some (.text t) := by
  induction h with
  | nil => exact .inl rfl
  | @cons e e' es es' he _ ih =>
    obtain ⟨key, v⟩ := e
    obtain ⟨key', v'⟩ := e'
    obtain rfl : key = key' := he.name
    by_cases hkey : name = key
    · subst hkey
      rw [List.lookup_cons_self, List.lookup_cons_self]
      cases he with
      | same => exact .inl rfl
      | secret s t => exact .inr ⟨rfl, s, t, rfl, rfl⟩
    · rw [Table.lookup_cons_of_ne hkey, Table.lookup_cons_of_ne hkey]
      exact ih

theorem Twins.lookup_of_ne (name : String) (hname : name ≠ "apisecret") :
    es.lookup name = es'.lookup name :=
  (h.lookup name).resolve_right fun hsecret => hname hsecret.1

theorem Twins.get_of_ne (name : String) (hname : name ≠ "apisecret") :
    Record.get es name = Record.get es' name := by
  rw [Record.get, Record.get, h.lookup_of_ne name hname]

/-- What a text field takes is the same, or two texts for the secret. -/
theorem Twins.textOr (name : String) (default : Value) :
    Record.textOr es name default = Record.textOr es' name default ∨ name = "apisecret" ∧
      ∃ s t, Record.textOr es name default = .text s ∧
        Record.textOr es' name default = .text t := by
  rcases h.lookup name with hsame | ⟨hname, s, t, hs, ht⟩
  · have hconverts : Record.converts es = Record.converts es' := by
      rw [Record.converts, Record.converts, h.lookup_of_ne "__auto_convert" (by decide)]
    exact .inl (by rw [Record.textOr, Record.textOr, Record.get, Record.get, hsame, hconverts])
  · exact .inr ⟨hname, s, t, textOr_of_lookup hs default, textOr_of_lookup ht default⟩

theorem Twins.textOr_of_ne (name : String) (hname : name ≠ "apisecret") (default : Value) :
    Record.textOr es name default = Record.textOr es' name default :=
  (h.textOr name default).resolve_right fun hsecret => hname hsecret.1

end Named

/-! ### Clouds that differ in the secret -/

/-- Two clouds that differ at most in the secret, for which they then have two texts. -/
structure Matched (c d : Cloud) : Prop where
  others : ∃ secret, d = { c with apisecret := secret }
  secret : c.apisecret = d.apisecret ∨ ∃ s t, c.apisecret = .text s ∧ d.apisecret = .text t

/-- A cloud that is made of other fields differs in what it takes for the secret, on which nothing
else depends. -/
theorem make_matched {given given' : Fields} (h : Twins "apisecret" given given') (cls : Class)
    (compute : List (String × ComputeTemplate)) (storage : List (String × StorageTemplate)) :
    Agree Matched (make cls compute storage given) (make cls compute storage given') := by
  have hnames := Record.checkNames_congr h.keys cls.name cls.fields
  have htitle := h.textOr_of_ne "title" (by decide) .null
  have hkey := h.textOr_of_ne "apikey" (by decide) .null
  have hregion := h.textOr_of_ne "region" (by decide) .null
  have hlabel := h.textOr_of_ne "_cls" (by decide) .null
  have hpk := h.get_of_ne "pk" (by decide)
  simp only [make, hnames, htitle, hkey, hregion, hlabel, hpk]
  refine .bind (.refl (fun _ => rfl) _) fun _ _ _ => ?_
  refine .bind (.refl (fun _ => rfl) _) fun _ _ _ => ?_
  refine .ok ⟨⟨_, rfl⟩, ?_⟩
  dsimp only
  cases cls.hasAccount with
  | false => exact .inl rfl
  | true => exact (h.textOr "apisecret" .null).imp_right And.right

theorem problems_matched {c d : Cloud} (h : Matched c d) : c.problems = d.problems := by
  obtain ⟨secret, rfl⟩ := h.others
  have hsecret : Record.textProblem? true c.apisecret = Record.textProblem? true secret := by
    rcases h.secret with hsame | ⟨s, t, hs, ht⟩
    · rw [hsame]
    · rw [hs, show secret = _ from ht]
      rfl
  simp only [problems, hsecret]

/-- Validation asks of a secret only that it is a text, and complains of nothing that it shows. -/
theorem validate_matched {c d : Cloud} (h : Matched c d) :
    Agree Matched c.validate d.validate := by
  have hcomplaint : ∀ ps, c.complaint ps = d.complaint ps := by
    obtain ⟨secret, rfl⟩ := h.others
    exact fun _ => rfl
  rw [validate, validate, problems_matched h]
  split
  · exact .ok h
  · rw [hcomplaint]
    exact .error _
  · exact .error _

/-- The entries are looked at by name, and only the secret can be another. -/
theorem ofEntries_matched {es es' : List (Value × Value)} (h : Twins (.text "apisecret") es es')
    (cls : Class) (title : Value) :
    Agree Matched (ofEntries cls title es) (ofEntries cls title es') := by
  have hcompute := h.member "compute_templates" (by decide)
  have hstorage := h.member "storage_templates" (by decide)
  have hrest := h.filter fun key =>
    !Value.mem key [.text "provider", .text "compute_templates", .text "storage_templates"]
  rw [ofEntries, ofEntries, hcompute, hstorage]
  refine .bind (.refl (fun _ => rfl) _) fun compute _ hsame => ?_
  subst hsame
  refine .bind (.refl (fun _ => rfl) _) fun storage _ hsame => ?_
  subst hsame
  refine (named_matched hrest).bind fun given given' hgiven => ?_
  have hfree := checkFree_congr hgiven.keys ["title", "self"]
  rw [hfree]
  refine .bind (.refl (fun _ => rfl) _) fun _ _ _ => ?_
  have hmade := make_matched (.cons (.same ("title", title)) hgiven) cls compute storage
  exact hmade.bind fun _ _ hcloud => validate_matched hcloud

/-! ### What is seen of a cloud -/

/-- Two clouds that show the same and tell the same of every template, or refuse alike to. -/
structure Alike (c d : Cloud) : Prop where
  fields : c.toFields = d.toFields
  display : c.display = d.display
  storage : ∀ name, c.storageTemplate name = d.storageTemplate name
  compute : ∀ name, c.computeTemplate name = d.computeTemplate name

theorem Matched.alike {c d : Cloud} (h : Matched c d) : Alike c d := by
  obtain ⟨secret, rfl⟩ := h.others
  exact ⟨(toFields_secret c secret).symm, rfl, fun _ => rfl, fun _ => rfl⟩

/-- **The secret of a cloud is never shown**: from settings that differ only in it come clouds that
look alike, or the same fault. -/
theorem secret_unseen {data data' : Value} {es es' : List (Value × Value)}
    (hdata : Record.copyEntries data = .ok es) (hdata' : Record.copyEntries data' = .ok es')
    (h : Twins (.text "apisecret") es es') (known : Known) (cls : Class) (title : Value) :
    Agree Alike (ofSettings known cls title data) (ofSettings known cls title data') := by
  rw [ofSettings, ofSettings, hdata, hdata']
  show Agree Alike ((cls.resolve known (member es "provider")).bind fun _ => _)
    ((cls.resolve known (member es' "provider")).bind fun _ => _)
  rw [h.member "provider" (by decide)]
  refine .bind (.refl (fun _ => rfl) _) fun resolved _ hsame => ?_
  subst hsame
  exact ((ofEntries_matched h resolved title).mapError _).mono fun _ _ => Matched.alike

/-- Settings with a secret, in which everything else is wrong. -/
def crookedSettings (secret : String) : Fields :=
  [("apikey", .int 5), ("apisecret", .text secret), ("region", .null),
    ("storage_templates", .dict [("small", .dict [("size", .text "many")])])]

theorem secret_unseen_crooked :
    Record.copyEntries (.dict (crookedSettings "sesame")) =
        .ok (entriesIn (crookedSettings "sesame")) ∧
      Record.copyEntries (.dict (crookedSettings "swordfish")) =
        .ok (entriesIn (crookedSettings "swordfish")) ∧
      Twins (.text "apisecret") (entriesIn (crookedSettings "sesame"))
        (entriesIn (crookedSettings "swordfish")) ∧
      Agree Alike (ofSettings usual .hybrid (.text "home") (.dict (crookedSettings "sesame")))
        (ofSettings usual .hybrid (.text "home") (.dict (crookedSettings "swordfish"))) := by
  have htwins : Twins (.text "apisecret") (entriesIn (crookedSettings "sesame"))
      (entriesIn (crookedSettings "swordfish")) :=
    .cons (.same _) (.cons (.secret _ _) (.cons (.same _) (.cons (.same _) .nil)))
  exact ⟨rfl, rfl, htwins, secret_unseen rfl rfl htwins usual .hybrid (.text "home")⟩

end Cloud

end BlockStorage
