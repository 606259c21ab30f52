import BlockStorage.Record
import BlockStorage.Settings

/-!
Classes of clouds, and the names that providers have in settings. Only one provider comes with a
class of its own; the table of providers says by which other names it may be called.

Statements: every known name means that class, and the provider's own name is always known
(`sole_knownIn`); which names are known when nothing is set (`knownIn_builtInProviders`).
-/
namespace BlockStorage.Cloud

/-- How clouds are told apart. The abstract class stands for whatever class the provider has, and
an incomplete one cannot be managed. -/
inductive Class where
  | abstract
  | incomplete
  | generic
  | amazon
  | hybrid
  deriving DecidableEq, Repr

/-- The classes of providers, by all names that a provider has. -/
abbrev Known := List (Value × Class)

namespace Class

def name : Class → String
  | abstract => "Cloud"
  | incomplete => "BrokenCloud"
  | generic => "GenericCloud"
  | amazon => "AmazonCloud"
  | hybrid => "HybridCloud"

def provider : Class → String
  | generic => "generic"
  | amazon => "ec2"
  | hybrid => "hybrid"
  | _ => ""

/-- Whether clouds of the class have credentials and a region. -/
def hasAccount : Class → Bool
  | amazon => true
  | hybrid => true
  | _ => false

def fields (c : Class) : List String :=
  ["title", "compute_templates", "storage_templates"]
    ++ if c.hasAccount then ["apikey", "apisecret", "region"] else []

end Class

/-! ### Names of providers -/

namespace Known

/-- The one provider that comes with a class. -/
def first : Known := [(.text Class.amazon.provider, .amazon)]

/-- All names of a provider in a table of providers. -/
def names (name : String) (provider : Value) : Except Fault (List Value) := do
  match (← Record.entries provider "get").lookup "aliases" with
  | none => return [.text name]
  | some (.list aliases) => return .text name :: aliases
  | some v => throw (.wrongKind ("can only concatenate list (not \"" ++ v.kindName ++ "\") to list"))

/-- Makes all names of a provider known if one of them is. -/
def enter (known : Known) (provider : String × Value) : Except Fault Known := do
  let names ← names provider.1 provider.2
  match names.find? fun v => !v.hashable with
  | some v => throw (.unhashable v)
  | none =>
    match names.findSome? fun v => Value.find? v known with
    | some cls => return names.foldl (fun known v => Value.put v cls known) known
    | none => return known

/-- Whether a cloud can be of the provider with a name. -/
def Has (known : Known) (v : Value) : Prop :=
  v.truthy = true ∧ (Value.find? v known).isSome = true

/-- Every known name means the class that comes with its provider, whose own name is known. -/
structure Sole (known : Known) : Prop where
  only : ∀ e ∈ known, e.2 = Class.amazon
  own : (Value.find? (.text "ec2") known).isSome = true

theorem Sole.put {known : Known} (h : Sole known) (v : Value) :
    Sole (Value.put v Class.amazon known) where
  only e he := (Value.mem_put he).elim id (h.only e)
  own := Value.isSome_find?_put h.own

theorem Sole.putAll {known : Known} (h : Sole known) (vs : List Value) :
    Sole (vs.foldl (fun known v => Value.put v Class.amazon known) known) := by
  induction vs generalizing known with
  | nil => exact h
  | cons v rest ih => exact ih (h.put v)

theorem Sole.find? {known : Known} (h : Sole known) {v : Value} {cls : Class}
    (hv : Value.find? v known = some cls) : cls = .amazon := by
  obtain ⟨e, he, rfl⟩ := Option.map_eq_some_iff.1 hv
  exact h.only e (List.mem_of_find?_eq_some he)

theorem Sole.enter {known known' : Known} (h : Sole known) {provider : String × Value}
    (hentered : known.enter provider = .ok known') : Sole known' := by
  unfold Known.enter at hentered
  cases hnames : names provider.1 provider.2 with
  | error f =>
    rw [hnames] at hentered
    cases hentered
  | ok vs =>
    simp only [hnames, bind, Except.bind] at hentered
    split at hentered
    · cases hentered
    · split at hentered
      · rename_i cls hfound
        obtain ⟨v, -, hv⟩ := List.exists_of_findSome?_eq_some hfound
        obtain rfl := h.find? hv
        cases hentered
        exact h.putAll vs
      · cases hentered
        exact h

end Known

/-- The known names of a table of providers, which is gone through once. -/
def knownIn (providers : Value) : Except Fault Known := do
  (← Record.entries providers "items").foldlM Known.enter Known.first

/-- Whatever the table is, there is one class only. -/
theorem sole_knownIn {providers : Value} {known : Known} (h : knownIn providers = .ok known) :
    known.Sole := by
  have hfirst : Known.first.Sole := ⟨by simp [Known.first], rfl⟩
  unfold knownIn at h
  cases hes : Record.entries providers "items" with
  | error f =>
    rw [hes] at h
    cases h
  | ok es =>
    rw [hes] at h
    replace h : es.foldlM Known.enter Known.first = .ok known := h
    generalize Known.first = start at hfirst h
    clear hes
    induction es generalizing start with
    | nil =>
      cases h
      exact hfirst
    | cons e rest ih =>
      rw [List.foldlM_cons] at h
      cases hentered : start.enter e with
      | error f =>
        rw [hentered] at h
        cases h
      | ok entered =>
        rw [hentered] at h
        exact ih entered (hfirst.enter hentered) h

/-- The names that are known when nothing is set. -/
def usual : Known := [(.text "ec2", .amazon), (.text "aws", .amazon), (.text "amazon", .amazon)]

theorem knownIn_builtInProviders : knownIn Settings.builtInProviders = .ok usual := rfl

/-- The class that settings are for. -/
def Class.resolve (c : Class) (known : Known) (provider : Value) : Except Fault Class :=
  if c != abstract then .ok c
  else if !provider.truthy then .error (.because .parameterMissing "provider" none [])
  else if !provider.hashable then .error (.unhashable provider)
  else match Value.find? provider known with
    | some c => .ok c
    | none => .error (.mentioning [provider]
        (.because .validation ("Invalid provider '" ++ provider.display ++ "'.") none []))

end BlockStorage.Cloud
