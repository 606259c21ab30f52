/-!
The kinds of storage fault. Every fault that an operation reports on its own behalf is bad input,
an expired wait, a missing or misplaced entity, or another failure of the cloud; each of these has
finer kinds below it, so a caller branches on the kind and never reads the message.

Statements: being a kind of is reflexive (`isA_refl`) and transitive (`isA_trans`), and each kind
but the most general one is of exactly one of the four families (`family_unique`).
-/
namespace BlockStorage.Fault

inductive Kind where
  | general
  -- Bad input, found before any request.
  | validation
  | parameterMissing
  | volumeSize
  | alreadyAttached
  | storageTemplateNotFound
  -- A bounded wait expired.
  | timeout
  -- An entity is missing or in the wrong state.
  | state
  | notFound
  | machineNotFound
  | volumeNotFound
  | cloudNotFound
  -- The cloud failed in another way.
  | provisioning
  | cloudUnavailable
  | cloudUnauthorized
  | machineListing
  | volumeCreation
  | volumeAttachment
  | volumeDetachment
  | volumeDeletion
  | volumeListing
  | statusQuery
  | tagQuery
  | tagCreation
  deriving DecidableEq, Repr

namespace Kind

/-- The kinds that a kind belongs to, itself first. -/
def ancestors : Kind → List Kind
  | general => [general]
  | validation => [validation, general]
  | parameterMissing => [parameterMissing, validation, general]
  | volumeSize => [volumeSize, validation, general]
  | alreadyAttached => [alreadyAttached, validation, general]
  | storageTemplateNotFound => [storageTemplateNotFound, validation, general]
  | timeout => [timeout, general]
  | state => [state, general]
  | notFound => [notFound, state, general]
  | machineNotFound => [machineNotFound, notFound, state, general]
  | volumeNotFound => [volumeNotFound, notFound, state, general]
  | cloudNotFound => [cloudNotFound, notFound, state, general]
  | provisioning => [provisioning, general]
  | k => [k, provisioning, general]

/-- Whether `k` is `ancestor` or a finer kind of it. -/
def isA (k ancestor : Kind) : Bool := k.ancestors.contains ancestor

theorem isA_refl (k : Kind) : k.isA k = true := by cases k <;> rfl

theorem isA_iff {k a : Kind} : k.isA a = true ↔ a ∈ k.ancestors := by simp [isA]

theorem ancestors_subset {k a : Kind} (h : a ∈ k.ancestors) : a.ancestors ⊆ k.ancestors := by
  cases k <;> simp only [ancestors, List.mem_cons, List.not_mem_nil, or_false] at h <;>
    rcases h with rfl | rfl | rfl | rfl <;> simp [ancestors]

theorem isA_trans {a b c : Kind} (hab : a.isA b = true) (hbc : b.isA c = true) :
    a.isA c = true :=
  isA_iff.2 (ancestors_subset (isA_iff.1 hab) (isA_iff.1 hbc))

/-- The four families. -/
def families : List Kind := [validation, timeout, state, provisioning]

theorem family_unique (k : Kind) (h : k ≠ general) :
    (families.filter k.isA).length = 1 := by
  cases k <;> first | exact absurd rfl h | rfl

/-- What a fault of this kind says when nothing else is known. -/
def summary : Kind → String
  | general => "Blockvol Error"
  | validation => "Bad request"
  | parameterMissing => "Required parameter missing"
  | volumeSize => "Invalid volume size"
  | alreadyAttached => "Volume already attached"
  | storageTemplateNotFound => "Storage template not found"
  | timeout => "Timed out waiting for volume"
  | state => "Illegal state"
  | notFound => "Not Found"
  | machineNotFound => "Machine not found"
  | volumeNotFound => "Volume not found"
  | cloudNotFound => "Cloud not found"
  | provisioning => "Provisioning error"
  | cloudUnavailable => "Cloud unavailable"
  | cloudUnauthorized => "Invalid cloud credentials"
  | machineListing => "Error while listing machines"
  | volumeCreation => "Error while creating volume"
  | volumeAttachment => "Error while attaching volume"
  | volumeDetachment => "Error while detaching volume"
  | volumeDeletion => "Error while deleting volume"
  | volumeListing => "Error while listing volumes"
  | statusQuery => "Error while getting volume description"
  | tagQuery => "Error while querying tags"
  | tagCreation => "Error while applying tags"

/-- The status code of a web answer that reports the fault. -/
def httpCode (k : Kind) : Nat :=
  if k = cloudUnauthorized then 401
  else if k.isA validation then 400
  else if k.isA timeout then 504
  else if k.isA notFound then 404
  else if k.isA state then 409
  else if k.isA provisioning then 503
  else 500

end Kind

end BlockStorage.Fault
