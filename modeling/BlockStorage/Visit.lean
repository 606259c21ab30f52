import BlockStorage.Storage

/-!
Visits: a cloud is opened by its title, used for one operation and closed again, whatever becomes
of the operation. What a visit leaves is the world and the closed session, so that nothing it
opened stays in use.
-/
namespace BlockStorage

/-- A world, and the cloud in use there if there is one. -/
structure Place (σ : Type) where
  world : World σ
  gateway : Option Gateway := none

namespace Place

variable {σ α : Type}

/-- Goes on with a cloud. -/
def entering (g : Gateway) (x : Run (Session σ) α) : Run (Place σ) α := ⟨fun p =>
  let (o, s) := x.run ⟨p.world, g⟩
  (o, ⟨s.world, some s.gateway⟩)⟩

/-- Runs on the cloud in use, if there is one. -/
def inSession (otherwise : Run (Place σ) α) (x : Run (Session σ) α) : Run (Place σ) α := do
  match (← Run.get).gateway with
  | some g => entering g x
  | none => otherwise

/-- Runs beside the cloud in use, which is not touched. -/
def apart (x : Run (Place σ) α) : Run (Place σ) α := ⟨fun p =>
  let (o, q) := x.run { p with gateway := none }
  (o, { q with gateway := p.gateway })⟩

/-- Uses no cloud any more. -/
def leave : Run (Place σ) Unit := Run.modify fun p => { p with gateway := none }

/-- Takes a cloud from the settings, in place of the one in use. -/
def openNamed (ctx : Context σ) (cls : Cloud.Class) (title : Value) : Run (Place σ) Gateway := do
  leave
  let cloud ← Run.ofExcept (Cloud.named ctx.known cls ctx.settings.clouds title)
  let g : Gateway := { cloud }
  Run.modify fun p => { p with gateway := some g }
  return g

/-- Takes a cloud from the settings and moves it to the region of a compute template, if one is
given. -/
def openCloud (ctx : Context σ) (title template : Value) : Run (Place σ) Cloud := do
  let g ← openNamed ctx .abstract title
  if template.truthy then
    (entering g (Session.useComputeTemplate ctx template)).catching fun f => do
      leave
      Run.fail f
  return g.cloud

end Place

namespace Visit

open Place

variable {σ α : Type}

/-- Opens a cloud, uses it and closes it. -/
def visit (ctx : Context σ) (title : Value) (x : Run (Session σ) α) : Run (Place σ) α := do
  let g ← openNamed ctx .abstract title
  entering g (x.ensuring (Session.disconnect ctx))

/-- The volumes attached to a machine. -/
def list (ctx : Context σ) (title address : Value) : Run (Place σ) (List Fields) :=
  visit ctx title (List.map Volume.toFields <$> Storage.list ctx address)

/-- Every volume of a cloud. -/
def listAll (ctx : Context σ) (title : Value) : Run (Place σ) (List Fields) :=
  visit ctx title (List.map Volume.toFields <$> Storage.listAll ctx)

def create (ctx : Context σ) (title template location timeout : Value) :
    Run (Place σ) Fields :=
  visit ctx title (Volume.toFields <$> Storage.create ctx template location timeout)

def attach (ctx : Context σ) (title id device address timeout : Value) : Run (Place σ) Unit :=
  visit ctx title (Storage.attach ctx id device address timeout)

def detach (ctx : Context σ) (title id address timeout : Value) : Run (Place σ) Unit :=
  visit ctx title (Storage.detach ctx id address timeout)

def delete (ctx : Context σ) (title id location timeout : Value) : Run (Place σ) Unit :=
  visit ctx title (Storage.delete ctx location id timeout)

/-- The name of a volume. -/
def volumeName (ctx : Context σ) (title id : Value) : Run (Place σ) Value :=
  visit ctx title (Storage.volumeName ctx id)

/-- The ids of the volumes attached to a machine, in order. -/
def volumeIds (ctx : Context σ) (title address : Value) : Run (Place σ) (List Value) := do
  let ids ← visit ctx title (Compute.volumeIds ctx address)
  Run.ofExcept (Machine.sortedIds ids)

end Visit

/-- The titles of the clouds in the settings, in order. -/
def cloudTitles (settings : Settings) : Except Fault (List Value) :=
  settings.clouds.members.bind Machine.sortedIds

end BlockStorage
