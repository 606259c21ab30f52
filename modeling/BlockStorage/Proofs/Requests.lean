import BlockStorage.Proofs.Steps

/-!
Which requests operations make, and how long they sleep.

To find a machine is to list machines, or to describe one that was seen before. A status query is
one listing, of the volume alone where the cloud can be asked for that, and a wait makes status
queries and sleeps. Reading a volume's name asks for its tags. A create makes its request, and
settling the new volume makes status queries and then tags it.
-/
namespace BlockStorage

/-! ### Machines -/

namespace Compute

open Session

variable {σ : Type} {ctx : Context σ} {allowed : Deed → Prop}

theorem within_fetchInstances (hlist : allowed (.asks .listInstances)) :
    Within ctx allowed (fetchInstances ctx) := within_askCompute hlist

theorem within_fetchInstance (id : Value) (hlist : allowed (.asks .listInstances))
    (hone : allowed (.asks (.describeInstances [id]))) :
    Within ctx allowed (fetchInstance ctx id) := by
  refine Within.current.bind fun g => ?_
  split
  · refine Within.catching ?_ fun _ => Within.pure _
    rw [map_eq_pure_bind]
    exact (within_askCompute hone).bind fun _ => Within.pure _
  · exact (within_fetchInstances hlist).bind fun _ => Within.pure _

theorem within_describe (i : Instance) : Within ctx allowed (describe i) :=
  Within.current.bind fun _ => Within.ofExcept _

theorem within_search (address : Value) (nodes : List Instance) :
    Within ctx allowed (search ctx address nodes) := by
  induction nodes with
  | nil => exact Within.fail _
  | cons i rest ih =>
    refine ((within_describe i).wrapForeign _).bind fun machine => ?_
    refine (Within.ofExcept _).bind fun found => ?_
    split
    · dsimp only
      split
      · exact (within_remember address machine.id).bind fun _ => Within.pure _
      · exact Within.pure _
    · exact ih

theorem within_findRemembered (address : Value) (hlist : allowed (.asks .listInstances))
    (hone : ∀ id, allowed (.asks (.describeInstances [id]))) :
    Within ctx allowed (findRemembered ctx address) := by
  unfold findRemembered
  split
  · exact Within.fail _
  refine Within.current.bind fun g => ?_
  split
  · exact Within.pure _
  split
  · exact Within.pure _
  refine (within_fetchInstance _ hlist (hone _)).bind fun seen => ?_
  split
  · exact (within_forget address).bind fun _ => Within.pure _
  · refine (within_describe _).bind fun machine => (Within.ofExcept _).bind fun found => ?_
    split
    · exact Within.pure _
    · exact (within_forget address).bind fun _ => Within.pure _

/-- Finding a machine lists machines and describes single ones, and changes nothing. -/
theorem within_findMachine (address : Value) (hlist : allowed (.asks .listInstances))
    (hone : ∀ id, allowed (.asks (.describeInstances [id]))) :
    Within ctx allowed (findMachine ctx address) := by
  have hscan : Within ctx allowed (scan ctx address) :=
    ((within_fetchInstances hlist).wrapForeign _).bind fun nodes => within_search address nodes
  unfold findMachine
  split
  · refine (within_findRemembered address hlist hone).bind fun found => ?_
    split
    · exact Within.pure _
    · exact hscan
  · exact hscan

end Compute

namespace Storage

open Session

variable {σ α : Type} {ctx : Context σ} {allowed : Deed → Prop}

/-! ### Queries -/

theorem within_describeDisks (ids : List Value) (hsome : allowed (.asks (.describeDisks ids)))
    (hall : allowed (.asks .listDisks)) : Within ctx allowed (describeDisks ctx ids) := by
  refine Within.current.bind fun g => ?_
  split
  · exact within_askStorage hsome
  · exact within_askStorage hall

theorem within_describeDisk (id : Value) (hsome : allowed (.asks (.describeDisks [id])))
    (hall : allowed (.asks .listDisks)) : Within ctx allowed (describeDisk ctx id) := by
  refine (within_describeDisks [id] hsome hall).bind fun ds => ?_
  split
  · exact Within.pure _
  · exact Within.fail _

/-- A status query is one listing. -/
theorem within_status (id : Value) (hsome : allowed (.asks (.describeDisks [id])))
    (hall : allowed (.asks .listDisks)) : Within ctx allowed (status ctx id) := by
  refine Within.translating ?_ _
  refine (within_describeDisk id hsome hall).bind fun d => ?_
  exact (Within.ofExcept _).bind fun st => Within.pure _

theorem within_queryTags (id : Value) (htags : allowed (.asks (.describeTags id))) :
    Within ctx allowed (queryTags ctx id) := by
  refine Within.current.bind fun g => ?_
  dsimp only
  split
  · exact within_askStorage htags
  · exact Within.fail _

theorem ends_queryTags (id : Value) : (queryTags ctx id).Ends := by
  refine (Run.Ends.get.bind fun s => Run.Ends.pure _).bind fun g => ?_
  dsimp only
  split
  · exact ends_askStorage _
  · exact Run.Ends.fail _

theorem within_volumeName (id : Value) (htags : allowed (.asks (.describeTags id))) :
    Within ctx allowed (volumeName ctx id) := by
  refine ((within_queryTags id htags).wrapForeign _).bind fun sheet => ?_
  exact (Within.ofExcept _).bind fun name => Within.pure _

/-- Telling of a volume asks for its tags. -/
theorem within_toVolume (d : Disk) (htags : allowed (.asks (.describeTags d.id))) :
    Within ctx allowed (toVolume ctx d) := by
  refine (Within.ofExcept _).bind fun size => (Within.ofExcept _).bind fun entries => ?_
  refine Within.bind ?_ fun name => ?_
  · refine (within_volumeName d.id htags).catching fun f => ?_
    split
    · exact Within.pure _
    · exact Within.fail _
  · refine (Within.ofExcept _).bind fun places => Within.current.bind fun g => ?_
    exact (Within.ofExcept _).bind fun st => Within.pure _

/-- Telling of a volume waits for nothing. -/
theorem ends_toVolume (d : Disk) : (toVolume ctx d).Ends := by
  refine (Run.Ends.ofExcept _).bind fun size => (Run.Ends.ofExcept _).bind fun entries => ?_
  refine Run.Ends.bind (.catching ?_ fun f => ?_) fun name => ?_
  · refine ((ends_queryTags d.id).wrapForeign _).bind fun sheet => ?_
    exact (Run.Ends.ofExcept _).bind fun name => Run.Ends.pure _
  · split
    · exact Run.Ends.pure _
    · exact Run.Ends.fail _
  · refine (Run.Ends.ofExcept _).bind fun places => ?_
    refine (Run.Ends.get.bind fun s => Run.Ends.pure _).bind fun g => ?_
    exact (Run.Ends.ofExcept _).bind fun st => Run.Ends.pure _

/-! ### Waiting -/

/-- A wait makes status queries, one after the other. -/
theorem within_wait (id wanted interval : Value) (deadline : Float)
    (hsome : allowed (.asks (.describeDisks [id]))) (hall : allowed (.asks .listDisks))
    (hsleep : allowed (.sleeps interval)) (patience : Nat) (last : Value) :
    Within ctx allowed ((watch ctx).await id wanted interval deadline patience last) := by
  induction patience generalizing last with
  | zero => exact Within.stall
  | succ patience ih =>
    unfold Watch.await
    refine Within.get.bind fun s => ?_
    split
    · refine ((within_status id hsome hall).wrapForeign _).bind fun seen => ?_
      split
      · exact Within.pure _
      · exact (within_sleep hsleep).bind fun _ => ih seen
    · exact Within.fail _

theorem within_await (id : Value) (wanted : Status) (deadline : Float)
    (hsome : allowed (.asks (.describeDisks [id]))) (hall : allowed (.asks .listDisks))
    (hsleep : allowed (.sleeps ctx.settings.pollInterval)) :
    Within ctx allowed (await ctx id wanted deadline) :=
  (within_wait id _ _ deadline hsome hall hsleep _ _).bind fun _ => Within.pure _

/-! ### Creating -/

theorem within_requestCreate (location : Value) (t : StorageTemplate)
    (hsubmit : ∀ kind, allowed (.asks (.submitCreate t.size.display location kind)))
    (hread : ∀ receipt, allowed (.asks (.readReceipt receipt)))
    (hcreate : allowed (.asks (.create t.size location))) :
    Within ctx allowed (requestCreate ctx location t) := by
  refine Within.current.bind fun g => ?_
  split
  · dsimp only
    split
    · refine (Within.fail _).bind fun _ => ?_
      exact (within_askStorage (hsubmit _)).bind fun receipt => within_askStorage (hread receipt)
    · exact (within_askStorage (hsubmit _)).bind fun receipt => within_askStorage (hread receipt)
  · exact within_askStorage hcreate

/-- A create request is answered or fails. -/
theorem ends_requestCreate (location : Value) (t : StorageTemplate) :
    (requestCreate ctx location t).Ends := by
  refine (Run.Ends.get.bind fun s => Run.Ends.pure _).bind fun g => ?_
  split
  · dsimp only
    split
    · refine (Run.Ends.fail _).bind fun _ => ?_
      exact (ends_askStorage _).bind fun receipt => ends_askStorage _
    · exact (ends_askStorage _).bind fun receipt => ends_askStorage _
  · exact ends_askStorage _

theorem within_applyTags (ids : List Value) (tags : Tags)
    (h : ∀ id ∈ ids, allowed (.asks (.createTags id tags))) :
    Within ctx allowed (applyTags ctx ids tags) := by
  refine Within.current.bind fun g => ?_
  dsimp only
  split
  · refine Within.bind ?_ fun _ => Within.pure _
    exact Within.forEach fun id hid => within_askStorage (h id hid)
  · exact Within.fail _

theorem within_newName (t : StorageTemplate) : Within ctx allowed (newName ctx t) := by
  refine Within.now.bind fun now => (Within.ofExcept _).bind fun ms => ?_
  split
  · exact (Within.fail _).bind fun _ => Within.pure _
  · exact Within.pure _

/-- Settling a new volume makes status queries and then tags it. -/
theorem within_settle (id : Value) (t : StorageTemplate) (deadline : Float)
    (hsome : allowed (.asks (.describeDisks [id]))) (hall : allowed (.asks .listDisks))
    (hsleep : allowed (.sleeps ctx.settings.pollInterval))
    (htag : ∀ name, allowed (.asks (.createTags id [(ctx.settings.nameTag, .text name)]))) :
    Within ctx allowed (settle ctx id t deadline) := by
  refine (within_await id _ deadline hsome hall hsleep).bind fun _ => ?_
  refine (within_newName t).bind fun name => ?_
  dsimp only
  split
  · refine within_applyTags [id] _ fun i hi => ?_
    rw [List.mem_singleton.1 hi]
    exact htag name
  · exact Within.fail _

end Storage

end BlockStorage
