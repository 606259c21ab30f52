import BlockStorage.Proofs.CreatedVolume
import BlockStorage.Proofs.SingleChange
import BlockStorage.Proofs.VolumeWait

/-!
What a creation asks for, and in which order.

A creation that has passed its checks makes one create request, for what was ordered, waits until
the volume that it is told of is available, and names it by one tag request. No other request of it
is of one of these two kinds. So along any run there is at most one of each (`Once`), the tag request
comes after a status query that showed the volume available ahead of the deadline (`Named`), and a
creation that returns has made both (`create_requests`).

What is returned is put together from what was ordered and the id that the create request handed
back. A text field takes it, so bytes are returned as the text that they spell
(`create_spells_id`).
-/
namespace BlockStorage

namespace Request

/-- The request is one for a new volume. -/
def creates : Request → Bool
  | create .. | submitCreate .. => true
  | _ => false

/-- The request is one to tag a volume. -/
def tags : Request → Bool
  | createTags .. => true
  | _ => false

end Request

/-- The deed is no request of some kind. -/
def Deed.Lacks (p : Request → Bool) : Deed → Prop
  | .asks r => p r = false
  | .sleeps _ => True

/-- The requests of some kind among events, the latest first. -/
def requestsIn (p : Request → Bool) (events : List Event) : List Request :=
  events.filterMap fun
    | .requested _ r => if p r then some r else none
    | _ => none

section RequestsIn

variable {p : Request → Bool}

theorem requestsIn_append (p : Request → Bool) (new old : List Event) :
    requestsIn p (new ++ old) = requestsIn p new ++ requestsIn p old := List.filterMap_append

theorem requestsIn_eq_nil {events : List Event} (h : ∀ e ∈ events, e.Within (Deed.Lacks p)) :
    requestsIn p events = [] := by
  refine List.filterMap_eq_nil_iff.2 fun e he => ?_
  cases e with
  | requested via r =>
    have hr : p r = false := h _ he
    simp [hr]
  | opened | slept => rfl

theorem requestsIn_cons {via : Connection} {r : Request} (h : p r = true) (events : List Event) :
    requestsIn p (.requested via r :: events) = r :: requestsIn p events := by
  simp [requestsIn, h]

theorem requestsIn_of_grows {before after : List Event}
    (h : Grows (Event.Within (Deed.Lacks p)) before after) :
    requestsIn p after = requestsIn p before := by
  obtain ⟨events, rfl, hevents⟩ := h
  rw [requestsIn_append, requestsIn_eq_nil hevents, List.nil_append]

/-- What a journal has beyond another of its kind are the events. -/
theorem requestsIn_events {before after events : List Event} {new : List Request}
    (hevents : after = events ++ before)
    (h : requestsIn p after = new ++ requestsIn p before) : requestsIn p events = new := by
  rw [hevents, requestsIn_append] at h
  exact List.append_cancel_right h

end RequestsIn

namespace Storage

open Session

variable {σ α : Type} {ctx : Context σ} {s s' s₁ s₂ : Session σ} {p : Request → Bool}
  {id location place : Value} {t : StorageTemplate} {o : Order} {disk : Disk} {deadline : Float}
  {least most : Int}

/-! ### Requests made once -/

/-- An attempt to make a request of some kind made it, or ended before it and has no result. -/
inductive Once (p : Request → Bool) (r : Request) (s : Session σ) :
    Outcome α → Session σ → Prop
  | unmade {out : Outcome α} {s' : Session σ} (unfinished : ∀ a, out ≠ .done a)
      (same : requestsIn p s'.world.journal = requestsIn p s.world.journal) : Once p r s out s'
  | made {out : Outcome α} {s' : Session σ}
      (made : requestsIn p s'.world.journal = r :: requestsIn p s.world.journal) :
      Once p r s out s'

theorem Once.of_done {r : Request} {a : α} (h : Once p r s (.done a) s') :
    requestsIn p s'.world.journal = r :: requestsIn p s.world.journal := by
  cases h with
  | unmade unfinished => exact absurd rfl (unfinished a)
  | made h => exact h

theorem once_askStorage {r : Request} (hr : p r = true) (ctx : Context σ) (s : Session σ) :
    Once p r s ((askStorage ctx r).run s).1 ((askStorage ctx r).run s).2 := by
  have hchanges : Changes ctx (Deed.Lacks p) (Eq r) s ((askStorage ctx r).run s).1
      ((askStorage ctx r).run s).2 := changes_askStorage rfl s
  cases hchanges with
  | unasked unfinished reach => exact .unmade unfinished (requestsIn_of_grows reach.journal)
  | asked hr' reach held gateway journal failed =>
    refine .made ?_
    rw [journal, ← hr', requestsIn_cons hr, requestsIn_of_grows reach.journal]

/-- What follows a request made once, and is no request of its kind, changes nothing about that. -/
theorem Once.bind (ctx : Context σ) {r : Request} {β : Type} {x : Run (Session σ) α}
    {f : α → Run (Session σ) β}
    (hx : Once p r s (x.run s).1 (x.run s).2) (hf : ∀ a, Within ctx (Deed.Lacks p) (f a)) :
    Once p r s ((x >>= f).run s).1 ((x >>= f).run s).2 := by
  rcases hrun : x.run s with ⟨a | e | _, s₁⟩
  · rw [hrun] at hx
    rw [Run.run_bind_done hrun]
    exact .made ((requestsIn_of_grows (hf a s₁).journal).trans hx.of_done)
  · rw [hrun] at hx
    rw [Run.run_bind_failed hrun]
    cases hx with
    | unmade _ same => exact .unmade nofun same
    | made h => exact .made h
  · rw [hrun] at hx
    rw [Run.run_bind_stalled hrun]
    cases hx with
    | unmade _ same => exact .unmade nofun same
    | made h => exact .made h

/-! ### The create request -/

/-- The request for what was ordered. -/
def Order.request (o : Order) : Request :=
  .submitCreate o.template.size.display o.place
    (if o.template.volumeType.truthy then some o.template.volumeType else none)

/-- Where volumes are managed natively, what was ordered is asked for once. -/
theorem once_requestCreate (hnative : native s.gateway.cloud = true) (ctx : Context σ)
    (o : Order) :
    Once Request.creates o.request s ((requestCreate ctx o.place o.template).run s).1
      ((requestCreate ctx o.place o.template).run s).2 := by
  cases hsize : o.template.size.writable with
  | false =>
    rw [run_requestCreate_unwritable hnative hsize]
    exact .unmade nofun rfl
  | true =>
    rw [run_requestCreate_native hnative hsize]
    exact Once.bind ctx (once_askStorage rfl ctx s) fun receipt => within_askStorage rfl

/-! ### The tag request -/

/-- The request that names a volume by a moment in milliseconds. -/
def Order.naming (ctx : Context σ) (o : Order) (id : Value) (ms : Int) : Request :=
  .createTags id
    [(ctx.settings.nameTag, .text (o.template.namePrefix.display ++ "_" ++ toString ms))]

theorem once_applyTags (hnative : native s.gateway.cloud = true) (ctx : Context σ) (id : Value)
    (tags : Tags) : Once Request.tags (.createTags id tags) s ((applyTags ctx [id] tags).run s).1
      ((applyTags ctx [id] tags).run s).2 := by
  unfold applyTags
  rw [Run.run_bind_done (run_current s)]
  dsimp only
  rw [if_pos hnative]
  have hasked : Once Request.tags (.createTags id tags) s
      ((askStorage ctx (.createTags id tags)).run s).1
      ((askStorage ctx (.createTags id tags)).run s).2 := once_askStorage rfl ctx s
  refine Once.bind ctx (Once.bind ctx hasked fun _ => ?_) fun _ => Within.pure _
  exact (Within.pure _).bind fun _ => Within.pure _

/-- A volume that is available is named by the time and once, or that ends before it is asked for. -/
theorem unnamed_or_named (hnative : native s.gateway.cloud = true) {out : Outcome Unit}
    (h : (do
        let name ← newName ctx o.template
        let tag := ctx.settings.nameTag
        if tag.hashable then
          applyTags ctx [id] [(tag, .text name)]
        else
          Run.fail (.unhashable tag) : Run (Session σ) Unit).run s = (out, s')) :
    ((∀ a, out ≠ .done a) ∧ requestsIn Request.tags s'.world.journal =
        requestsIn Request.tags s.world.journal) ∨
      ∃ ms, milliseconds (ctx.backend.now s.world.cloud) = .ok ms ∧
        Grows (Event.Within Deed.Works) s.world.journal s'.world.journal ∧
        requestsIn Request.tags s'.world.journal =
          o.naming ctx id ms :: requestsIn Request.tags s.world.journal := by
  have hsame := state_newName ctx o.template s
  rcases hname : (newName ctx o.template).run s with ⟨name | f | _, s₁⟩
  · obtain ⟨ms, hms, rfl⟩ := name_of_newName hname
    rw [hname] at hsame
    cases (show s₁ = s from hsame)
    rw [Run.run_bind_done hname] at h
    dsimp only at h
    split at h
    · have htagging : Within ctx Deed.Works (applyTags ctx [id] [(ctx.settings.nameTag,
          .text (o.template.namePrefix.display ++ "_" ++ toString ms))]) :=
        within_applyTags [id] _ fun _ _ => trivial
      have hgrows := (htagging s).journal
      have honce := once_applyTags hnative ctx id [(ctx.settings.nameTag,
        .text (o.template.namePrefix.display ++ "_" ++ toString ms))]
      rw [h] at hgrows honce
      cases honce with
      | unmade unfinished same => exact .inl ⟨unfinished, same⟩
      | made asked => exact .inr ⟨ms, hms, hgrows, asked⟩
    · cases h
      exact .inl ⟨nofun, rfl⟩
  · rw [hname] at hsame
    cases (show s₁ = s from hsame)
    cases (Run.run_bind_failed hname).symm.trans h
    exact .inl ⟨nofun, rfl⟩
  · rw [hname] at hsame
    cases (show s₁ = s from hsame)
    cases (Run.run_bind_stalled hname).symm.trans h
    exact .inl ⟨nofun, rfl⟩

/-- A volume was waited for until a status query ahead of the deadline showed it available, at some
moment. -/
structure Awaited (ctx : Context σ) (o : Order) (id : Value) (s : Session σ) (n : Nat)
    (seen : Value) (s₁ s₂ : Session σ) (ms : Int) : Prop where
  waited : Waited ctx id .available o.deadline s n seen s₁
  due : (watch ctx).now s₁ < o.deadline
  available : (status ctx id).run s₁ = (.done Status.available.toValue, s₂)
  moment : milliseconds (ctx.backend.now s₂.world.cloud) = .ok ms

/-- How a new volume is settled: it is not named, or after some rounds a status query ahead of the
deadline showed it available and then it was named by one request. -/
inductive Settles (ctx : Context σ) (o : Order) (id : Value) (s : Session σ) :
    Outcome Unit → Session σ → Prop
  | unnamed {out : Outcome Unit} {s' : Session σ} (unfinished : ∀ a, out ≠ .done a)
      (same : requestsIn Request.tags s'.world.journal = requestsIn Request.tags s.world.journal) :
      Settles ctx o id s out s'
  | named {out : Outcome Unit} {s' s₁ s₂ : Session σ} {n : Nat} {seen : Value} {ms : Int}
      (awaited : Awaited ctx o id s n seen s₁ s₂ ms)
      (before : Grows (Event.Within (Deed.Lacks Request.tags)) s.world.journal s₂.world.journal)
      (after : Grows (Event.Within Deed.Works) s₂.world.journal s'.world.journal)
      (asked : requestsIn Request.tags s'.world.journal =
        o.naming ctx id ms :: requestsIn Request.tags s.world.journal) :
      Settles ctx o id s out s'

theorem settles (hnative : native s.gateway.cloud = true) {out : Outcome Unit}
    (h : (settle ctx id o.template o.deadline).run s = (out, s')) :
    Settles ctx o id s out s' := by
  have hwaiting : Within ctx (Deed.Lacks Request.tags) (await ctx id .available o.deadline) :=
    within_await id _ _ rfl rfl trivial
  have hsteps := hwaiting s
  have hgrows := hsteps.journal
  unfold settle at h
  rcases hwait : (await ctx id .available o.deadline).run s with ⟨_ | f | _, s₂⟩
  · rw [hwait] at hsteps hgrows
    obtain ⟨n, seen, s₁, waited, due, available⟩ := shown_of_await hwait
    have hcloud : s₂.gateway.cloud = s.gateway.cloud := hsteps.progress.cloud
    rw [Run.run_bind_done hwait] at h
    rcases unnamed_or_named (hcloud ▸ hnative) h with
      ⟨unfinished, same⟩ | ⟨ms, moment, after, asked⟩
    · exact .unnamed unfinished (same.trans (requestsIn_of_grows hgrows))
    · rw [requestsIn_of_grows hgrows] at asked
      exact .named ⟨waited, due, available, moment⟩ hgrows after asked
  · rw [hwait] at hgrows
    cases (Run.run_bind_failed hwait).symm.trans h
    exact .unnamed nofun (requestsIn_of_grows hgrows)
  · rw [hwait] at hgrows
    cases (Run.run_bind_stalled hwait).symm.trans h
    exact .unnamed nofun (requestsIn_of_grows hgrows)

/-! ### The whole creation -/

/-- After a new volume has been settled, or has not, nothing is asked for but that it is destroyed
and what its tags are. -/
theorem grows_of_settled {settled : Outcome Unit} {out : Outcome Volume}
    (hdestroy : ∀ id, p (.destroy id) = false) (hdescribe : ∀ id, p (.describeTags id) = false)
    (hcreate : (requestCreate ctx o.place o.template).run s = (.done disk, s₁))
    (hsettle : (settle ctx disk.id o.template o.deadline).run s₁ = (settled, s₂))
    (hrun : (provision ctx o).run s = (out, s')) :
    Grows (Event.Within (Deed.Lacks p)) s₂.world.journal s'.world.journal := by
  cases settled with
  | done _ =>
    have htelling : Within ctx (Deed.Lacks p) (do
        let v ← toVolume ctx disk
        return { v with
          status := Status.available.toValue, size := o.template.size, location := o.place }) :=
      (within_toVolume disk (hdescribe disk.id)).bind fun v => Within.pure _
    have hgrows := (htelling s₂).journal
    rw [provision_settled hcreate hsettle] at hrun
    rwa [hrun] at hgrows
  | failed f =>
    obtain ⟨via, s₃, hend, hjournal⟩ := provision_unsettled hcreate hsettle
    cases hend.symm.trans hrun
    rw [hjournal]
    split
    · exact .cons (hdestroy disk.id) _
    · exact .refl _
  | stalled =>
    cases (provision_stalled hcreate hsettle).symm.trans hrun
    exact .refl _

/-- A volume was named by the one tag request among some events: it was awaited, a status query
ahead of the deadline showed it available, and the tag request came after that query. -/
inductive Named (ctx : Context σ) (o : Order) (id : Value) (s s₁ : Session σ)
    (events : List Event) : Prop
  | after {s₂ s₃ : Session σ} {n : Nat} {seen : Value} {ms : Int} {later earlier : List Event}
      (awaited : Awaited ctx o id s₁ n seen s₂ s₃ ms)
      (journal : s₃.world.journal = earlier ++ s.world.journal)
      (order : events = later ++ earlier)
      (before : requestsIn Request.tags earlier = [])
      (asked : requestsIn Request.tags later = [o.naming ctx id ms])

theorem Named.requestsIn {id : Value} {events : List Event} (h : Named ctx o id s s₁ events) :
    ∃ ms, BlockStorage.requestsIn Request.tags events = [o.naming ctx id ms] := by
  cases h with
  | @after _ _ _ _ ms _ _ _ _ order before asked =>
    exact ⟨ms, by rw [order, requestsIn_append, before, asked, List.append_nil]⟩

/-- What an order asks for, by the ending and the events, the latest first. -/
structure Asks (ctx : Context σ) (o : Order) (s : Session σ) (out : Outcome Volume)
    (events : List Event) : Prop where
  /-- What was ordered is asked for at most once. -/
  created : requestsIn Request.creates events = [] ∨
    requestsIn Request.creates events = [o.request]
  /-- Nothing is tagged, or the volume that was handed back is named, once it is available. -/
  tagged : requestsIn Request.tags events = [] ∨
    ∃ disk s₁, (requestCreate ctx o.place o.template).run s = (.done disk, s₁) ∧
      Named ctx o disk.id s s₁ events
  /-- What is returned was asked for, and named, and is told of as it was ordered, whatever else was
  told of it. -/
  returned : ∀ v, out = .done v → ∃ disk s₁,
    (requestCreate ctx o.place o.template).run s = (.done disk, s₁) ∧
      requestsIn Request.creates events = [o.request] ∧ Named ctx o disk.id s s₁ events ∧
      v.id = Record.takeText disk.id ∧ v.size = o.template.size ∧ v.location = o.place ∧
      v.status = Status.available.toValue

/-- The volume of a creation that returns has been settled. -/
theorem settled_of_returned {settled : Outcome Unit} {v : Volume}
    (hcreate : (requestCreate ctx o.place o.template).run s = (.done disk, s₁))
    (hsettle : (settle ctx disk.id o.template o.deadline).run s₁ = (settled, s₂))
    (hrun : (provision ctx o).run s = (.done v, s')) : settled = .done () := by
  cases settled with
  | done _ => rfl
  | failed f =>
    obtain ⟨_, _, hend, -⟩ := provision_unsettled hcreate hsettle
    cases hend.symm.trans hrun
  | stalled => cases (provision_stalled hcreate hsettle).symm.trans hrun

/-- What was told of a volume is returned as it was ordered, but for the id. -/
theorem ordered_of_returned {v : Volume}
    (hcreate : (requestCreate ctx o.place o.template).run s = (.done disk, s₁))
    (hsettle : (settle ctx disk.id o.template o.deadline).run s₁ = (.done (), s₂))
    (hrun : (provision ctx o).run s = (.done v, s')) :
    v.id = Record.takeText disk.id ∧ v.size = o.template.size ∧ v.location = o.place ∧
      v.status = Status.available.toValue := by
  rw [provision_settled hcreate hsettle] at hrun
  obtain ⟨told, s₃, htell, hend⟩ := Run.done_of_run_bind hrun
  have hid : told.id = Record.takeText disk.id := id_of_toVolume htell
  cases hend
  exact ⟨hid, rfl, rfl, rfl⟩

section Asks

variable {out : Outcome Volume} {events : List Event}

theorem lacks_tags_requestCreate (ctx : Context σ) (o : Order) :
    Within ctx (Deed.Lacks Request.tags) (requestCreate ctx o.place o.template) :=
  within_requestCreate o.place o.template (fun _ => rfl) (fun _ => rfl) rfl

/-- A create request that fails is the last request, if it was made. -/
theorem asks_refused (hnative : native s.gateway.cloud = true) {f : Fault}
    (hcreate : (requestCreate ctx o.place o.template).run s = (.failed f, s₁))
    (hrun : (provision ctx o).run s = (out, s'))
    (hevents : s'.world.journal = events ++ s.world.journal) : Asks ctx o s out events := by
  have honce := once_requestCreate hnative ctx o
  have hlacks := (lacks_tags_requestCreate ctx o s).journal
  rw [hcreate] at honce hlacks
  cases (provision_refused hcreate).symm.trans hrun
  refine ⟨?_, .inl (requestsIn_events hevents (requestsIn_of_grows hlacks)), nofun⟩
  cases honce with
  | unmade _ same => exact .inl (requestsIn_events hevents same)
  | made asked => exact .inr (requestsIn_events hevents asked)

/-- Once the volume is handed back, it is not asked for again. -/
theorem created_once (hnative : native s.gateway.cloud = true) {settled : Outcome Unit}
    (hcreate : (requestCreate ctx o.place o.template).run s = (.done disk, s₁))
    (hsettle : (settle ctx disk.id o.template o.deadline).run s₁ = (settled, s₂))
    (hrun : (provision ctx o).run s = (out, s'))
    (hevents : s'.world.journal = events ++ s.world.journal) :
    requestsIn Request.creates events = [o.request] := by
  have honce := once_requestCreate hnative ctx o
  have hsettling : Within ctx (Deed.Lacks Request.creates)
      (settle ctx disk.id o.template o.deadline) :=
    within_settle disk.id _ _ rfl rfl trivial fun _ => rfl
  have hlacks := (hsettling s₁).journal
  rw [hcreate] at honce
  rw [hsettle] at hlacks
  have hrest : Grows (Event.Within (Deed.Lacks Request.creates)) s₂.world.journal
      s'.world.journal := grows_of_settled (fun _ => rfl) (fun _ => rfl) hcreate hsettle hrun
  refine requestsIn_events hevents ?_
  rw [requestsIn_of_grows (hlacks.trans hrest), honce.of_done]
  rfl

/-- A volume that is named is named once, after it was seen available. -/
theorem named_once {settled : Outcome Unit} {ms : Int} {n : Nat} {seen : Value}
    {s₃ s₄ : Session σ}
    (hcreate : (requestCreate ctx o.place o.template).run s = (.done disk, s₁))
    (hsettle : (settle ctx disk.id o.template o.deadline).run s₁ = (settled, s₂))
    (hrun : (provision ctx o).run s = (out, s'))
    (hevents : s'.world.journal = events ++ s.world.journal)
    (awaited : Awaited ctx o disk.id s₁ n seen s₃ s₄ ms)
    (before : Grows (Event.Within (Deed.Lacks Request.tags)) s₁.world.journal s₄.world.journal)
    (after : Grows (Event.Within Deed.Works) s₄.world.journal s₂.world.journal)
    (asked : requestsIn Request.tags s₂.world.journal =
      o.naming ctx disk.id ms :: requestsIn Request.tags s₁.world.journal) :
    Named ctx o disk.id s s₁ events := by
  have hcreating := (lacks_tags_requestCreate ctx o s).journal
  rw [hcreate] at hcreating
  have hrest : Grows (Event.Within (Deed.Lacks Request.tags)) s₂.world.journal s'.world.journal :=
    grows_of_settled (fun _ => rfl) (fun _ => rfl) hcreate hsettle hrun
  have hasked : requestsIn Request.tags events = [o.naming ctx disk.id ms] := by
    refine requestsIn_events hevents ?_
    rw [requestsIn_of_grows hrest, asked, requestsIn_of_grows hcreating]
    rfl
  obtain ⟨earlier, hearlier, hlacks⟩ := hcreating.trans before
  obtain ⟨tagging, htagging, -⟩ := after
  obtain ⟨telling, htelling, -⟩ := hrest
  have horder : events = (telling ++ tagging) ++ earlier := by
    rw [htagging, hearlier, hevents, ← List.append_assoc, ← List.append_assoc] at htelling
    exact List.append_cancel_right htelling
  have hnone := requestsIn_eq_nil hlacks
  rw [horder, requestsIn_append, hnone, List.append_nil] at hasked
  exact .after awaited hearlier horder hnone hasked

/-- An order asks for what it should. -/
theorem asks_of_run (hnative : native s.gateway.cloud = true)
    (hrun : (provision ctx o).run s = (out, s'))
    (hevents : s'.world.journal = events ++ s.world.journal) : Asks ctx o s out events := by
  rcases hcreate : (requestCreate ctx o.place o.template).run s with ⟨disk | f | _, s₁⟩
  · have hcreating := lacks_tags_requestCreate ctx o s
    rw [hcreate] at hcreating
    have hcloud : s₁.gateway.cloud = s.gateway.cloud := hcreating.progress.cloud
    rcases hsettle : (settle ctx disk.id o.template o.deadline).run s₁ with ⟨settled, s₂⟩
    have hcreated := created_once hnative hcreate hsettle hrun hevents
    cases settles (hcloud ▸ hnative) hsettle with
    | unnamed unfinished same =>
      have hrest : Grows (Event.Within (Deed.Lacks Request.tags)) s₂.world.journal
          s'.world.journal := grows_of_settled (fun _ => rfl) (fun _ => rfl) hcreate hsettle hrun
      have hsame := same.trans (requestsIn_of_grows hcreating.journal)
      refine ⟨.inr hcreated, .inl ?_, ?_⟩
      · exact requestsIn_events hevents ((requestsIn_of_grows hrest).trans hsame)
      · rintro v rfl
        exact absurd (settled_of_returned hcreate hsettle hrun) (unfinished ())
    | named awaited before after asked =>
      have hnamed := named_once hcreate hsettle hrun hevents awaited before after asked
      refine ⟨.inr hcreated, .inr ⟨disk, s₁, hcreate, hnamed⟩, ?_⟩
      rintro v rfl
      cases settled_of_returned hcreate hsettle hrun
      exact ⟨disk, s₁, hcreate, hcreated, hnamed, ordered_of_returned hcreate hsettle hrun⟩
  · exact asks_refused hnative hcreate hrun hevents
  · exact absurd (congrArg Prod.fst hcreate) (ends_requestCreate _ _ s)

end Asks

/-! ### What is ordered -/

/-- What is between two whole numbers is a number, of a size between them. -/
theorem between_of_atMost {v : Value} (hleast : (Value.int least).atMost? v = some true)
    (hmost : v.atMost? (.int most) = some true) :
    ∃ q : Rat, v.number? = some (.exact q) ∧ (least : Rat) ≤ q ∧ q ≤ most := by
  rw [Value.atMost?_int_left] at hleast
  rw [Value.atMost?_int_right] at hmost
  cases hnumber : v.number? with
  | none =>
    rw [hnumber] at hleast
    cases hleast
  | some m =>
    rw [hnumber, Option.map_some, Option.some.injEq] at hleast hmost
    cases m with
    | exact q =>
      simp only [Number.atMost, Number.less, Number.equal, Bool.or_eq_true, decide_eq_true_eq,
        beq_iff_eq] at hleast hmost
      exact ⟨q, rfl, le_of_lt_or_eq hleast, le_of_lt_or_eq hmost⟩
    | infinite negative =>
      cases negative with
      | true => cases hleast
      | false => cases hmost
    | nan => cases hleast

theorem atMost?_of_atMost {a b : Value} {r : Bool} (h : atMost a b = .ok r) :
    a.atMost? b = some r := by
  unfold atMost at h
  split at h
  · rename_i hr
    rw [hr, Except.ok.inj h]
  · cases h

/-- A size that passes its check is between the bounds. -/
theorem between_of_checkSize {settings : Settings} (hleast : settings.minSize = .int least)
    (hmost : settings.maxSize = .int most) {size : Value} (h : checkSize settings size = .ok ()) :
    ∃ q : Rat, size.number? = some (.exact q) ∧ (least : Rat) ≤ q ∧ q ≤ most := by
  have hfits : fits settings size = .ok true := by
    unfold checkSize at h
    rcases hfits : fits settings size with f | _ | _
    · rw [hfits] at h
      cases h
    · rw [hfits, hleast, hmost] at h
      cases h
    · rfl
  unfold fits at hfits
  split at hfits
  · cases hfits
  · split at hfits
    · rename_i hless
      rw [hleast] at hless
      rw [hmost] at hfits
      exact between_of_atMost (atMost?_of_atMost hless) (atMost?_of_atMost hfits)
    · rename_i hnot
      exact absurd hfits hnot

/-- What an order is for: a size between the bounds, and a place, which is the given one if there is
one. -/
structure Order.Keeps (o : Order) (least most : Int) (location : Value) : Prop where
  size : ∃ q : Rat, o.template.size.number? = some (.exact q) ∧ (least : Rat) ≤ q ∧ q ≤ most
  whole : o.template.Valid → ∃ n : Int, o.template.size = .int n ∧
    o.template.size.display = toString n ∧ least ≤ n ∧ n ≤ most
  place : o.place.truthy = true
  chosen : o.place = if location.truthy then location else o.template.location

/-- Every order that is made keeps to the bounds. -/
theorem keeps_of_order {settings : Settings} (hleast : settings.minSize = .int least)
    (hmost : settings.maxSize = .int most) {c : Cloud} {now : Float} {template timeout : Value}
    (h : order settings c now template location timeout = .ok o) : o.Keeps least most location := by
  obtain ⟨-, -, hplace, hsize⟩ := order_eq_ok_iff.1 h
  obtain ⟨q, hnumber, hbounds⟩ := between_of_checkSize hleast hmost hsize
  refine ⟨⟨q, hnumber, hbounds⟩, fun hvalid => ?_, ?_, ?_⟩
  · obtain ⟨n, hn⟩ := hvalid.size
    rw [hn] at hnumber
    cases hnumber
    refine ⟨n, hn, by rw [hn]; rfl, ?_⟩
    exact_mod_cast hbounds
  · unfold placeFor at hplace
    dsimp only at hplace
    split at hplace
    · rename_i htruthy
      rwa [← Except.ok.inj hplace]
    · cases hplace
  · unfold placeFor at hplace
    dsimp only at hplace
    split at hplace
    · rw [← Except.ok.inj hplace]
      rfl
    · cases hplace

/-- **Create requests are in bounds, and naming comes last**, whatever the cloud does. A creation
whose order does not pass the checks asks for nothing. Any other asks at most once for a volume, of
a size between the bounds and at the place that is given or that of the template, tags at most one
volume, once, which is the one that was handed back, after it was seen available ahead of the
deadline, and has done both if it returns. -/
theorem create_requests (ctx : Context σ) (s : Session σ)
    (hamazon : s.gateway.cloud.cls = .amazon) (hleast : ctx.settings.minSize = .int least)
    (hmost : ctx.settings.maxSize = .int most) (template location timeout : Value) :
    ∃ out s' events, (create ctx template location timeout).run s = (out, s') ∧
      s'.world.journal = events ++ s.world.journal ∧
      ((∃ f, order ctx.settings s.gateway.cloud (ctx.backend.now s.world.cloud) template location
          timeout = .error f ∧ out = .failed f ∧ events = []) ∨
        ∃ o, order ctx.settings s.gateway.cloud (ctx.backend.now s.world.cloud) template location
            timeout = .ok o ∧ o.Keeps least most location ∧ Asks ctx o s out events) := by
  cases horder : order ctx.settings s.gateway.cloud (ctx.backend.now s.world.cloud) template
      location timeout with
  | error f =>
    refine ⟨.failed f, s, [], ?_, rfl, .inl ⟨f, rfl, rfl, rfl⟩⟩
    unfold create
    rw [Run.run_bind_done (run_current s), Run.run_bind_done (run_now ctx s), horder]
    rfl
  | ok o =>
    have hgrows := (within_provision ctx o s).journal
    rcases hrun : (provision ctx o).run s with ⟨out, s'⟩
    rw [hrun] at hgrows
    obtain ⟨events, hevents, -⟩ := hgrows
    have hnative : native s.gateway.cloud = true := by simp [native, hamazon]
    exact ⟨out, s', events, (run_create horder).trans hrun, hevents,
      .inr ⟨o, rfl, keeps_of_order hleast hmost horder, asks_of_run hnative hrun hevents⟩⟩

/-- A volume is asked for once and named once, under the settings that hold when nothing is set. -/
theorem create_requests_pantry :
    Sandbox.account.cls = .amazon ∧ Sandbox.plainSettings.minSize = .int 1 ∧
      Sandbox.plainSettings.maxSize = .int 1024 ∧
      ∃ v s' events, (create Sandbox.plainContext (.text "small") .null .null).run
          (Sandbox.start pantry) = (.done v, s') ∧ s'.world.journal = events ++ [] ∧
        requestsIn Request.creates events = [.submitCreate "5" (.text "z1") none] ∧
        ∃ id ms, requestsIn Request.tags events =
          [(orderOf Sandbox.small).naming Sandbox.plainContext id ms] := by
  have hleast : Sandbox.plainContext.settings.minSize = .int 1 := rfl
  have hmost : Sandbox.plainContext.settings.maxSize = .int 1024 := rfl
  obtain ⟨out, s', events, hrun, hevents, hasks⟩ := create_requests Sandbox.plainContext
    (Sandbox.start pantry) rfl hleast hmost (.text "small") .null .null
  have hdone : ((create Sandbox.plainContext (.text "small") .null .null).run
      (Sandbox.start pantry)).1.gives (fun _ => true) = true := by decide +kernel
  obtain ⟨v, hv, -⟩ := Outcome.done_of_gives hdone
  cases hrun.symm.trans hv
  rcases hasks with ⟨f, -, hfailed, -⟩ | ⟨o, horder, -, hasks⟩
  · cases hfailed
  · have hordered : order Sandbox.plainContext.settings Sandbox.account 0 (.text "small") .null
        .null = .ok (orderOf Sandbox.small) := rfl
    cases hordered.symm.trans horder
    obtain ⟨disk, s₁, -, hcreated, hnamed, -⟩ := hasks.returned v rfl
    obtain ⟨ms, htagged⟩ := hnamed.requestsIn
    exact ⟨rfl, hleast, hmost, v, _, events, hv, hevents, hcreated, disk.id, ms, htagged⟩

/-- A cloud that hands back an id in bytes. -/
def bytewise : Sandbox := { pantry with nextIds := [.bytes [118]] }

/-- The volume is returned with the text that its id spells, which is not the id. -/
theorem create_spells_id :
    ∃ disk s₁ v s', (requestCreate Sandbox.plainContext (.text "z1") Sandbox.small).run
          (Sandbox.start bytewise) = (.done disk, s₁) ∧ disk.id = .bytes [118] ∧
        (create Sandbox.plainContext (.text "small") .null .null).run (Sandbox.start bytewise) =
          (.done v, s') ∧ v.id = .text "v" ∧ v.id ≠ disk.id := by
  have hwritable : Sandbox.small.size.writable = true := by decide +kernel
  obtain ⟨disk, s₁, hcreate, hid⟩ : ∃ disk s₁, (requestCreate Sandbox.plainContext (.text "z1")
      Sandbox.small).run (Sandbox.start bytewise) = (.done disk, s₁) ∧ disk.id = .bytes [118] := by
    rw [run_requestCreate_native rfl hwritable]
    exact ⟨_, _, rfl, rfl⟩
  have hdone : ((create Sandbox.plainContext (.text "small") .null .null).run
      (Sandbox.start bytewise)).1.gives (·.id.equal (.text "v")) = true := by decide +kernel
  obtain ⟨v, hrun, hv⟩ := Outcome.done_of_gives hdone
  have hv := Value.equal_text_iff.1 hv
  refine ⟨disk, s₁, v, _, hcreate, hid, hrun, hv, ?_⟩
  rw [hv, hid]
  exact nofun

end Storage

end BlockStorage
