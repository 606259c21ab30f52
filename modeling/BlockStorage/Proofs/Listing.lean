import BlockStorage.Proofs.SingleChange
import BlockStorage.Proofs.SteadyCloud
import Mathlib.Data.List.Forall2

/-!
What a listing of volumes tells.

A listing tells of the first volume of each id (`firsts`), and of a volume it tells what the cloud
says of it and the name that its tags give (`told`). On a cloud with tags these are asked for in
turn, and whatever is answered the listing goes on: an answer decides a name and nothing else
(`run_calling_native`, `run_toVolume_called`). So a listing is followed volume by volume
(`run_toVolumes_visited`), and comes to one name after the other (`tell`).

Two clouds that differ in what they answer about the tags of one id (`Backend.retag`) are asked the
same and come to the same, and what is told of them differs in names of that id at most
(`tell_retag`).

Statement: that is what a listing comes to on every cloud, whose answers about tags may be tables,
nothing or faults (`told_of_answered`).
-/
namespace BlockStorage

/-- A cloud whose answers about the tags of one id are other ones. -/
def Backend.retag {σ : Type} (b : Backend σ) (id : Value)
    (answer : Connection → Value → σ → Except Fault TagSheet) : Backend σ where
  now := b.now
  sleep := b.sleep
  connect := b.connect
  respond via r w :=
    match r with
    | .describeTags v =>
      if v.equal id then (answer via v w, (b.respond via (.describeTags v) w).2)
      else b.respond via (.describeTags v) w
    | r => b.respond via r w

namespace Storage

open Session

/-! ### What is told -/

/-- The volumes of a list that are the first of their id. -/
def firsts (disks : List Disk) : List Disk := disks.eraseDupsBy fun d e => e.id.equal d.id

/-- The entries of a volume's extra. -/
def extraOf (d : Disk) : Fields :=
  match d.extra with
  | .dict es => es
  | _ => []

/-- The name that tags give: the value of the tag, empty if that is missing or counts as false, or
if the tags cannot be read. -/
def nameIn (key : Value) (answer : Except Fault TagSheet) : Value :=
  match answer with
  | .ok sheet => ((Tags.find? key sheet.told).getD .null).orElse (.text "")
  | .error _ => .text ""

/-- A volume by its name. -/
def told (place : String) (name : Value) (d : Disk) : Volume where
  id := Record.takeText d.id
  name := Record.takeText name
  size :=
    match d.size.toInteger with
    | .ok n => .int n
    | .error _ => .null
  location := Record.takeText (Record.get (extraOf d) place)
  status :=
    match d.state with
    | .text s => ((Status.states.lookup s).getD .unknown).toValue
    | _ => Status.unknown.toValue
  extra := .dict ((extraOf d).filter fun e => isScalar e.2)

/-- The volumes by the names that the cloud's answers give, asked for one after the other, and what
becomes of the cloud. -/
def tell {σ : Type} (b : Backend σ) (via : Connection) (key : Value) :
    List Disk → σ → List Volume × σ
  | [], w => ([], w)
  | d :: rest, w =>
    let (answer, w₁) := b.respond via (.describeTags d.id) w
    let (volumes, w₂) := tell b via key rest w₁
    (told "zone" (nameIn key answer) d :: volumes, w₂)

/-- A volume that a listing can tell of: its size is a number, a text or missing, its state can be
looked up, and its extra is a table or counts as false. -/
structure Listable (d : Disk) : Prop where
  size : d.size = .null ∨ (∃ n, d.size = .int n) ∨ ∃ text, d.size = .text text
  state : d.state.hashable = true
  extra : d.extra.truthy = false ∨ ∃ entries, d.extra = .dict entries

/-! ### First volumes -/

theorem firsts_cons (d : Disk) (rest : List Disk) :
    firsts (d :: rest) = d :: firsts (rest.filter fun e => !d.id.equal e.id) := by
  simp [firsts, List.eraseDupsBy_cons]

/-- A list is gone through from its first volume to those of other ids. -/
theorem firsts_induction {motive : List Disk → Prop} (nil : motive [])
    (cons : ∀ d rest, motive (rest.filter fun e => !d.id.equal e.id) → motive (d :: rest))
    (disks : List Disk) : motive disks := by
  induction h : disks.length using Nat.strongRecOn generalizing disks with
  | ind n ih =>
    cases disks with
    | nil => exact nil
    | cons d rest =>
      have hshorter := List.length_filter_le (fun e : Disk => !d.id.equal e.id) rest
      refine cons d rest (ih _ ?_ _ rfl)
      rw [← h, List.length_cons]
      omega

theorem firsts_sublist (disks : List Disk) : (firsts disks).Sublist disks := by
  induction disks using firsts_induction with
  | nil => exact .refl _
  | cons d rest ih =>
    rw [firsts_cons]
    exact (ih.trans List.filter_sublist).cons_cons d

/-- No two of the first volumes have one id. -/
theorem pairwise_firsts (disks : List Disk) :
    (firsts disks).Pairwise fun d e => d.id.equal e.id = false := by
  induction disks using firsts_induction with
  | nil => exact .nil
  | cons d rest ih =>
    rw [firsts_cons]
    refine .cons (fun e he => ?_) ih
    have hkept := List.mem_filter.1 ((firsts_sublist _).subset he)
    simpa using hkept.2

/-- A volume is a first one if none before it has its id. -/
theorem mem_firsts {before after : List Disk} {d : Disk}
    (h : ∀ e ∈ before, e.id.equal d.id = false) : d ∈ firsts (before ++ d :: after) := by
  induction before using firsts_induction generalizing after with
  | nil =>
    rw [List.nil_append, firsts_cons]
    exact List.mem_cons_self
  | cons e rest ih =>
    obtain ⟨he, hrest⟩ := List.forall_mem_cons.1 h
    have hkept : (rest ++ d :: after).filter (fun f => !e.id.equal f.id) =
        rest.filter (fun f => !e.id.equal f.id) ++
          d :: after.filter (fun f => !e.id.equal f.id) := by
      rw [List.filter_append, List.filter_cons_of_pos (by simp [he])]
    rw [List.cons_append, firsts_cons, hkept]
    exact List.mem_cons_of_mem e (ih fun f hf => hrest f (List.mem_filter.1 hf).1)

/-- Every volume is a first one, or there is one of its id. -/
theorem exists_first {disks : List Disk} {d : Disk} (h : d ∈ disks) :
    d ∈ firsts disks ∨ ∃ e ∈ firsts disks, e.id.equal d.id = true := by
  induction disks using firsts_induction with
  | nil => cases h
  | cons f rest ih =>
    rw [firsts_cons]
    rcases List.mem_cons.1 h with rfl | hrest
    · exact .inl List.mem_cons_self
    · by_cases hsame : f.id.equal d.id = true
      · exact .inr ⟨f, List.mem_cons_self, hsame⟩
      · have hkept : d ∈ rest.filter fun e => !f.id.equal e.id :=
          List.mem_filter.2 ⟨hrest, by simpa using hsame⟩
        rcases ih hkept with hfirst | ⟨e, he, hsame⟩
        · exact .inl (List.mem_cons_of_mem f hfirst)
        · exact .inr ⟨e, List.mem_cons_of_mem f he, hsame⟩

/-! ### One volume -/

variable {σ : Type} {ctx : Context σ} {s s₁ : Session σ} {via : Connection} {d : Disk}

theorem sizeOf_listable (hd : Listable d) (place : String) (name : Value) :
    sizeOf d.size = .ok (told place name d).size := by
  rcases hd.size with h | ⟨n, h⟩ | ⟨text, h⟩
  · simp only [told, h]
    rfl
  · simp only [told, h]
    rfl
  · simp only [told, sizeOf, h, Value.toInteger]
    cases Text.Integer.read text.toList <;> rfl

theorem ofState_listable (hd : Listable d) (place : String) (name : Value) :
    ∃ st, Status.ofState d.state = .ok st ∧ st.toValue = (told place name d).status := by
  have hstate := hd.state
  simp only [told, Status.ofState]
  cases h : d.state with
  | text t => exact ⟨_, rfl, rfl⟩
  | list vs => rw [h] at hstate; cases hstate
  | dict es => rw [h] at hstate; cases hstate
  | _ => exact ⟨_, rfl, rfl⟩

theorem extra_listable (hd : Listable d) : d.extra.orElse (.dict []) = .dict (extraOf d) := by
  rcases hd.extra with h | ⟨es, h⟩
  · rw [Value.orElse, if_neg (by simp [h]), extraOf]
    cases hextra : d.extra with
    | dict es =>
      rw [hextra] at h
      cases es with
      | nil => rfl
      | cons e rest => cases h
    | _ => rfl
  · rw [extraOf, h]
    exact Value.orElse_dict_self es

/-- What a listing calls a volume: what tells nothing of its name leaves it without one. -/
def calling (ctx : Context σ) (id : Value) : Run (Session σ) Value :=
  (volumeName ctx id).catching fun f => if f.isOwn then pure (.text "") else Run.fail f

/-- A volume is told of by what it is called. -/
theorem run_toVolume_called (hd : Listable d) {name : Value}
    (hname : (calling ctx d.id).run s = (.done name, s₁)) :
    (toVolume ctx d).run s =
      (.done (told (if native s₁.gateway.cloud then "zone" else "location") name d), s₁) := by
  obtain ⟨st, hst, hstatus⟩ :=
    ofState_listable hd (if native s₁.gateway.cloud then "zone" else "location") name
  have hsize := sizeOf_listable hd (if native s₁.gateway.cloud then "zone" else "location") name
  unfold calling at hname
  unfold toVolume
  simp only [hsize, hst, extra_listable hd, Record.copyEntries, Record.entries, Run.ofExcept_ok,
    pure_bind]
  rw [Run.run_bind_done hname, Run.run_bind_done (run_current s₁), hstatus]
  rfl

/-- Where the tags cannot be read the volume has no name, whatever the reason. -/
theorem run_calling_failed {id : Value} {f : Fault}
    (hquery : (queryTags ctx id).run s = (.failed f, s₁)) :
    (calling ctx id).run s = (.done (.text ""), s₁) := by
  have hfailed : (volumeName ctx id).run s =
      (.failed (if f.isOwn then f else tagFault id f), s₁) :=
    Run.run_bind_failed (Run.run_wrapForeign_failed hquery)
  have hown : (if f.isOwn then f else tagFault id f).isOwn = true := by
    split
    · assumption
    · rfl
  unfold calling
  rw [Run.run_catching]
  simp only [hfailed, hown, if_true]
  rfl

/-- What asking for the tags of a volume leaves behind. -/
def asked (ctx : Context σ) (via : Connection) (id : Value) (s : Session σ) : Session σ :=
  { s with world := { s.world with
    cloud := (ctx.backend.respond via (.describeTags id) s.world.cloud).2
    journal := .requested via (.describeTags id) :: s.world.journal } }

/-- Tags that a cloud answers with are a table, or count as false. -/
def Mapped (answer : Except Fault TagSheet) : Prop := ∀ sheet, answer = .ok sheet → sheet.Plain

theorem run_queryTags_native (ctx : Context σ) {id : Value} (hnative : native s.gateway.cloud = true)
    (hvia : s.gateway.storage.Holds via) (hserves : via.serves (.describeTags id) = true) :
    (queryTags ctx id).run s =
      (.ofExcept (ctx.backend.respond via (.describeTags id) s.world.cloud).1,
        asked ctx via id s) := by
  unfold queryTags
  rw [Run.run_bind_done (run_current s)]
  simp only [hnative, if_true]
  rw [run_askStorage_held hvia, request, run_inWorld, World.run_request hserves]
  rfl

/-- Where there are tags, the answer decides the name, and whatever is answered there is one. -/
theorem run_calling_native {id : Value} (hkey : ctx.settings.nameTag.hashable = true)
    (hnative : native s.gateway.cloud = true) (hvia : s.gateway.storage.Holds via)
    (hserves : via.serves (.describeTags id) = true)
    (hmapped : Mapped (ctx.backend.respond via (.describeTags id) s.world.cloud).1) :
    (calling ctx id).run s =
      (.done (nameIn ctx.settings.nameTag
        (ctx.backend.respond via (.describeTags id) s.world.cloud).1), asked ctx via id s) := by
  have hquery := run_queryTags_native ctx hnative hvia hserves
  cases hanswer : (ctx.backend.respond via (.describeTags id) s.world.cloud).1 with
  | error f =>
    rw [hanswer] at hquery
    exact run_calling_failed hquery
  | ok sheet =>
    have hplain := hmapped sheet hanswer
    rw [hanswer] at hquery
    have hname : (volumeName ctx id).run s =
        (.done (nameIn ctx.settings.nameTag (.ok sheet)), asked ctx via id s) := by
      unfold volumeName
      rw [Run.run_bind_done (Run.run_wrapForeign_done hquery), tagOf_plain hplain hkey]
      rfl
    rw [calling, Run.run_catching, hname]

/-- Where there are none, no name is known and nothing is asked. -/
theorem run_calling_other (ctx : Context σ) (id : Value) (hnative : native s.gateway.cloud = false) :
    (calling ctx id).run s = (.done (.text ""), s) := by
  have hquery : ∃ f, (queryTags ctx id).run s = (.failed f, s) := by
    unfold queryTags
    rw [Run.run_bind_done (run_current s)]
    simp only [hnative, Bool.false_eq_true, if_false]
    exact ⟨_, rfl⟩
  obtain ⟨f, hquery⟩ := hquery
  exact run_calling_failed hquery

/-! ### All volumes -/

/-- The volumes of a list that are told of one after the other, each by a step of its own. -/
def visited (step : Disk → Session σ → Volume × Session σ) :
    List Disk → Session σ → List Volume × Session σ
  | [], s => ([], s)
  | d :: rest, s =>
    let (v, s₁) := step d s
    let (volumes, s₂) := visited step rest s₁
    (v :: volumes, s₂)

/-- The volumes of ids that were not seen before. -/
def unseen (seen : List Value) (disks : List Disk) : List Disk :=
  disks.filter fun d => !Value.mem d.id seen

theorem firsts_unseen_cons (seen : List Value) (d : Disk) (rest : List Disk) :
    firsts (unseen seen (d :: rest)) =
      if Value.mem d.id seen then firsts (unseen seen rest)
      else d :: firsts (unseen (d.id :: seen) rest) := by
  unfold unseen
  by_cases hseen : Value.mem d.id seen = true
  · rw [List.filter_cons_of_neg (by simp [hseen]), if_pos hseen]
  · rw [List.filter_cons_of_pos (by simp [hseen]), if_neg hseen, firsts_cons, List.filter_filter]
    congr 3
    funext e
    simp [Value.mem]

/-- Every volume is told of by its step, if it is the first of its id. By induction on the volumes,
with the ids that were seen before. -/
theorem run_toVolumes_visited {Good : Session σ → Prop}
    (step : Disk → Session σ → Volume × Session σ)
    (hstep : ∀ d s, Listable d → Good s →
      (toVolume ctx d).run s = (.done (step d s).1, (step d s).2) ∧ Good (step d s).2)
    {disks : List Disk} (hids : ∀ d ∈ disks, d.id.hashable = true) (seen : List Value)
    (hfirst : ∀ d ∈ firsts (unseen seen disks), Listable d) (hs : Good s) :
    (toVolumes ctx seen disks).run s =
      (.done (visited step (firsts (unseen seen disks)) s).1,
        (visited step (firsts (unseen seen disks)) s).2) := by
  induction disks generalizing seen s with
  | nil => rfl
  | cons d rest ih =>
    have hrest := fun e he => hids e (List.mem_cons_of_mem d he)
    unfold toVolumes
    rw [firsts_unseen_cons] at hfirst ⊢
    rw [if_neg (by simp [hids d List.mem_cons_self])]
    by_cases hseen : Value.mem d.id seen = true
    · simp only [hseen, if_true] at hfirst ⊢
      exact ih hrest seen hfirst hs
    · simp only [if_neg hseen] at hfirst ⊢
      obtain ⟨hd, hfirst⟩ := List.forall_mem_cons.1 hfirst
      obtain ⟨htold, hs₁⟩ := hstep d s hd hs
      rw [Run.run_bind_done htold, Run.run_bind_done (ih hrest (d.id :: seen) hfirst hs₁)]
      rfl

/-- The step on a cloud with tags: the answer about them decides the name. -/
def tagged (ctx : Context σ) (via : Connection) (d : Disk) (s : Session σ) : Volume × Session σ :=
  (told "zone" (nameIn ctx.settings.nameTag
    (ctx.backend.respond via (.describeTags d.id) s.world.cloud).1) d, asked ctx via d.id s)

/-- What a listing of volumes leaves behind: their tags were asked for. -/
def listed (ctx : Context σ) (via : Connection) (disks : List Disk) (s : Session σ) : Session σ :=
  { s with world := { s.world with
    cloud := (tell ctx.backend via ctx.settings.nameTag disks s.world.cloud).2
    journal := (disks.map fun d => .requested via (.describeTags d.id)).reverse ++
      s.world.journal } }

theorem visited_tagged (ctx : Context σ) (via : Connection) (disks : List Disk) (s : Session σ) :
    visited (tagged ctx via) disks s =
      ((tell ctx.backend via ctx.settings.nameTag disks s.world.cloud).1,
        listed ctx via disks s) := by
  induction disks generalizing s with
  | nil => rfl
  | cons d rest ih =>
    simp only [visited, tagged, ih]
    simp [tell, listed, asked]

theorem visited_untagged (disks : List Disk) (s : Session σ) :
    visited (fun d s => (told "location" (.text "") d, s)) disks s =
      (disks.map (told "location" (.text "")), s) := by
  induction disks with
  | nil => rfl
  | cons d rest ih => simp only [visited, ih, List.map_cons]

/-! ### The listing -/

/-- What was listed was asked for through a connection, which can ask for tags as well. -/
theorem held_of_listDisks {disks : List Disk}
    (h : (askStorage ctx .listDisks).run s = (.done disks, s₁)) :
    ∃ via, s₁.gateway.storage.Holds via ∧ ∀ id, via.serves (.describeTags id) = true := by
  obtain ⟨via, s', hvia, hrequest⟩ := Run.done_of_run_bind h
  have hheld := storageConnection_done hvia
  rw [request, run_inWorld] at hrequest
  by_cases hserves : via.serves .listDisks = true
  · refine ⟨via, ?_, fun _ => hserves⟩
    rw [← show _ = s₁ from congrArg Prod.snd hrequest]
    exact hheld
  · rw [World.run_request_refused hserves] at hrequest
    cases hrequest

theorem unseen_nil (disks : List Disk) : unseen [] disks = disks :=
  List.filter_eq_self.2 fun _ _ => rfl

/-- A listing is answered with volumes that can be told of, and their tags can be read or not. -/
structure Answered (ctx : Context σ) (s : Session σ) (disks : List Disk) (s₁ : Session σ) : Prop where
  answered : (askStorage ctx .listDisks).run s = (.done disks, s₁)
  ids : ∀ d ∈ disks, d.id.hashable = true
  first : ∀ d ∈ firsts disks, Listable d
  key : ctx.settings.nameTag.hashable = true
  tags : ∀ via id w, Mapped (ctx.backend.respond via (.describeTags id) w).1

/-- Where there are tags, those of every volume are asked for and decide its name. -/
theorem run_listAll_native {disks : List Disk} (h : Answered ctx s disks s₁)
    (hnative : native s₁.gateway.cloud = true) (hvia : s₁.gateway.storage.Holds via)
    (hserves : ∀ id, via.serves (.describeTags id) = true) :
    (listAll ctx).run s =
      (.done (tell ctx.backend via ctx.settings.nameTag (firsts disks) s₁.world.cloud).1,
        listed ctx via (firsts disks) s₁) := by
  have hstep : ∀ d s, Listable d → s.gateway = s₁.gateway →
      (toVolume ctx d).run s = (.done (tagged ctx via d s).1, (tagged ctx via d s).2) ∧
        (tagged ctx via d s).2.gateway = s₁.gateway := by
    intro d s hd hs
    have hcalled := run_calling_native h.key (hs ▸ hnative) (hs ▸ hvia) (hserves d.id)
      (h.tags via d.id s.world.cloud)
    have htold := run_toVolume_called hd hcalled
    rw [show native (asked ctx via d.id s).gateway.cloud = true from hs ▸ hnative,
      if_pos rfl] at htold
    exact ⟨htold, hs⟩
  have hvisited := run_toVolumes_visited _ hstep h.ids [] ((unseen_nil disks).symm ▸ h.first) rfl
  rw [unseen_nil, visited_tagged] at hvisited
  exact run_listAll_done ((run_describeDisks_all s).trans h.answered) hvisited

/-- Where there are none, no volume has a name and nothing more is asked. -/
theorem run_listAll_other {disks : List Disk} (h : Answered ctx s disks s₁)
    (hother : native s₁.gateway.cloud = false) :
    (listAll ctx).run s = (.done ((firsts disks).map (told "location" (.text ""))), s₁) := by
  have hstep : ∀ d s, Listable d → s.gateway = s₁.gateway →
      (toVolume ctx d).run s = (.done (told "location" (.text "") d), s) ∧
        s.gateway = s₁.gateway := by
    intro d s hd hs
    have hcloud : native s.gateway.cloud = false := hs ▸ hother
    have htold := run_toVolume_called hd (run_calling_other ctx d.id hcloud)
    rw [hcloud, if_neg Bool.false_ne_true] at htold
    exact ⟨htold, hs⟩
  have hvisited := run_toVolumes_visited (fun d s => (told "location" (.text "") d, s)) hstep
    h.ids [] ((unseen_nil disks).symm ▸ h.first) rfl
  rw [unseen_nil, visited_untagged] at hvisited
  exact run_listAll_done ((run_describeDisks_all s).trans h.answered) hvisited

/-! ### Other answers for one volume -/

/-- Two lists that tell of the same volumes, but that those of an id may have other names. -/
inductive Renamed (id : Value) : List Disk → List Volume → List Volume → Prop
  | nil : Renamed id [] [] []
  | same {d : Disk} {disks : List Disk} {v : Volume} {vs ws : List Volume} :
      Renamed id disks vs ws → Renamed id (d :: disks) (v :: vs) (v :: ws)
  | renamed {d : Disk} {disks : List Disk} {v : Volume} {vs ws : List Volume} (name : Value) :
      d.id.equal id = true → Renamed id disks vs ws →
        Renamed id (d :: disks) (v :: vs) ({ v with name } :: ws)

theorem renamed_self (id : Value) (f : Disk → Volume) (disks : List Disk) :
    Renamed id disks (disks.map f) (disks.map f) := by
  induction disks with
  | nil => exact .nil
  | cons d rest ih => exact .same ih

/-- Other answers for an id come after the same requests and lead to the same cloud. -/
theorem tell_retag (b : Backend σ) (id : Value)
    (answer : Connection → Value → σ → Except Fault TagSheet) (via : Connection) (key : Value)
    (disks : List Disk) (w : σ) :
    Renamed id disks (tell b via key disks w).1 (tell (b.retag id answer) via key disks w).1 ∧
      (tell (b.retag id answer) via key disks w).2 = (tell b via key disks w).2 := by
  induction disks generalizing w with
  | nil => exact ⟨.nil, rfl⟩
  | cons d rest ih =>
    obtain ⟨hrest, hcloud⟩ := ih (b.respond via (.describeTags d.id) w).2
    by_cases hd : d.id.equal id = true
    · simp only [tell, Backend.retag, hd, if_true]
      exact ⟨.renamed _ hd hrest, hcloud⟩
    · simp only [tell, Backend.retag, if_neg hd]
      exact ⟨.same hrest, hcloud⟩

/-- Other answers for an id are tags that can be read or not, if they and the old ones are. -/
theorem mapped_retag {b : Backend σ} (h : ∀ via id w, Mapped (b.respond via (.describeTags id) w).1)
    {answer : Connection → Value → σ → Except Fault TagSheet}
    (hanswer : ∀ via v w, Mapped (answer via v w)) (id : Value) (via : Connection) (v : Value)
    (w : σ) : Mapped ((b.retag id answer).respond via (.describeTags v) w).1 := by
  by_cases hv : v.equal id = true
  · simp only [Backend.retag, hv, if_true]
    exact hanswer via v w
  · simp only [Backend.retag, if_neg hv]
    exact h via v w

theorem Answered.retag {disks : List Disk} (h : Answered ctx s disks s₁) (id : Value)
    {answer : Connection → Value → σ → Except Fault TagSheet}
    (hanswer : ∀ via v w, Mapped (answer via v w)) :
    Answered { ctx with backend := ctx.backend.retag id answer } s disks s₁ where
  answered := h.answered
  ids := h.ids
  first := h.first
  key := h.key
  tags := mapped_retag h.tags hanswer id

/-- What a listing of volumes comes to. -/
structure Told (ctx : Context σ) (s : Session σ) (disks : List Disk) (s₁ : Session σ) : Prop where
  /-- The volumes that are told of are in the order in which they are listed. -/
  ordered : (firsts disks).Sublist disks
  /-- No two of them have one id. -/
  distinct : (firsts disks).Pairwise fun d e => d.id.equal e.id = false
  /-- They have the ids of all volumes. -/
  complete : ∀ d ∈ disks, d ∈ firsts disks ∨ ∃ e ∈ firsts disks, e.id.equal d.id = true
  /-- Each is the first one of its id. -/
  first : ∀ before d after, disks = before ++ d :: after →
    (∀ e ∈ before, e.id.equal d.id = false) → d ∈ firsts disks
  /-- On a cloud with tags they are asked for once for each of them, and each is told of by the name
  that the answer gives. -/
  native : native s₁.gateway.cloud = true → ∃ via, s₁.gateway.storage.Holds via ∧
    (listAll ctx).run s =
      (.done (tell ctx.backend via ctx.settings.nameTag (firsts disks) s₁.world.cloud).1,
        listed ctx via (firsts disks) s₁)
  /-- On another cloud nothing more is asked, and each is told of without a name. -/
  other : Storage.native s₁.gateway.cloud = false →
    (listAll ctx).run s = (.done ((firsts disks).map (told "location" (.text ""))), s₁)
  /-- Other answers about the tags of an id, tags or faults, change names of that id at most. -/
  isolated : ∀ id answer, (∀ via v w, Mapped (answer via v w)) →
    ∃ volumes renamed s', (listAll ctx).run s = (.done volumes, s') ∧
      (listAll { ctx with backend := ctx.backend.retag id answer }).run s = (.done renamed, s') ∧
      Renamed id (firsts disks) volumes renamed

/-- **A listing tells of the first volume of each id**, by the name that its tags give; whatever is
answered about the tags, the listing goes on, and no other volume is told of in another way. -/
theorem told_of_answered {disks : List Disk} (h : Answered ctx s disks s₁) : Told ctx s disks s₁ where
  ordered := firsts_sublist disks
  distinct := pairwise_firsts disks
  complete _ hd := exists_first hd
  first before d after hdisks hbefore := hdisks ▸ mem_firsts hbefore
  native hnative := by
    obtain ⟨via, hvia, hserves⟩ := held_of_listDisks h.answered
    exact ⟨via, hvia, run_listAll_native h hnative hvia hserves⟩
  other hother := run_listAll_other h hother
  isolated id answer hanswer := by
    have hretagged := h.retag id hanswer
    cases hcloud : Storage.native s₁.gateway.cloud with
    | false =>
      exact ⟨_, _, s₁, run_listAll_other h hcloud, run_listAll_other hretagged hcloud,
        renamed_self id _ _⟩
    | true =>
      obtain ⟨via, hvia, hserves⟩ := held_of_listDisks h.answered
      obtain ⟨hrenamed, hsame⟩ :=
        tell_retag ctx.backend id answer via ctx.settings.nameTag (firsts disks) s₁.world.cloud
      have hrun := run_listAll_native hretagged hcloud hvia hserves
      refine ⟨_, _, _, run_listAll_native h hcloud hvia hserves, ?_, hrenamed⟩
      rw [hrun]
      unfold listed
      rw [hsame]

/-! ### A cloud with a named volume -/

/-- A cloud with some volumes, one of which has a name. The tags of the others cannot be read. -/
def showing (disks : List Disk) (name : Value) : Backend Unit where
  now _ := 0
  sleep _ _ := (.ok (), ())
  connect _ _ := (.ok (), ())
  respond _ r _ := (answer r, ())
where
  answer : (r : Request) → Except Fault r.Answer
    | .listDisks => .ok disks
    | .describeTags id =>
      if id.equal (.text "va") then .ok (.tags [(.text "Name", name)])
      else .error Sandbox.boom
    | _ => .error Sandbox.boom

def showingContext (disks : List Disk) (name : Value) : Context Unit :=
  ⟨showing disks name, Sandbox.plainSettings, Cloud.usual, 10⟩

def showingStart : Session Unit := ⟨⟨(), [], 0⟩, { cloud := Sandbox.account }⟩

/-- Two volumes, one of which is listed twice. -/
def shown : List Disk :=
  [⟨.text "vb", .text "big", .text "odd", .null⟩,
    ⟨.text "va", .text "5", .text "available", .dict [("zone", .text "z1"), ("tags", .list [])]⟩,
    ⟨.text "va", .int 9, .list [], .int 1⟩]

def rooted : Context Unit := showingContext shown (.text "root")

/-- The session in which the tags of these volumes are asked for. -/
def shownSession : Session Unit := ((askStorage rooted .listDisks).run showingStart).2

theorem answered_shown : Answered rooted showingStart shown shownSession where
  answered := rfl
  ids := by
    refine List.forall_mem_cons.2 ⟨rfl, List.forall_mem_cons.2 ⟨rfl, ?_⟩⟩
    exact List.forall_mem_singleton.2 rfl
  first :=
    List.forall_mem_cons.2 ⟨⟨.inr (.inr ⟨_, rfl⟩), rfl, .inl rfl⟩,
      List.forall_mem_singleton.2 ⟨.inr (.inr ⟨_, rfl⟩), rfl, .inr ⟨_, rfl⟩⟩⟩
  key := rfl
  tags via id w sheet h := by
    change (if id.equal (.text "va") then Except.ok (TagSheet.tags _) else .error _) = _ at h
    split at h
    · cases h
      trivial
    · cases h

/-- Both are told of, the one by its name, the other without one. -/
theorem told_of_answered_shown :
    Answered rooted showingStart shown shownSession ∧
    ∃ s', (listAll rooted).run showingStart = (.done
      [⟨.text "vb", .text "", .null, .null, .text "unknown", .dict []⟩,
        ⟨.text "va", .text "root", .int 5, .text "z1", .text "available",
          .dict [("zone", .text "z1")]⟩], s') := by
  obtain ⟨via, -, hrun⟩ := (told_of_answered answered_shown).native rfl
  exact ⟨answered_shown, _, hrun⟩

/-- Volumes that no listing tells of: one has a list for its id, one for its state, and the extra of
one is a number. -/
def untold : List Disk :=
  [⟨.list [], .int 5, .text "available", .null⟩, ⟨.text "va", .int 5, .list [], .null⟩,
    ⟨.text "va", .int 5, .text "available", .int 1⟩]

/-- A listing fails where it cannot tell of a volume, or where the name of the tag cannot be a key,
and the name of a volume is not its tag if that is bytes. -/
theorem listAll_untold :
    (∀ d ∈ untold, ∃ f s', (listAll (showingContext [d] (.text "root"))).run showingStart =
      (.failed f, s') ∧ f.isA .volumeListing = true) ∧
    (∃ f s', (listAll { rooted with settings := { rooted.settings with nameTag := .list [] } }).run
      showingStart = (.failed f, s') ∧ f.isA .volumeListing = true) ∧
    ∃ v s', (listAll (showingContext [⟨.text "va", .null, .null, .null⟩] (.bytes [114]))).run
      showingStart = (.done [v], s') ∧ v.name = .text "r" := by
  refine ⟨?_, ⟨_, _, rfl, rfl⟩, ⟨_, _, rfl, rfl⟩⟩
  refine List.forall_mem_cons.2 ⟨⟨_, _, rfl, rfl⟩, List.forall_mem_cons.2 ⟨⟨_, _, rfl, rfl⟩, ?_⟩⟩
  exact List.forall_mem_singleton.2 ⟨_, _, rfl, rfl⟩

end Storage

end BlockStorage
