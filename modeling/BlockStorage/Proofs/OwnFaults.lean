import BlockStorage.Proofs.LookupFaults
import BlockStorage.Proofs.Operations
import BlockStorage.Proofs.Timeouts
import BlockStorage.Proofs.ValidCloud

/-!
Which faults operations end with.

An operation should end with no fault but our own. What the cloud does wrong is wrapped wherever it
is asked for something, and six of the twelve operations translate whatever else comes up. The
others leave gaps between these: a creation compares the size of its template and writes it into
its reports, and it looks at the new volume once more after that is settled; a deletion sleeps
between two queries; a volume's name is looked up under a key from the settings; and what is told of
machines is put into sets. `Operation.Leak` lists the gaps, and `isOwn_iff_of_failed` says that
there are no others.
-/
namespace BlockStorage

/-! ### What is assumed -/

/-- A volume whose size is a whole number, a text or missing, and whose extra is a table or
missing. -/
structure Disk.Tellable (d : Disk) : Prop where
  size : d.size = .null ∨ (∃ n, d.size = .int n) ∨ ∃ text, d.size = .text text
  extra : d.extra = .null ∨ ∃ entries, d.extra = .dict entries

/-- What a request is usually answered with: volumes that can be told of, and tags in a table. -/
def Request.Usual : (r : Request) → r.Answer → Prop
  | listDisks, ds => ∀ d ∈ ds, d.Tellable
  | describeDisks _, ds => ∀ d ∈ ds, d.Tellable
  | create .., d => d.Tellable
  | submitCreate .., d => d.Tellable
  | readReceipt _, d => d.Tellable
  | describeTags _, sheet => sheet.Plain
  | _, _ => True

/-- The cloud answers as usual, as far as it answers. -/
def Backend.Usual {σ : Type} (b : Backend σ) : Prop :=
  ∀ via (r : Request) w a, (b.respond via r w).1 = .ok a → r.Usual a

def Value.IsText (v : Value) : Prop := ∃ text, v = .text text

theorem Value.IsText.writable {v : Value} (h : v.IsText) : v.writable = true := by
  obtain ⟨text, rfl⟩ := h
  rfl

namespace Operation

/-- The timeout of the operation, if it takes one. -/
def timeout? : Operation → Option Value
  | create _ _ timeout | attach _ _ _ timeout | detach _ _ timeout | delete _ _ timeout =>
    some timeout
  | _ => none

/-- The arguments are texts. A place for a new volume can be left out. -/
def Texts : Operation → Prop
  | create template location _ => template.IsText ∧ (location = .null ∨ location.IsText)
  | attach id device address _ => id.IsText ∧ device.IsText ∧ address.IsText
  | detach id address _ => id.IsText ∧ address.IsText
  | delete location id _ => location.IsText ∧ id.IsText
  | list address | volumeIds address | find address => address.IsText
  | status id | name id => id.IsText
  | listAll | machines | check => True

variable {σ : Type}

/-- What is assumed of an operation: the cloud comes from settings, addresses are not cached, the
bounds for sizes are whole numbers and the poll interval is a number that is not negative, the
arguments are texts, the timeout that applies is a duration, and what the cloud answers is usual. -/
structure Regular (ctx : Context σ) (s : Session σ) (op : Operation) : Prop where
  cloud : s.gateway.cloud.problems = .ok []
  uncached : ctx.settings.cacheAddresses = false
  bounds : ∃ least most, ctx.settings.minSize = .int least ∧ ctx.settings.maxSize = .int most
  interval : Clock.checkSleep ctx.settings.pollInterval = .ok ()
  texts : op.Texts
  timeout : ∀ timeout, op.timeout? = some timeout →
    ∃ d, Duration.read (Deadline.applicable ctx.settings.operationTimeout timeout) = .ok d
  answers : ctx.backend.Usual

/-! ### The gaps -/

/-- The ways for a foreign fault to get out of an operation. -/
inductive Leak (ctx : Context σ) (s : Session σ) : Operation → Fault → Prop
  -- The size of the template has no order with the bounds.
  | incomparable {template location timeout : Value} {t : StorageTemplate} {f : Fault}
      (ht : s.gateway.cloud.storageTemplate template = .ok t)
      (h : Storage.fits ctx.settings t.size = .error f) :
      Leak ctx s (create template location timeout) f
  -- There are no words for the size, or for the bounds that it does not fit.
  | unwritable {template location timeout : Value} {t : StorageTemplate}
      (ht : s.gateway.cloud.storageTemplate template = .ok t)
      (h : ¬(t.size.writable = true ∧ ctx.settings.minSize.writable = true ∧
        ctx.settings.maxSize.writable = true)) :
      Leak ctx s (create template location timeout) .notWritable
  -- The state that the new volume was told of in cannot be looked up.
  | state {template location timeout place : Value} {t : StorageTemplate} {d : Disk}
      {s₁ : Session σ} (ht : s.gateway.cloud.storageTemplate template = .ok t)
      (hcreate : (Storage.requestCreate ctx place t).run s = (.done d, s₁))
      (h : d.state.hashable = false) :
      Leak ctx s (create template location timeout) (.unhashable d.state)
  -- The clock refuses a sleep.
  | slept {location id timeout : Value} {c : σ} {f : Fault}
      (h : (ctx.backend.sleep ctx.settings.pollInterval c).1 = .error f)
      (hforeign : f.isOwn = false) : Leak ctx s (delete location id timeout) f
  -- The tag of names can be no key.
  | key {id : Value} (h : ctx.settings.nameTag.hashable = false) :
      Leak ctx s (name id) (.unhashable ctx.settings.nameTag)
  -- An address or the id of some machine stands in the way of a look-up.
  | sought {op : Operation} {address : Value} {nodes : List Instance} {s₁ : Session σ} {f : Fault}
      (hop : op = list address ∨ op = volumeIds address ∨ op = find address)
      (hlist : (Compute.fetchInstances ctx).run s = (.done nodes, s₁))
      (h : Compute.SearchFails s₁.gateway.cloud.cls address nodes f)
      (hvalue : Compute.Obstructed f) : Leak ctx s op f
  -- The id of some volume of the machine can be in no set.
  | attached {op : Operation} {address : Value} {m : Machine} {s₁ : Session σ} {f : Fault}
      (hop : op = list address ∨ op = volumeIds address)
      (hfind : (Compute.findMachine ctx address).run s = (.done m, s₁))
      (h : m.attachedVolumes = .error f) : Leak ctx s op f

end Operation

/-! ### Timeouts and sizes -/

/-- A duration is no good as a timeout only if it is negative, and that is said. -/
theorem Deadline.isOwn_of_after {now : Float} {fallback timeout : Value} {d : Duration} {f : Fault}
    (hread : Duration.read (applicable fallback timeout) = .ok d)
    (h : after now fallback timeout = .error f) : f.isOwn = true := by
  have hwritable := Duration.writable_of_read hread
  unfold after lengthOf at h
  rw [hread] at h
  dsimp only at h
  split at h
  · cases h
    exact Fault.isOwn_mentioning rfl (by simpa using hwritable)
  · cases h

namespace Storage

variable {settings : Settings} {least most : Int} {f : Fault}

/-- Numbers can be compared with whole bounds. -/
theorem number?_of_fits (hleast : settings.minSize = .int least)
    (hmost : settings.maxSize = .int most) {size : Value} (h : fits settings size = .error f) :
    size.number? = none ∧ f.isOwn = false := by
  unfold fits atMost at h
  rw [hleast, hmost, Value.atMost?_int_left, Value.atMost?_int_right] at h
  split at h
  · cases h
  · cases hnumber : size.number? with
    | none =>
      rw [hnumber] at h
      cases h
      exact ⟨rfl, rfl⟩
    | some n =>
      rw [hnumber] at h
      simp only [Option.map_some] at h
      split at h
      · cases h
      · cases h

/-- A size out of bounds is told of by the bounds and the size, in words. -/
theorem sizeFault_int (least most : Int) (size : Value) :
    ∃ message, sizeFault (.int least) (.int most) size =
      .ok (.mentioning [.int least, .int most, size]
        (.because .volumeSize message none [("size", size)])) := ⟨_, rfl⟩

/-- A size is refused because it is out of bounds, which takes words for it and for the bounds, or
because it cannot be compared with them. -/
theorem checkSize_fails (hleast : settings.minSize = .int least)
    (hmost : settings.maxSize = .int most) {size : Value}
    (h : checkSize settings size = .error f) :
    f.isOwn = true ∨ (size.number? = none ∧ fits settings size = .error f) ∨
      (¬(size.writable = true ∧ settings.minSize.writable = true ∧
        settings.maxSize.writable = true) ∧ f = .notWritable) := by
  unfold checkSize at h
  cases hfits : fits settings size with
  | error g =>
    rw [hfits] at h
    cases h
    exact .inr (.inl ⟨(number?_of_fits hleast hmost hfits).1, rfl⟩)
  | ok fitting =>
    rw [hfits] at h
    cases fitting with
    | true => cases h
    | false =>
      obtain ⟨message, hfault⟩ := sizeFault_int least most size
      rw [hleast, hmost, hfault] at h
      have hf : Fault.mentioning _ _ = f := Except.error.inj h
      rw [← hf, hleast, hmost]
      by_cases hwritable : size.writable = true ∧ (Value.int least).writable = true ∧
          (Value.int most).writable = true
      · refine .inl (Fault.isOwn_mentioning rfl ?_)
        simpa [and_comm, and_left_comm, and_assoc] using hwritable
      · refine .inr (.inr ⟨hwritable, Fault.mentioning_of_unwritable _ ?_⟩)
        simpa [and_comm, and_left_comm, and_assoc] using hwritable

/-- A size that does not fit and is too long to be written is refused without words. -/
theorem checkSize_unwritable (hleast : settings.minSize = .int least)
    (hmost : settings.maxSize = .int most) {size : Value} (hfits : fits settings size = .ok false)
    (hsize : size.writable = false) : checkSize settings size = .error .notWritable := by
  obtain ⟨message, hfault⟩ := sizeFault_int least most size
  unfold checkSize
  rw [hfits, hleast, hmost, hfault]
  show Except.error (Fault.mentioning _ _) = _
  rw [Fault.mentioning_of_unwritable _ (by simp [hsize])]

/-- A report of a failed creation is our own, unless there are no words for the size. -/
theorem creationReport_own_or {o : Order} (hplace : o.place.writable = true) (id : Value)
    (g : Fault) :
    (creationReport o.template.size o.place id g).isOwn = true ∨
      (o.template.size.writable = false ∧
        creationReport o.template.size o.place id g = .notWritable) := by
  have hreport : Reported o id g (creationReport o.template.size o.place id g) := reported o id g
  cases htimeout : g.isA .timeout with
  | true =>
    rw [hreport.timeout htimeout]
    exact .inl (Fault.isOwn_of_isA htimeout)
  | false =>
    cases hsize : o.template.size.writable with
    | true =>
      obtain ⟨message, htold⟩ := (hreport.told htimeout).2 ⟨hsize, hplace⟩
      rw [htold]
      exact .inl rfl
    | false =>
      refine .inr ⟨rfl, hreport.untold htimeout ?_⟩
      rw [hsize]
      exact fun h => Bool.false_ne_true h.1

end Storage

/-! ### Orders -/

theorem Cloud.isOwn_of_storageTemplate {c : Cloud} (hcloud : c.problems = .ok []) {name : String}
    {f : Fault} (h : c.storageTemplate (.text name) = .error f) : f.isOwn = true := by
  have hmissing : f.isA .storageTemplateNotFound = true :=
    (Cloud.missing_iff_of_storageTemplate hcloud h).2 ⟨rfl, rfl⟩
  exact Fault.isOwn_of_isA hmissing

namespace Storage

/-- A place is a text. -/
theorem isText_of_placeFor {t : StorageTemplate} (ht : t.Plain) {location place : Value}
    (hlocation : location = .null ∨ location.IsText) (h : placeFor t location = .ok place) :
    place.IsText := by
  have hplace : location.orElse t.location = .null ∨ (location.orElse t.location).IsText := by
    unfold Value.orElse
    split
    · exact hlocation
    · exact ht.location
  unfold placeFor at h
  dsimp only at h
  split at h
  · rename_i htruthy
    cases h
    refine hplace.resolve_left fun hnull => ?_
    rw [hnull] at htruthy
    cases htruthy
  · cases h

theorem isOwn_of_placeFor {t : StorageTemplate} {location : Value} {f : Fault}
    (h : placeFor t location = .error f) : f.isOwn = true := by
  unfold placeFor at h
  dsimp only at h
  split at h
  · cases h
  · cases h
    rfl

/-- An order that is refused with a foreign fault is refused for its size. -/
theorem order_fails {settings : Settings} {c : Cloud} {now : Float} {name : String}
    {location timeout : Value} {d : Duration} {f : Fault} (hcloud : c.problems = .ok [])
    (hread : Duration.read (Deadline.applicable settings.operationTimeout timeout) = .ok d)
    (h : order settings c now (.text name) location timeout = .error f) :
    f.isOwn = true ∨
      ∃ t, c.storageTemplate (.text name) = .ok t ∧ checkSize settings t.size = .error f := by
  unfold order at h
  cases hdeadline : Deadline.after now settings.operationTimeout timeout with
  | error g =>
    rw [hdeadline] at h
    cases h
    exact .inl (Deadline.isOwn_of_after hread hdeadline)
  | ok deadline =>
    cases htemplate : c.storageTemplate (.text name) with
    | error g =>
      rw [hdeadline, htemplate] at h
      cases h
      exact .inl (Cloud.isOwn_of_storageTemplate hcloud htemplate)
    | ok t =>
      cases hplace : placeFor t location with
      | error g =>
        simp only [hdeadline, htemplate, hplace, bind, Except.bind] at h
        cases h
        exact .inl (isOwn_of_placeFor hplace)
      | ok place =>
        cases hsize : checkSize settings t.size with
        | error g =>
          simp only [hdeadline, htemplate, hplace, hsize, bind, Except.bind] at h
          cases h
          exact .inr ⟨t, rfl, hsize⟩
        | ok _ =>
          simp only [hdeadline, htemplate, hplace, hsize, bind, Except.bind] at h
          cases h

/-- The size is the last thing that is looked at. -/
theorem order_of_checkSize {settings : Settings} {c : Cloud} {now deadline : Float}
    {template location timeout place : Value} {t : StorageTemplate} {f : Fault}
    (hdeadline : Deadline.after now settings.operationTimeout timeout = .ok deadline)
    (htemplate : c.storageTemplate template = .ok t) (hplace : placeFor t location = .ok place)
    (h : checkSize settings t.size = .error f) :
    order settings c now template location timeout = .error f := by
  simp only [order, hdeadline, htemplate, hplace, h, bind, Except.bind]

variable {σ : Type} {ctx : Context σ} {s s' : Session σ} {f : Fault}

theorem run_create_refused {template location timeout : Value}
    (h : order ctx.settings s.gateway.cloud (ctx.backend.now s.world.cloud) template location
      timeout = .error f) :
    (create ctx template location timeout).run s = (.failed f, s) := by
  unfold create
  rw [Run.run_bind_done (Session.run_current s), Run.run_bind_done (Session.run_now ctx s), h]
  rfl

/-! ### Volumes -/

theorem usual_of_askStorage {r : Request} {a : r.Answer} (husual : ctx.backend.Usual)
    (h : (Session.askStorage ctx r).run s = (.done a, s')) : r.Usual a := by
  obtain ⟨via, s₁, -, hrequest⟩ := Run.done_of_run_bind h
  rw [Session.request, Session.run_inWorld] at hrequest
  by_cases hserves : via.serves r = true
  · rw [World.run_request hserves] at hrequest
    have hanswer := congrArg Prod.fst hrequest
    exact husual via r _ a (Outcome.ofExcept_eq_done.1 hanswer)
  · rw [World.run_request_refused hserves] at hrequest
    cases hrequest

/-- What a create request is answered with can be told of. -/
theorem tellable_of_requestCreate {location : Value} {t : StorageTemplate} {d : Disk}
    (husual : ctx.backend.Usual) (h : (requestCreate ctx location t).run s = (.done d, s')) :
    d.Tellable := by
  unfold requestCreate at h
  rw [Run.run_bind_done (Session.run_current s)] at h
  split at h
  · dsimp only at h
    split at h
    · obtain ⟨_, _, hfail, -⟩ := Run.done_of_run_bind h
      cases hfail
    · obtain ⟨receipt, s₁, -, hread⟩ := Run.done_of_run_bind h
      exact usual_of_askStorage husual hread
  · exact usual_of_askStorage husual h

theorem plain_of_queryTags {id : Value} {sheet : TagSheet} (husual : ctx.backend.Usual)
    (h : (queryTags ctx id).run s = (.done sheet, s')) : sheet.Plain := by
  unfold queryTags at h
  rw [Run.run_bind_done (Session.run_current s)] at h
  dsimp only at h
  split at h
  · exact usual_of_askStorage husual h
  · cases h

/-- Plain tags can be looked up, by what can be a key. -/
theorem tagOf_fails {sheet : TagSheet} (hsheet : sheet.Plain) {name : Value}
    (h : tagOf sheet name = .error f) : name.hashable = false ∧ f = .unhashable name := by
  have hlookup : ∀ ts, tagOf.lookUp name ts = .error f →
      name.hashable = false ∧ f = .unhashable name := by
    intro ts h
    unfold tagOf.lookUp at h
    split at h
    · cases h
    · rename_i hkey
      cases h
      exact ⟨by simpa using hkey, rfl⟩
  cases sheet with
  | tags ts => exact hlookup ts h
  | other v =>
    have hfalse : v.truthy = false := hsheet
    simp only [tagOf, hfalse, Bool.false_eq_true, if_false] at h
    exact hlookup [] h

theorem volumeName_fails {id : Value} (husual : ctx.backend.Usual)
    (h : (volumeName ctx id).run s = (.failed f, s')) :
    f.isOwn = true ∨
      (ctx.settings.nameTag.hashable = false ∧ f = .unhashable ctx.settings.nameTag) := by
  rcases Run.run_bind_failed_iff.1 h with h | ⟨sheet, s₁, hquery, h⟩
  · exact .inl (Run.isOwn_of_wrapForeign (fun _ => rfl) h)
  · have hsheet := plain_of_queryTags husual (Run.run_mapFault_done_iff.1 hquery)
    rcases Run.run_bind_failed_iff.1 h with h | ⟨_, _, -, h⟩
    · exact .inr (tagOf_fails hsheet (Run.run_ofExcept_failed_iff.1 h).1)
    · cases h

/-- A volume that can be told of is told of, unless its state cannot be looked up. -/
theorem toVolume_fails {d : Disk} (hd : d.Tellable)
    (hkey : ctx.settings.nameTag.hashable = true) (husual : ctx.backend.Usual)
    (h : (toVolume ctx d).run s = (.failed f, s')) :
    d.state.hashable = false ∧ f = .unhashable d.state := by
  obtain ⟨size, hsize⟩ := sizeOf_plain hd.size
  obtain ⟨entries, hextra⟩ := Value.orElse_dict hd.extra
  unfold toVolume at h
  simp only [hsize, hextra, Record.copyEntries, Record.entries, Run.ofExcept_ok, pure_bind] at h
  rcases Run.run_bind_failed_iff.1 h with h | ⟨name, s₁, -, h⟩
  · rw [Run.run_catching] at h
    cases hname : (volumeName ctx d.id).run s with
    | mk out s₁ =>
      rw [hname] at h
      cases out with
      | done v => cases h
      | stalled => cases h
      | failed g =>
        rcases volumeName_fails husual hname with hown | ⟨hno, -⟩
        · simp only [hown, if_true] at h
          cases h
        · rw [hkey] at hno
          cases hno
  · rw [Run.run_bind_done (Session.run_current s₁)] at h
    rcases Run.run_bind_failed_iff.1 h with h | ⟨_, _, -, h⟩
    · obtain ⟨hstate, -⟩ := Run.run_ofExcept_failed_iff.1 h
      unfold Status.ofState at hstate
      split at hstate
      · cases hstate
      · split at hstate
        · cases hstate
        · rename_i hno
          cases hstate
          exact ⟨by simpa using hno, rfl⟩
    · cases h

theorem id_of_toVolume {d : Disk} {v : Volume} (h : (toVolume ctx d).run s = (.done v, s')) :
    v.id = Record.takeText d.id := by
  obtain ⟨_, _, -, h⟩ := Run.done_of_run_bind h
  obtain ⟨_, _, -, h⟩ := Run.done_of_run_bind h
  obtain ⟨_, _, -, h⟩ := Run.done_of_run_bind h
  obtain ⟨_, _, -, h⟩ := Run.done_of_run_bind h
  obtain ⟨_, _, -, h⟩ := Run.done_of_run_bind h
  obtain ⟨_, _, -, h⟩ := Run.done_of_run_bind h
  cases h
  rfl

/-- Volumes are listed by ids that can be keys. -/
theorem hashable_of_toVolumes {disks : List Disk} {seen : List Value} {vs : List Volume}
    (h : (toVolumes ctx seen disks).run s = (.done vs, s')) : ∀ v ∈ vs, v.id.hashable = true := by
  induction disks generalizing seen s vs with
  | nil =>
    cases h
    exact fun v hv => absurd hv List.not_mem_nil
  | cons d rest ih =>
    unfold toVolumes at h
    split at h
    · cases h
    · rename_i hkey
      split at h
      · exact ih h
      · obtain ⟨v, s₁, htell, h⟩ := Run.done_of_run_bind h
        obtain ⟨ws, s₂, hrest, h⟩ := Run.done_of_run_bind h
        cases h
        intro w hw
        rcases List.mem_cons.1 hw with rfl | hw
        · rw [id_of_toVolume htell]
          exact Record.hashable_takeText (by simpa using hkey)
        · exact ih hrest w hw

/-- Those of a machine can always be told from the other volumes that are listed. -/
theorem listAttached_fails {m : Machine} (h : (listAttached ctx m).run s = (.failed f, s')) :
    f.isOwn = true ∨ m.attachedVolumes = .error f := by
  rcases Run.run_bind_failed_iff.1 h with h | ⟨attached, s₁, -, h⟩
  · exact .inr (Run.run_ofExcept_failed_iff.1 h).1
  rcases Run.run_bind_failed_iff.1 h with h | ⟨volumes, s₂, hlist, h⟩
  · exact .inl (Run.isOwn_of_translating h)
  · obtain ⟨hrestrict, -⟩ := Run.run_ofExcept_failed_iff.1 h
    unfold listAll at hlist
    obtain ⟨disks, s₃, -, hvolumes⟩ := Run.done_of_run_bind (Run.run_mapFault_done_iff.1 hlist)
    unfold restrict at hrestrict
    split at hrestrict
    · rename_i v hv
      have hkey : v.id.hashable = true :=
        hashable_of_toVolumes hvolumes v (List.mem_of_find?_eq_some hv)
      have hno := List.find?_some hv
      rw [hkey] at hno
      cases hno
    · cases hrestrict

/-! ### Waiting -/

/-- A sleep of a fair length fails only if the clock refuses it. -/
theorem sleep_fails {seconds : Value} (hlength : Clock.checkSleep seconds = .ok ())
    (h : (Session.sleep ctx seconds).run s = (.failed f, s')) :
    (ctx.backend.sleep seconds s.world.cloud).1 = .error f := by
  rw [Session.sleep, Session.run_inWorld, World.run_sleep hlength] at h
  exact Outcome.ofExcept_eq_failed.1 (congrArg Prod.fst h)

/-- What a status query shows is a text. -/
theorem isText_of_status {id v : Value} (h : (status ctx id).run s = (.done v, s')) :
    v.IsText := by
  unfold status at h
  obtain ⟨d, s₁, -, h⟩ := Run.done_of_run_bind (Run.run_mapFault_done_iff.1 h)
  obtain ⟨st, s₂, -, h⟩ := Run.done_of_run_bind h
  cases h
  exact ⟨st.text, rfl⟩

/-- A wait for a volume fails with a fault of our own, unless the clock refuses a sleep. The
invariant is that the status seen last can be written. -/
theorem watch_fails {id interval last : Value} {wanted : Status} {deadline : Float}
    {patience : Nat} (hid : id.writable = true) (hlast : last.writable = true)
    (hinterval : Clock.checkSleep interval = .ok ())
    (h : ((watch ctx).await id wanted.toValue interval deadline patience last).run s =
      (.failed f, s')) :
    f.isOwn = true ∨ ∃ c, (ctx.backend.sleep interval c).1 = .error f := by
  induction patience generalizing last s with
  | zero => cases h
  | succ patience ih =>
    unfold Watch.await at h
    rw [Run.run_bind_done (Run.run_get s)] at h
    split at h
    · rcases Run.run_bind_failed_iff.1 h with h | ⟨seen, s₁, hseen, h⟩
      · refine .inl (Run.isOwn_of_wrapForeign (fun g => ?_) h)
        exact Fault.isOwn_mentioning rfl (by simpa using hid)
      have htext : seen.IsText := isText_of_status (Run.run_mapFault_done_iff.1 hseen)
      split at h
      · cases h
      · rcases Run.run_bind_failed_iff.1 h with h | ⟨_, s₂, -, h⟩
        · exact .inr ⟨_, sleep_fails hinterval h⟩
        · exact ih htext.writable h
    · cases h
      refine .inl (Fault.isOwn_mentioning rfl ?_)
      have hwanted : wanted.toValue.writable = true := rfl
      simp [hid, hlast, hwanted]

theorem await_fails {id : Value} {wanted : Status} {deadline : Float} (hid : id.writable = true)
    (hinterval : Clock.checkSleep ctx.settings.pollInterval = .ok ())
    (h : (await ctx id wanted deadline).run s = (.failed f, s')) :
    f.isOwn = true ∨ ∃ c, (ctx.backend.sleep ctx.settings.pollInterval c).1 = .error f :=
  watch_fails hid rfl hinterval (Run.failed_of_dropped h)

end Storage

/-! ### Operations -/

namespace Operation

open Storage

variable {σ : Type} {ctx : Context σ} {s s' : Session σ} {f : Fault}

theorem create_leaks {template location timeout : Value}
    (hregular : (create template location timeout).Regular ctx s)
    (h : (Storage.create ctx template location timeout).run s = (.failed f, s')) :
    f.isOwn = true ∨ Leak ctx s (create template location timeout) f := by
  obtain ⟨least, most, hleast, hmost⟩ := hregular.bounds
  obtain ⟨⟨name, rfl⟩, hlocation⟩ := hregular.texts
  obtain ⟨d, hread⟩ := hregular.timeout timeout rfl
  cases horder : order ctx.settings s.gateway.cloud (ctx.backend.now s.world.cloud) (.text name)
      location timeout with
  | error g =>
    rw [run_create_refused horder] at h
    cases h
    rcases order_fails hregular.cloud hread horder with hown | ⟨t, ht, hsize⟩
    · exact .inl hown
    · rcases checkSize_fails hleast hmost hsize with hown | ⟨-, hfits⟩ | ⟨hwords, rfl⟩
      · exact .inl hown
      · exact .inr (.incomparable ht hfits)
      · exact .inr (.unwritable ht hwords)
  | ok o =>
    rw [run_create horder] at h
    obtain ⟨-, htemplate, hplace, -⟩ := order_eq_ok_iff.1 horder
    have hplain := Cloud.storageTemplate_plain hregular.cloud htemplate
    have hwords : o.place.writable = true := (isText_of_placeFor hplain hlocation hplace).writable
    rcases provision_failed h with ⟨id, g, rfl⟩ | ⟨disk, s₁, s₂, hcreate, hsettle, h⟩
    · rcases creationReport_own_or hwords id g with hown | ⟨hsize, huntold⟩
      · exact .inl hown
      · rw [huntold]
        exact .inr (.unwritable htemplate fun hall => by simp [hsize] at hall)
    · have htell := tellable_of_requestCreate hregular.answers hcreate
      obtain ⟨hstate, rfl⟩ :=
        toVolume_fails htell (nameTag_of_settled hsettle) hregular.answers h
      exact .inr (.state htemplate hcreate hstate)

theorem delete_leaks {location id timeout : Value}
    (hregular : (delete location id timeout).Regular ctx s)
    (h : (Storage.delete ctx location id timeout).run s = (.failed f, s')) :
    f.isOwn = true ∨ Leak ctx s (delete location id timeout) f := by
  have hid : id.writable = true := hregular.texts.2.writable
  obtain ⟨d, hread⟩ := hregular.timeout timeout rfl
  rcases Run.run_bind_failed_iff.1 h with h | ⟨deadline, s₁, -, h⟩
  · rw [run_deadline] at h
    have hafter := Outcome.ofExcept_eq_failed.1 (congrArg Prod.fst h)
    exact .inl (Deadline.isOwn_of_after hread hafter)
  rcases Run.run_bind_failed_iff.1 h with h | ⟨_, s₂, -, h⟩
  · refine .inl (Run.isOwn_of_wrapForeign (fun g => ?_) h)
    exact Fault.isOwn_mentioning rfl (by simpa using hid)
  rw [Run.run_catching] at h
  split at h
  · rename_i g s₃ hawait
    split at h
    · cases h
    · cases h
      cases hown : f.isOwn with
      | true => exact .inl rfl
      | false =>
        rcases await_fails hid hregular.interval hawait with htrue | ⟨c, hsleep⟩
        · rw [hown] at htrue
          cases htrue
        · exact .inr (.slept hsleep hown)
  · rename_i hnot
    exact absurd h (hnot f s')

theorem seek_leaks {op : Operation} {address : Value}
    (hop : op = list address ∨ op = volumeIds address ∨ op = find address)
    (huncached : ctx.settings.cacheAddresses = false)
    (h : (Compute.findMachine ctx address).run s = (.failed f, s')) :
    f.isOwn = true ∨ Leak ctx s op f := by
  cases hown : f.isOwn with
  | true => exact .inl rfl
  | false =>
    cases (Compute.run_findMachine_foreign_iff hown).1 h with
    | recalled hcache h =>
      rw [huncached] at hcache
      cases hcache
    | searched hreach hlist h hvalue =>
      unfold Compute.Unanswered at hreach
      rw [huncached, if_neg Bool.false_ne_true] at hreach
      cases hreach
      exact .inr (.sought hop hlist h hvalue)

/-- A fault that gets out is our own, or got out through a gap. -/
theorem own_or_leak {op : Operation} (hregular : op.Regular ctx s)
    (h : (op.run ctx).run s = (.failed f, s')) : f.isOwn = true ∨ op.Leak ctx s f := by
  cases op with
  | create template location timeout => exact create_leaks hregular (Run.failed_of_dropped h)
  | delete location id timeout => exact delete_leaks hregular h
  | name id =>
    rcases volumeName_fails hregular.answers (Run.failed_of_dropped h) with hown | ⟨hkey, rfl⟩
    · exact .inl hown
    · exact .inr (.key hkey)
  | find address =>
    exact seek_leaks (.inr (.inr rfl)) hregular.uncached (Run.failed_of_dropped h)
  | volumeIds address =>
    rcases Run.run_bind_failed_iff.1 (Run.failed_of_dropped h) with h | ⟨m, s₁, hfind, h⟩
    · exact seek_leaks (.inr (.inl rfl)) hregular.uncached h
    · exact .inr (.attached (.inr rfl) hfind (Run.run_ofExcept_failed_iff.1 h).1)
  | list address =>
    rcases Run.run_bind_failed_iff.1 (Run.failed_of_dropped h) with h | ⟨m, s₁, hfind, h⟩
    · exact seek_leaks (.inl rfl) hregular.uncached h
    · exact (listAttached_fails h).imp_right (.attached (.inl rfl) hfind)
  -- The others translate every fault.
  | attach id device address timeout => exact .inl (Run.isOwn_of_translating h)
  | detach id address timeout => exact .inl (Run.isOwn_of_translating h)
  | listAll => exact .inl (Run.isOwn_of_translating (Run.failed_of_dropped h))
  | status id => exact .inl (Run.isOwn_of_translating (Run.failed_of_dropped h))
  | machines => exact .inl (Run.isOwn_of_translating (Run.failed_of_dropped h))
  | check => exact .inl (Run.isOwn_of_translating (Run.failed_of_dropped h))

/-- What gets out through a gap is foreign. -/
theorem foreign_of_leak {op : Operation} (hregular : op.Regular ctx s) (h : op.Leak ctx s f) :
    f.isOwn = false := by
  cases h with
  | incomparable ht h =>
    obtain ⟨least, most, hleast, hmost⟩ := hregular.bounds
    exact (number?_of_fits hleast hmost h).2
  | unwritable => rfl
  | state => rfl
  | slept h hforeign => exact hforeign
  | key => rfl
  | sought hop hlist h hvalue => exact Compute.isOwn_of_obstructed hvalue
  | attached hop hfind h =>
    unfold Machine.attachedVolumes Machine.members at h
    split at h
    · cases h
      rfl
    · cases h

/-- **Which faults get out.** Whatever the state of the connection and whatever the cloud does, an
operation that fails does so with a fault of our own, unless it got out through one of the gaps. -/
theorem isOwn_iff_of_failed {op : Operation} (hregular : op.Regular ctx s)
    (h : (op.run ctx).run s = (.failed f, s')) : f.isOwn = true ↔ ¬op.Leak ctx s f := by
  constructor
  · intro hown hleak
    rw [foreign_of_leak hregular hleak] at hown
    cases hown
  · intro hno
    exact (own_or_leak hregular h).resolve_right hno

theorem usual_barren : Sandbox.barren.Usual := by
  intro via r w a h
  cases r with
  | listDisks | describeDisks =>
    cases h
    exact fun d hd => absurd hd List.not_mem_nil
  | describeTags =>
    cases h
    trivial
  | create | submitCreate | readReceipt => cases h
  | _ => trivial

/-- An operation without a timeout on the barren cloud is as assumed, if its arguments are texts. -/
theorem regular_barren {holder : Cloud} (hholder : holder.problems = .ok []) {op : Operation}
    (htexts : op.Texts)
    (htimeout : ∀ timeout, op.timeout? = some timeout → timeout = .null) :
    op.Regular Sandbox.barrenContext (Sandbox.barrenStart holder) where
  cloud := hholder
  uncached := rfl
  bounds := ⟨1, 1024, rfl, rfl⟩
  interval := Clock.checkSleep_eq_ok_iff.2 ⟨_, rfl, rfl⟩
  texts := htexts
  timeout timeout h := by
    rw [htimeout timeout h]
    exact ⟨⟨300000000, by decide⟩, (Duration.read_int 300 _).2 rfl⟩
  answers := usual_barren

/-- A deletion that the cloud refuses is reported. -/
theorem isOwn_iff_of_failed_refused :
    (delete (.text "z1") (.text "v") .null).Regular Sandbox.barrenContext
        (Sandbox.barrenStart Sandbox.account) ∧
      ∃ f s', ((delete (.text "z1") (.text "v") .null).run Sandbox.barrenContext).run
          (Sandbox.barrenStart Sandbox.account) = (.failed f, s') ∧
        f.isOwn = true ∧ f.cause?.isSome = true ∧
        ¬(delete (.text "z1") (.text "v") .null).Leak Sandbox.barrenContext
          (Sandbox.barrenStart Sandbox.account) f := by
  have hregular : (delete (.text "z1") (.text "v") .null).Regular Sandbox.barrenContext
      (Sandbox.barrenStart Sandbox.account) :=
    regular_barren (Sandbox.problems_offering rfl (by decide +kernel)) ⟨⟨_, rfl⟩, ⟨_, rfl⟩⟩
      fun timeout h => (Option.some.inj h).symm
  obtain ⟨f, s', hrun, hown, hcause⟩ : ∃ f s',
      ((delete (.text "z1") (.text "v") .null).run Sandbox.barrenContext).run
          (Sandbox.barrenStart Sandbox.account) = (.failed f, s') ∧
        f.isOwn = true ∧ f.cause?.isSome = true := ⟨_, _, rfl, rfl, rfl⟩
  exact ⟨hregular, f, s', hrun, hown, hcause, (isOwn_iff_of_failed hregular hrun).1 hown⟩

/-- A size that is out of bounds and too long to be written gets out as that, and is not reported
as a size out of bounds. -/
theorem create_beyond_words :
    (create (.text "huge") .null .null).Regular Sandbox.barrenContext
        (Sandbox.barrenStart Sandbox.overlongAccount) ∧
      ((create (.text "huge") .null .null).run Sandbox.barrenContext).run
          (Sandbox.barrenStart Sandbox.overlongAccount) =
        (.failed .notWritable, Sandbox.barrenStart Sandbox.overlongAccount) ∧
      Fault.notWritable.isOwn = false := by
  have hregular : (create (.text "huge") .null .null).Regular Sandbox.barrenContext
      (Sandbox.barrenStart Sandbox.overlongAccount) :=
    regular_barren (Sandbox.problems_offering rfl (by decide +kernel)) ⟨⟨_, rfl⟩, .inl rfl⟩
      fun timeout h => (Option.some.inj h).symm
  have hfits : fits Sandbox.plainSettings Sandbox.overlong = .ok false := by
    have hlong : 1024 < Text.Integer.writeLimit :=
      Text.Integer.lt_writeLimit (by decide : 4 ≤ Text.Integer.digitLimit) (by decide)
    have hmost : ¬(Text.Integer.writeLimit : Int) ≤ 1024 := by omega
    have hint : fits Sandbox.plainSettings Sandbox.overlong =
        .ok (decide (1 ≤ (Text.Integer.writeLimit : Int)) && decide _) := fits_int rfl rfl _
    rw [hint, decide_eq_false hmost, Bool.and_false]
  have hsize : checkSize Sandbox.plainSettings Sandbox.overlong = .error .notWritable :=
    checkSize_unwritable rfl rfl hfits Sandbox.writable_overlong
  have htemplate : Sandbox.overlongAccount.storageTemplate (.text "huge") = .ok Sandbox.huge := rfl
  have hplace : placeFor Sandbox.huge .null = .ok (.text "z1") := rfl
  have hcreate : (Storage.create Sandbox.barrenContext (.text "huge") .null .null).run
      (Sandbox.barrenStart Sandbox.overlongAccount) =
        (.failed .notWritable, Sandbox.barrenStart Sandbox.overlongAccount) :=
    run_create_refused (order_of_checkSize rfl htemplate hplace hsize)
  refine ⟨hregular, ?_, rfl⟩
  unfold run
  rw [Run.run_bind_failed hcreate]

end Operation

end BlockStorage
