import BlockStorage.Clock
import BlockStorage.Machine
import BlockStorage.Run

/-!
The cloud as a session sees it: a connection is opened, and requests are made through it, each of
which has an answer or a fault. Beside that there is a clock, which can be slept on. A `Backend`
says what each of these does to a state of its own; operations are written against any backend.

A request is written down before it is made, whatever becomes of it, and so is a sleep that is not
refused. What was written down is the journal.

Statements: what opening a connection, a request and a sleep do (`run_connect`, `run_request`,
`run_sleep`), and that one that is refused does nothing; a tag that was written is found
(`Tags.find?_put_self`).
-/
namespace BlockStorage

/-- What a connection can be. Only some connections are drivers of the provider that needs one,
and a driver may lack the channel that direct requests and closing go through. -/
inductive Connection.Kind where
  | driver
  | channelless
  | foreign
  deriving DecidableEq, Repr

/-- A connection to a cloud. No two have the same serial number. -/
structure Connection where
  serial : Nat
  kind : Connection.Kind
  region : Value

/-- How a connection is opened. -/
structure Opening where
  driver : Value
  apikey : Value
  apisecret : Value
  region : Value

/-- A machine as the cloud tells it. Reading its private addresses may fail. -/
structure Instance where
  id : Value
  name : Value
  privateAddresses : Except Fault Value
  publicAddresses : Value
  mapping : Value

/-- A volume as the cloud tells it. -/
structure Disk where
  id : Value
  size : Value
  state : Value
  extra : Value

/-- Tags by name. A name can be any value that can be a key. -/
abbrev Tags := List (Value × Value)

namespace Tags

/-- The value of the tag with a name. -/
def find? (name : Value) (ts : Tags) : Option Value :=
  (List.find? (fun t => t.1.sameKey name) ts).map (·.2)

/-- Writes a tag, in place of the one with its name if there is one. -/
def put (name value : Value) : Tags → Tags
  | [] => [(name, value)]
  | t :: r => if t.1.sameKey name then (t.1, value) :: r else t :: put name value r

/-- Writes tags, one after the other. -/
def putAll (new old : Tags) : Tags := new.foldl (fun ts t => put t.1 t.2 ts) old

/-- What was written is found under its name. -/
theorem find?_put_self {name : Value} (h : name.hashable = true) (value : Value) (ts : Tags) :
    find? name (put name value ts) = some value := by
  unfold find?
  induction ts with
  | nil => simp [put, Value.sameKey_self h]
  | cons t r ih =>
    by_cases ht : t.1.sameKey name = true
    · simp [put, ht]
    · simpa [put, ht] using ih

end Tags

/-- What a cloud tells of the tags of a volume: them, or something else in their place. -/
inductive TagSheet where
  | tags (ts : Tags)
  | other (v : Value)

/-- A table is read as tags. -/
def TagSheet.ofValue : Value → TagSheet
  | .dict es => tags (es.map fun e => (.text e.1, e.2))
  | v => other v

/-- What can be asked of a cloud. A create or detach request can also be submitted directly: the
receipt of a submitted create is then turned into a volume, and a submitted detach names the machine
and says whether it is forced. -/
inductive Request where
  | listInstances
  | describeInstances (ids : List Value)
  | listDisks
  | describeDisks (ids : List Value)
  | create (size location : Value)
  | submitCreate (size : String) (location : Value) (volumeType : Option Value)
  | readReceipt (receipt : Disk)
  | attach (machine : Machine) (volume device : Value)
  | detach (volume : Value)
  | submitDetach (volume machine : Value) (forced : Bool)
  | destroy (volume : Value)
  | createTags (volume : Value) (tags : Tags)
  | describeTags (volume : Value)
  | close

namespace Request

/-- What a request is answered with. -/
@[reducible]
def Answer : Request → Type
  | listInstances | describeInstances _ => List Instance
  | listDisks | describeDisks _ => List Disk
  | create .. | submitCreate .. | readReceipt .. => Disk
  | describeTags _ => TagSheet
  | _ => Unit

/-- The name under which a driver knows the request. -/
def name : Request → String
  | listInstances | describeInstances _ => "list_nodes"
  | listDisks | describeDisks _ => "list_volumes"
  | create .. => "create_volume"
  | submitCreate .. | submitDetach .. | close => "connection"
  | readReceipt _ => "_to_volume"
  | attach .. => "attach_volume"
  | detach _ => "detach_volume"
  | destroy _ => "destroy_volume"
  | createTags .. => "ex_create_tags"
  | describeTags _ => "ex_describe_tags"

/-- Whether the request goes through the channel of a driver. -/
def direct : Request → Bool
  | submitCreate .. | submitDetach .. | close => true
  | _ => false

/-- Whether the request changes a volume or its tags. -/
def mutating : Request → Bool
  | create .. | submitCreate .. | attach .. | detach _ | submitDetach .. | destroy _
  | createTags .. => true
  | _ => false

end Request

/-- Whether a connection can make a request. -/
def Connection.serves (c : Connection) (r : Request) : Bool :=
  match c.kind with
  | .driver => true
  | .channelless => !r.direct
  | .foreign => false

/-- What a cloud does, and the clock that goes with it. -/
structure Backend (σ : Type) where
  now : σ → Float
  sleep : Value → σ → Except Fault Unit × σ
  connect : Opening → σ → Except Fault Unit × σ
  respond : Connection → (r : Request) → σ → Except Fault r.Answer × σ

/-- What happened between a session and its cloud. -/
inductive Event where
  | opened (how : Opening)
  | requested (via : Connection) (what : Request)
  | slept (seconds : Value)

/-- A cloud, what happened to it, the latest first, and how many connections there have been. -/
structure World (σ : Type) where
  cloud : σ
  journal : List Event
  connections : Nat

namespace World

variable {σ : Type}

/-- Lets the cloud act and takes its answer. -/
def act {α : Type} (f : σ → Except Fault α × σ) : Run (World σ) α := ⟨fun w =>
  let (answer, cloud) := f w.cloud
  (.ofExcept answer, { w with cloud })⟩

theorem run_act {α : Type} (f : σ → Except Fault α × σ) (w : World σ) :
    (act f).run w = (.ofExcept (f w.cloud).1, { w with cloud := (f w.cloud).2 }) := rfl

def note (e : Event) : Run (World σ) Unit :=
  Run.modify fun w => { w with journal := e :: w.journal }

theorem run_note (e : Event) (w : World σ) :
    (note e).run w = (.done (), { w with journal := e :: w.journal }) := rfl

/-- A connection that has not been seen before. -/
def freshConnection (kind : Connection.Kind) (region : Value) : Run (World σ) Connection := do
  let w ← Run.get
  Run.modify fun w => { w with connections := w.connections + 1 }
  return ⟨w.connections, kind, region⟩

/-- Opens a connection. -/
def connect (b : Backend σ) (how : Opening) : Run (World σ) Connection := do
  note (.opened how)
  act (b.connect how)
  freshConnection .driver how.region

theorem run_connect (b : Backend σ) (how : Opening) (w : World σ) :
    (connect b how).run w = match b.connect how w.cloud with
      | (.ok (), cloud) => (.done ⟨w.connections, .driver, how.region⟩,
          ⟨cloud, .opened how :: w.journal, w.connections + 1⟩)
      | (.error f, cloud) => (.failed f, ⟨cloud, .opened how :: w.journal, w.connections⟩) := by
  unfold connect
  rw [Run.run_bind_done (run_note _ _), Run.run_bind, run_act]
  cases h : b.connect how w.cloud with
  | mk answer cloud => cases answer <;> rfl

/-- Makes a request, if the connection can make it. -/
def request (b : Backend σ) (via : Connection) (r : Request) : Run (World σ) r.Answer :=
  if via.serves r then do
    note (.requested via r)
    act (b.respond via r)
  else Run.fail (.missingAttribute "object" r.name)

/-- A request that the connection can make is written down and answered. -/
theorem run_request {b : Backend σ} {via : Connection} {r : Request}
    (h : via.serves r = true) (w : World σ) :
    (request b via r).run w =
      (.ofExcept (b.respond via r w.cloud).1,
        { w with
          cloud := (b.respond via r w.cloud).2
          journal := .requested via r :: w.journal }) := by
  unfold request
  rw [if_pos h, Run.run_bind_done (run_note _ _), run_act]

theorem run_request_refused {b : Backend σ} {via : Connection} {r : Request}
    (h : ¬via.serves r = true) (w : World σ) :
    (request b via r).run w = (.failed (.missingAttribute "object" r.name), w) := by
  unfold request
  rw [if_neg h, Run.run_fail]

def sleep (b : Backend σ) (seconds : Value) : Run (World σ) Unit := do
  Run.ofExcept (Clock.checkSleep seconds)
  note (.slept seconds)
  act (b.sleep seconds)

/-- A sleep that is not refused is written down. -/
theorem run_sleep {b : Backend σ} {seconds : Value} (h : Clock.checkSleep seconds = .ok ())
    (w : World σ) :
    (sleep b seconds).run w =
      (.ofExcept (b.sleep seconds w.cloud).1,
        { w with
          cloud := (b.sleep seconds w.cloud).2
          journal := .slept seconds :: w.journal }) := by
  unfold sleep
  rw [h, Run.ofExcept_ok, pure_bind, Run.run_bind_done (run_note _ _), run_act]

theorem run_sleep_refused {b : Backend σ} {seconds : Value} {f : Fault}
    (h : Clock.checkSleep seconds = .error f) (w : World σ) :
    (sleep b seconds).run w = (.failed f, w) := by
  unfold sleep
  rw [h, Run.ofExcept_error, Run.run_bind_failed (Run.run_fail _ _)]

end World

end BlockStorage
