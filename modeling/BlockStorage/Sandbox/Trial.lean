import BlockStorage.Sandbox
import BlockStorage.Session

/-!
Sessions to try operations in: an account with one template, under the built-in settings, on a
cloud held in memory that may have two machines, and an account whose volumes are too long to be
written of.
-/
namespace BlockStorage.Sandbox

/-- Volumes of five units. -/
def small : StorageTemplate := ⟨.int 5, .text "small", .text "z1", .null⟩

/-- An account that can create volumes of one kind. -/
def account : Cloud where
  cls := .amazon
  title := .text "trial"
  computeTemplates := []
  storageTemplates := [("small", small)]
  apikey := .text "key"
  apisecret := .text "secret"
  region := .text "r1"

/-- An account has no problems if its only template has none. -/
theorem problems_offering {name : String} {t : StorageTemplate} (ht : t.problems = .ok [])
    (hname : Cloud.templatesProblem? [(name, [])] = none) :
    ({ account with storageTemplates := [(name, t)] } : Cloud).problems = .ok [] := by
  unfold Cloud.problems
  simp only [List.mapM_cons, List.mapM_nil, ht, bind, Except.bind, pure, Except.pure, hname]
  rfl

/-- The settings that hold when nothing is set. -/
def plainSettings : Settings := .ofLayer Settings.builtIn

/-- A context whose waits are given up after ten queries. -/
def context (settings : Settings) : Context Sandbox := ⟨backend, settings, Cloud.usual, 10⟩

/-- Such a context when nothing is set. -/
def plainContext : Context Sandbox := context plainSettings

/-- A session of an account that has not asked for anything yet. -/
def start (cloud : Sandbox) (holder : Cloud := account) : Session Sandbox :=
  ⟨⟨cloud, [], 0⟩, { cloud := holder }⟩

/-- A cloud that tags nothing. -/
def untagging : Sandbox where
  clock := 0
  troubles := [(.createTags, ⟨.foreign .runtime (some "no tags"), 0, none⟩)]

/-- The least size that is too long to be written. -/
def overlong : Value := .int Text.Integer.writeLimit

theorem writable_overlong : overlong.writable = false := by
  show decide ((Text.Integer.writeLimit : Int).natAbs < Text.Integer.writeLimit) = false
  rw [Int.natAbs_natCast]
  exact decide_eq_false (Nat.lt_irrefl _)

theorem truthy_overlong : overlong.truthy = true := by
  have hpos : 0 < Text.Integer.writeLimit := Text.Integer.writeLimit_pos
  show ((Text.Integer.writeLimit : Int) != 0) = true
  rw [bne_iff_ne]
  omega

/-- Overlong volumes. -/
def huge : StorageTemplate := ⟨overlong, .text "huge", .text "z1", .null⟩

/-- An account that can create overlong volumes. -/
def overlongAccount : Cloud :=
  { account with storageTemplates := [("huge", huge)] }

/-- A session of that account, and settings under which volumes can be that long. -/
def overlongStart : Session Sandbox := start { clock := 0 } overlongAccount

def overlongSettings : Settings := { plainSettings with maxSize := overlong }

/-- A machine with private addresses. -/
def hostWith (id : String) (addresses : List String) : Host where
  id := .text id
  privateAddresses := .list (addresses.map .text)

/-- A cloud of two machines, by the addresses that they have. -/
def pair (first second : List String) : Sandbox where
  clock := 0
  hosts := [hostWith "i-1" first, hostWith "i-2" second]

/-- What goes wrong in trials. -/
def boom : Fault := .foreign .runtime (some "boom")

/-- A cloud of one machine that cannot be described. -/
def unreadable : Sandbox where
  clock := 0
  hosts := [{ hostWith "i-1" [] with unreadable := some boom }]

/-- A cloud with nothing in it, which refuses to change that. -/
def barren : Backend Unit where
  now _ := 0
  sleep _ _ := (.ok (), ())
  connect _ _ := (.ok (), ())
  respond _ r _ := (answer r, ())
where
  answer : (r : Request) → Except Fault r.Answer
    | .listInstances | .describeInstances _ => .ok []
    | .listDisks | .describeDisks _ => .ok []
    | .describeTags _ => .ok (.tags [])
    | _ => .error boom

/-- A session with the barren cloud, under the built-in settings. -/
def barrenContext : Context Unit := ⟨barren, plainSettings, Cloud.usual, 10⟩

def barrenStart (holder : Cloud) : Session Unit := ⟨⟨(), [], 0⟩, { cloud := holder }⟩

/-- The built-in settings, but that machines are remembered by their addresses. -/
def cachingSettings : Settings := { plainSettings with cacheAddresses := true }

end BlockStorage.Sandbox
