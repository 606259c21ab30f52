import BlockStorage.Command.Arguments

/-!
Command lines: a cloud and one thing to do there. Options of the program come before the command
and those of a command behind it.

Statement: a command and its operands, spelled without options, are read as they are spelled
(`parse_words`).
-/
namespace BlockStorage

open Command (Operand)

/-- What can be done with a cloud. -/
inductive Command where
  | list (address : Operand)
  | listAll
  | create (template : Operand) (location timeout : Option Operand)
  | attach (volume device address : Operand) (timeout : Option Operand)
  | detach (volume address : Operand) (timeout : Option Operand)
  | delete (volume : Operand) (location timeout : Option Operand)
  | volumeName (volume : Operand)
  | volumeIds (address : Operand)
  deriving DecidableEq, Repr

/-- What a command line asks for. -/
structure CommandLine where
  cloud : Operand
  verbosity : Nat
  command : Command
  deriving DecidableEq, Repr

namespace Command

/-! ### Reading -/

def verbose : Switch := ⟨'v', "verbose", false⟩

def location : Switch := ⟨'l', "location", true⟩

def timeout : Switch := ⟨'t', "timeout", true⟩

/-- The arguments before the command. -/
def lineGrammar : Grammar where
  switches := [.help, verbose]
  operands := 1
  delegates := true

/-- The names of commands, and the arguments that each takes. -/
def grammars : List (String × Grammar) :=
  [("list", ⟨[.help], 1, false⟩),
    ("list-all", ⟨[.help], 0, false⟩),
    ("create", ⟨[.help, location, timeout], 1, false⟩),
    ("attach", ⟨[.help, timeout], 3, false⟩),
    ("detach", ⟨[.help, timeout], 2, false⟩),
    ("delete", ⟨[.help, location, timeout], 1, false⟩),
    ("name", ⟨[.help], 1, false⟩),
    ("volume-ids", ⟨[.help], 1, false⟩)]

/-- The command of a name with the arguments read for it, if none is missing. -/
def ofReading? (name : String) (t : Reading) : Option Command :=
  match name, t.operands with
  | "list", [address] => some (.list address)
  | "list-all", [] => some .listAll
  | "create", [template] => some (.create template (t.value? location) (t.value? timeout))
  | "attach", [volume, device, address] =>
    some (.attach volume device address (t.value? timeout))
  | "detach", [volume, address] => some (.detach volume address (t.value? timeout))
  | "delete", [volume] => some (.delete volume (t.value? location) (t.value? timeout))
  | "name", [volume] => some (.volumeName volume)
  | "volume-ids", [address] => some (.volumeIds address)
  | _, _ => none

/-- The command that arguments spell, and whether there is something more that is not expected. -/
def parseCommand : List String → Except Stop (Command × Bool)
  | [] => .error .refused
  | name :: args =>
    match grammars.lookup name with
    | none => .error .refused
    | some g => do
      let t ← g.readAll args
      match ofReading? name t with
      | some c => return (c, t.surplus)
      | none => .error .refused

/-- The command line that arguments spell. -/
def parse (args : List String) : Except Stop CommandLine := do
  let t ← lineGrammar.readAll args
  let (command, surplus) ← parseCommand t.delegated
  match t.operands with
  | [cloud] =>
    if t.surplus || surplus then .error .refused
    else return { cloud, verbosity := t.count verbose, command }
  | _ => .error .refused

/-- Where no argument starts with a dash, the first is the cloud and the rest are the command's. -/
theorem lineGrammar_readAll {cloud name : String} {args : List String}
    (h : ∀ s ∈ cloud :: name :: args, s.toList.head? ≠ some '-') :
    lineGrammar.readAll (cloud :: name :: args) =
      .ok { operands := [some cloud], delegated := name :: args, atOperand := true } := by
  have hdivider : cloud ≠ "--" := by
    rintro rfl
    simpa using h _ List.mem_cons_self
  unfold Grammar.readAll
  rw [lineGrammar.marks_words h]
  simp [Grammar.read, lineGrammar, Reading.addOperand, Operand.ofText, hdivider, bind, Except.bind,
    Function.comp_def]

/-- A command takes its operands, if there are as many as it takes. -/
theorem exists_ofReading? {name : String} {g : Grammar} (hg : (name, g) ∈ grammars)
    {operands : List Operand} (h : operands.length = g.operands) (atOperand : Bool) :
    ∃ command, ofReading? name { operands, atOperand } = some command := by
  simp only [grammars, List.mem_cons, List.not_mem_nil, or_false, Prod.mk.injEq] at hg
  rcases hg with ⟨rfl, rfl⟩ | ⟨rfl, rfl⟩ | ⟨rfl, rfl⟩ | ⟨rfl, rfl⟩ | ⟨rfl, rfl⟩ | ⟨rfl, rfl⟩ |
    ⟨rfl, rfl⟩ | ⟨rfl, rfl⟩
  all_goals
    -- no command takes more than three operands
    obtain _ | ⟨a, _ | ⟨b, _ | ⟨c, _ | ⟨d, rest⟩⟩⟩⟩ := operands
    all_goals first
      | exact ⟨_, rfl⟩
      | simp at h

/-- A cloud, a command and its operands, spelled without options, are read as they are spelled. -/
theorem parse_words {cloud name : String} {g : Grammar} {args : List String}
    (hg : grammars.lookup name = some g) (hargs : args.length = g.operands)
    (h : ∀ s ∈ cloud :: args, s.toList.head? ≠ some '-') :
    ∃ command, ofReading? name { operands := args.map some, atOperand := !args.isEmpty } =
        some command ∧ parse (cloud :: name :: args) = .ok ⟨some cloud, 0, command⟩ := by
  have hmem : (name, g) ∈ grammars := by
    obtain ⟨l₁, l₂, hsplit, -⟩ := List.lookup_eq_some_iff.1 hg
    rw [hsplit]
    exact List.mem_append_right _ List.mem_cons_self
  have hname : name.toList.head? ≠ some '-' := by
    have hall : ∀ e ∈ grammars, e.1.toList.head? ≠ some '-' := by decide
    exact hall _ hmem
  have hline : ∀ s ∈ cloud :: name :: args, s.toList.head? ≠ some '-' := by
    simp only [List.forall_mem_cons] at h ⊢
    exact ⟨h.1, hname, h.2⟩
  have hlength : (args.map some).length = g.operands := by rw [List.length_map, hargs]
  obtain ⟨command, hcommand⟩ := exists_ofReading? hmem hlength (!args.isEmpty)
  have hread := g.readAll_words (fun s hs => h s (List.mem_cons_of_mem _ hs)) (Nat.le_of_eq hargs)
  refine ⟨command, hcommand, ?_⟩
  simp only [parse, parseCommand, lineGrammar_readAll hline, hg, hread, hcommand, bind, Except.bind]
  rfl

example : parse ["home", "detach", "v", "10.0.0.1"] =
    .ok ⟨some "home", 0, .detach (some "v") (some "10.0.0.1") none⟩ := by rfl

end Command

end BlockStorage
