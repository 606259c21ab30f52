import BlockStorage.Text.Digit

/-!
Arguments of a command: options, which start with a dash, and operands. An option goes by a letter
or by a name, of which any beginning will do that fits no other name. A value follows its option
as the next argument or in the same one, and letters without values may share one argument, of
which every letter must be known. A negative number and an argument with a blank inside are
operands. From a divider on, everything is an operand; the divider itself belongs to the operand
before or behind it. A divider in the place of a value or of an operand stands for none.

What the arguments look like is decided for all of them before the first one is acted on, so an
ambiguous name is refused even behind a request for help.

Statements: an argument that starts with no dash is a word (`mark_of_not_dash`), and arguments that
are all words, no more than there are operands, are the operands (`readAll_words`).
-/
namespace BlockStorage.Command

/-- An option. -/
structure Switch where
  letter : Char
  name : String
  valued : Bool
  deriving DecidableEq, Repr

/-- The option that asks for help. -/
def Switch.help : Switch := ⟨'h', "help", false⟩

/-- What is expected: some options and a number of operands. What comes after these may be left to
another grammar. -/
structure Grammar where
  switches : List Switch
  operands : Nat
  delegates : Bool := false

/-- An operand or the value of an option; a divider in its place stands for none. -/
abbrev Operand := Option String

/-- The operand that a text spells. -/
def Operand.ofText (s : String) : Operand := if s = "--" then none else some s

/-- Why arguments are not read to the end. -/
inductive Stop where
  | help
  | refused
  deriving DecidableEq, Repr

/-- What an argument looks like. -/
inductive Mark where
  | word
  | divider
  | unknown
  /-- An option by its name, and what follows an equals sign. -/
  | named (o : Switch) (value : Option String)
  /-- An option by its letter, and what follows that. -/
  | lettered (o : Switch) (tail : List Char)
  deriving DecidableEq, Repr

structure Argument where
  text : String
  mark : Mark
  deriving DecidableEq, Repr

/-! ### Looking at arguments -/

/-- Whether digits, perhaps with a point before the last of them, are all there is. -/
def isPlainNumber (cs : List Char) : Bool :=
  match cs.dropWhile Text.isDecimal with
  | [] => !cs.isEmpty
  | '.' :: fraction => !fraction.isEmpty && fraction.all Text.isDecimal
  | _ => false

/-- The text less one line end at its end. -/
def dropLineEnd (cs : List Char) : List Char :=
  if cs.getLast? = some '\n' then cs.dropLast else cs

/-- What stands before the first equals sign, and what behind it if there is one. -/
def splitEquals (cs : List Char) : List Char × Option String :=
  (cs.takeWhile (· ≠ '='),
    if cs.contains '=' then some (String.ofList ((cs.dropWhile (· ≠ '=')).drop 1)) else none)

namespace Grammar

variable (g : Grammar)

/-- The option of a letter. -/
def lettered? (c : Char) : Option Switch := g.switches.find? fun o => o.letter = c

/-- The options that a name or its beginning may stand for. -/
def named (start : List Char) : List Switch :=
  match g.switches.find? fun o => o.name.toList = start with
  | some o => [o]
  | none => g.switches.filter fun o => start.isPrefixOf o.name.toList

/-- What an argument is that starts with a dash and is no option. -/
def stray (cs : List Char) : Mark :=
  if isPlainNumber (dropLineEnd (cs.drop 1)) || cs.contains ' ' then .word else .unknown

/-- What an argument looks like, other than the divider. -/
def mark (s : String) : Except Stop Mark :=
  match s.toList with
  | '-' :: '-' :: rest =>
    let (start, value) := splitEquals rest
    match g.named start with
    | [] => .ok (stray s.toList)
    | [o] => .ok (.named o value)
    | _ => .error .refused
  | '-' :: c :: rest =>
    match g.lettered? c with
    | some o => .ok (.lettered o rest)
    | none => .ok (stray s.toList)
  | _ => .ok .word

theorem mark_of_not_dash {s : String} (h : s.toList.head? ≠ some '-') :
    g.mark s = .ok .word := by
  unfold mark
  split
  · rename_i hs
    simp [hs] at h
  · rename_i hs
    simp [hs] at h
  · rfl

def marks : List String → Except Stop (List Argument)
  | [] => .ok []
  | s :: r =>
    if s = "--" then .ok (⟨s, .divider⟩ :: r.map (⟨·, .word⟩))
    else do return ⟨s, ← g.mark s⟩ :: (← marks r)

theorem marks_words {r : List String} (h : ∀ s ∈ r, s.toList.head? ≠ some '-') :
    g.marks r = .ok (r.map (⟨·, .word⟩)) := by
  induction r with
  | nil => rfl
  | cons s r ih =>
    have hs := h s List.mem_cons_self
    have : s ≠ "--" := by rintro rfl; simp at hs
    simp only [marks, this, if_false, g.mark_of_not_dash hs,
      ih fun t ht => h t (List.mem_cons_of_mem _ ht)]
    rfl

end Grammar

/-! ### Acting on arguments -/

/-- The options that one argument gives. Only the last option can have a value, which may have to
come from the next argument. -/
structure Group where
  flags : List Switch := []
  valued : Option (Switch × Option String) := none

/-- The options that letters give: `o`, and what follows it. A letter that takes a value takes all
the rest, and a letter that is not known spoils the whole argument. -/
def bundle (g : Grammar) (o : Switch) : List Char → Option Group
  | [] => some (if o.valued then { valued := some (o, none) } else { flags := [o] })
  | c :: rest =>
    if o.valued then some { valued := some (o, some (String.ofList (c :: rest))) }
    else match g.lettered? c with
      | some p => (bundle g p rest).map fun b => { b with flags := o :: b.flags }
      | none => none

/-- The options of an argument that starts with the letter of `o`. An equals sign right behind
that letter only says that something follows. -/
def cluster (g : Grammar) (o : Switch) : List Char → Option Group
  | ['='] => if o.valued then some { valued := some (o, some "") } else none
  | '=' :: rest => bundle g o rest
  | rest => bundle g o rest

/-- The options that a name gives. -/
def single (o : Switch) (value : Option String) : Option Group :=
  if o.valued then some { valued := some (o, value) }
  else if value.isNone then some { flags := [o] }
  else none

/-- What was read so far. -/
structure Reading where
  operands : List Operand := []
  /-- What is left to another grammar. -/
  delegated : List String := []
  flags : List Switch := []
  values : List (Switch × Operand) := []
  /-- Whether there was something that is not expected. -/
  surplus : Bool := false
  /-- Whether the last argument was an operand, to which a divider behind it belongs. -/
  atOperand : Bool := false

namespace Reading

def addOperand (t : Reading) (s : Operand) : Reading :=
  { t with operands := t.operands ++ [s], atOperand := true }

def addSurplus (t : Reading) : Reading := { t with surplus := true, atOperand := false }

def addValue (t : Reading) (o : Switch) (s : Operand) : Reading :=
  { t with values := t.values ++ [(o, s)], atOperand := false }

/-- Takes the options of a group that have no value; help stops everything. -/
def addFlags (t : Reading) (b : Group) : Except Stop Reading :=
  if b.flags.contains .help then .error .help
  else .ok { t with flags := t.flags ++ b.flags, atOperand := false }

/-- How often an option was given. -/
def count (t : Reading) (o : Switch) : Nat := t.flags.count o

/-- The value that was last given to an option. -/
def value? (t : Reading) (o : Switch) : Option Operand := t.values.reverse.lookup o

end Reading

namespace Grammar

variable (g : Grammar)

/-- The options of an argument, if it gives any. -/
def group? (m : Mark) : Option Group :=
  match m with
  | .named o value => single o value
  | .lettered o tail => cluster g o tail
  | _ => none

/-- Acts on each argument in turn. -/
def read : Reading → List Argument → Except Stop Reading
  | t, [] => .ok t
  | t, a :: r =>
    match a.mark with
    | .word =>
      if t.operands.length < g.operands then
        read (t.addOperand (.ofText a.text)) r
      else if g.delegates then .ok { t with delegated := a.text :: r.map Argument.text }
      else read t.addSurplus r
    | .divider =>
      if t.atOperand then read { t with atOperand := false } r
      else if t.operands.length < g.operands then
        match r with
        | b :: r => read (t.addOperand (some b.text)) r
        | [] => .ok t.addSurplus
      else if g.delegates then .ok { t with delegated := a.text :: r.map Argument.text }
      else read t.addSurplus r
    | .unknown => read t.addSurplus r
    | m =>
      match g.group? m with
      | none => .error .refused
      | some b =>
        match b.valued, r with
        | none, r =>
          match t.addFlags b with
          | .ok t => read t r
          | .error e => .error e
        | some (o, some s), r =>
          match t.addFlags b with
          | .ok t => read (t.addValue o (.ofText s)) r
          | .error e => .error e
        | some (o, none), ⟨s, .word⟩ :: r =>
          match t.addFlags b with
          | .ok t => read (t.addValue o (.ofText s)) r
          | .error e => .error e
        | some (_, none), _ => .error .refused

/-- Reads arguments to the end. -/
def readAll (args : List String) : Except Stop Reading := do g.read {} (← g.marks args)

/-- Words are operands as long as there are not too many of them. By induction on the words, with
what was read so far. -/
theorem read_words {t : Reading} {words : List String} (hdivider : "--" ∉ words)
    (hfits : t.operands.length + words.length ≤ g.operands) :
    g.read t (words.map (⟨·, .word⟩)) = .ok { t with
      operands := t.operands ++ words.map some, atOperand := t.atOperand || !words.isEmpty } := by
  induction words generalizing t with
  | nil => simp [read]
  | cons s r ih =>
    have hs : s ≠ "--" := fun e => hdivider (e ▸ List.mem_cons_self)
    rw [List.length_cons] at hfits
    have hlt : t.operands.length < g.operands := by omega
    have hrest : (t.addOperand (some s)).operands.length + r.length ≤ g.operands := by
      simp only [Reading.addOperand, List.length_append, List.length_singleton]
      omega
    simp only [List.map_cons, read, hlt, if_true, Operand.ofText, hs, if_false]
    rw [ih (fun hm => hdivider (List.mem_cons_of_mem _ hm)) hrest]
    simp [Reading.addOperand]

/-- Arguments none of which starts with a dash are the operands. -/
theorem readAll_words {words : List String} (h : ∀ s ∈ words, s.toList.head? ≠ some '-')
    (hfits : words.length ≤ g.operands) :
    g.readAll words = .ok { operands := words.map some, atOperand := !words.isEmpty } := by
  have hdivider : "--" ∉ words := fun hm => by simpa using h _ hm
  have hread := g.read_words (t := {}) hdivider (by simpa using hfits)
  simp only [readAll, g.marks_words h, bind, Except.bind, hread]
  simp

end Grammar

end BlockStorage.Command
