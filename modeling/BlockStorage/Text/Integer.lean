import BlockStorage.Text.Digit

/-!
Reading and writing integers. Around a written integer there may be blanks; it has a sign and
decimal digits of any script, with single underscores between digits. At most 4300 digits are
read, and integers of more digits are not written either.

Statements: `read_eq_ok_iff` gives the written form of every accepted text, `value_append` the
place-value rule, and what is written is read back (`read_write`).
-/
namespace BlockStorage.Text.Integer

/-- Why a text is no integer. -/
inductive Refusal where
  | malformed
  | tooLong (digits : Nat)
  deriving DecidableEq, Repr

/-- The most digits that are read or written. -/
def digitLimit : Nat := 4300

/-- A character that can stand inside a written number. -/
def isNumeral (c : Char) : Bool := c == '_' || isDecimal c

/-- Digits with single underscores between them. -/
def wellSpaced : List Char → Bool
  | [] => false
  | [c] => c != '_'
  | c :: d :: r => c != '_' && if d = '_' then wellSpaced r else wellSpaced (d :: r)

/-- The place values of the digits in a run. -/
def digitsOf (run : List Char) : List Nat := run.filterMap digitValue?

/-- The number that digits stand for. -/
def value (digits : List Nat) : Nat := digits.foldl (fun n d => 10 * n + d) 0

theorem value_append (ds : List Nat) (d : Nat) : value (ds ++ [d]) = 10 * value ds + d := by
  simp [value]

/-- The sign in front of a number, and what follows it. -/
def splitSign : List Char → Bool × List Char
  | '-' :: r => (true, r)
  | '+' :: r => (false, r)
  | r => (false, r)

/-- The number with a sign. -/
def signed (negative : Bool) (n : Nat) : Int := if negative then -(n : Int) else n

/-- The integer that a text denotes. -/
def read (cs : List Char) : Except Refusal Int :=
  let (negative, rest) := splitSign (strip cs)
  let run := rest.takeWhile isNumeral
  let digits := digitsOf run
  if !wellSpaced run then .error .malformed
  else if digits.length > digitLimit then .error (.tooLong digits.length)
  else if !(rest.dropWhile isNumeral).isEmpty then .error .malformed
  else .ok (signed negative (value digits))

/-- The accepted texts: a sign and a well spaced run of at most `digitLimit` digits, and nothing
else but blanks. -/
theorem read_eq_ok_iff {cs : List Char} {n : Int} :
    read cs = .ok n ↔
      let (negative, run) := splitSign (strip cs)
      run.all isNumeral = true ∧ wellSpaced run = true ∧ (digitsOf run).length ≤ digitLimit ∧
        n = signed negative (value (digitsOf run)) := by
  simp only [read]
  generalize splitSign (strip cs) = s
  obtain ⟨negative, run⟩ := s
  constructor
  · intro h
    simp only at h
    split at h
    · cases h
    · split at h
      · cases h
      · split at h
        · cases h
        · rename_i h1 h2 h3
          have h3 : run.dropWhile isNumeral = [] := by simpa using h3
          have hrun : run.takeWhile isNumeral = run := by
            have := List.takeWhile_append_dropWhile (p := isNumeral) (l := run)
            simpa [h3] using this
          have hall : run.all isNumeral = true := by
            rw [← hrun]; simp [List.all_takeWhile]
          rw [hrun] at h h1 h2
          exact ⟨hall, by simpa using h1, Nat.not_lt.1 h2, by cases h; rfl⟩
  · rintro ⟨hall, hspaced, hlen, rfl⟩
    have hall' : ∀ c ∈ run, isNumeral c = true := by simpa using hall
    have htake : run.takeWhile isNumeral = run := by
      have := @List.takeWhile_append_of_pos _ isNumeral run [] hall'
      simpa using this
    have hdrop : run.dropWhile isNumeral = [] := by
      have := @List.dropWhile_append_of_pos _ isNumeral run [] hall'
      simpa using this
    simp [htake, hdrop, hspaced, Nat.not_lt.2 hlen]

/-- The words of a refusal, given the refused text as it is quoted. -/
def Refusal.message (quoted : String) : Refusal → String
  | .malformed =>
    "invalid literal for int() with base 10: " ++ String.ofList (quoted.toList.take 200)
  | .tooLong digits =>
    "Exceeds the limit (4300 digits) for integer string conversion: value has "
      ++ toString digits ++ " digits; use sys.set_int_max_str_digits() to increase the limit"

/-- The least number of too many digits. -/
def writeLimit : Nat := Nat.pow 10 digitLimit

theorem writeLimit_pos : 0 < writeLimit := by
  unfold writeLimit
  rw [Nat.pow_eq]
  exact Nat.pow_pos (by decide)

/-- A number of so few digits is below the limit. -/
theorem lt_writeLimit {n digits : Nat} (hdigits : digits ≤ digitLimit)
    (h : n < Nat.pow 10 digits) : n < writeLimit := by
  unfold writeLimit
  generalize digitLimit = most at hdigits
  exact Nat.lt_of_lt_of_le h (Nat.pow_le_pow_right (by decide) hdigits)

/-- Whether an integer is short enough to be written. -/
def writable (n : Int) : Bool := n.natAbs < writeLimit

/-- The words for an integer that is too long to be written. -/
def notWritable : String :=
  "Exceeds the limit (4300 digits) for integer string conversion; use "
    ++ "sys.set_int_max_str_digits() to increase the limit"

/-- The decimal text of an integer. -/
def write (n : Int) : String := toString n

/-! ### Reading what is written -/

/-- The digits of a number have the value of it. -/
theorem value_digitsOf {cs : List Char} (h : ∀ c ∈ cs, c.isDigit = true) :
    value (digitsOf cs) = Nat.ofDigitChars 10 cs 0 := by
  suffices ∀ n, (digitsOf cs).foldl (fun n d => 10 * n + d) n = Nat.ofDigitChars 10 cs n from this 0
  induction cs with
  | nil => exact fun _ => rfl
  | cons c rest ih =>
    intro n
    have hc := digitValue?_of_isDigit (h c List.mem_cons_self)
    rw [digitsOf, List.filterMap_cons, hc, List.foldl_cons, Nat.ofDigitChars_cons]
    exact ih (fun x hx => h x (List.mem_cons_of_mem c hx)) _

theorem wellSpaced_of_digits {cs : List Char} (hne : cs ≠ []) (h : ∀ c ∈ cs, c ≠ '_') :
    wellSpaced cs = true := by
  induction cs with
  | nil => exact absurd rfl hne
  | cons c rest ih =>
    have hc := h c List.mem_cons_self
    cases rest with
    | nil => simpa [wellSpaced] using hc
    | cons d rest =>
      have hd := h d (List.mem_cons_of_mem c List.mem_cons_self)
      have hrest := ih (List.cons_ne_nil d rest) fun x hx => h x (List.mem_cons_of_mem c hx)
      simp [wellSpaced, hc, hd, hrest]

theorem read_digits {cs : List Char} {negative : Bool} {run : List Char}
    (hsign : splitSign (strip cs) = (negative, run)) (hne : run ≠ [])
    (hdigits : ∀ c ∈ run, c.isDigit = true) (hlength : run.length ≤ digitLimit) :
    read cs = .ok (signed negative (Nat.ofDigitChars 10 run 0)) := by
  refine read_eq_ok_iff.2 ?_
  rw [hsign, ← value_digitsOf hdigits]
  refine ⟨?_, ?_, ?_, rfl⟩
  · rw [List.all_eq_true]
    intro c hc
    rw [isNumeral, isDecimal_of_isDigit (hdigits c hc), Bool.or_true]
  · apply wellSpaced_of_digits hne
    rintro c hc rfl
    exact absurd (hdigits _ hc) (by decide)
  · exact Nat.le_trans (List.length_filterMap_le _ _) hlength

theorem length_toDigits_le {n : Nat} (h : n < writeLimit) :
    (Nat.toDigits 10 n).length ≤ digitLimit := by
  unfold writeLimit at h
  have hpositive : 0 < digitLimit := by decide
  generalize digitLimit = most at h hpositive ⊢
  exact (Nat.length_toDigits_le_iff (by decide) hpositive).2 h

theorem splitSign_of_digits {cs : List Char} (h : ∀ c ∈ cs, c.isDigit = true) :
    splitSign cs = (false, cs) := by
  unfold splitSign
  split
  · exact absurd (h '-' List.mem_cons_self) (by decide)
  · exact absurd (h '+' List.mem_cons_self) (by decide)
  · rfl

/-- What is written is read back. -/
theorem read_write {n : Int} (h : writable n = true) : read (write n).toList = .ok n := by
  have hdigits : ∀ m : Nat, ∀ c ∈ Nat.toDigits 10 m, c.isDigit = true := fun m c hc =>
    Nat.isDigit_of_mem_toDigits (by decide) (by decide) hc
  have hsolid : ∀ m : Nat, ∀ c ∈ Nat.toDigits 10 m, isBlank c = false := fun m c hc =>
    isBlank_of_isDigit (hdigits m c hc)
  have hlength := length_toDigits_le (of_decide_eq_true h)
  rw [write, Int.toString_eq_repr, Int.repr_eq_if]
  split
  · rename_i hpositive
    have habs : n.toNat = n.natAbs := by omega
    rw [habs, Nat.toList_repr]
    have hsign : splitSign (strip (Nat.toDigits 10 n.natAbs)) =
        (false, Nat.toDigits 10 n.natAbs) := by
      rw [strip_of_solid (hsolid _), splitSign_of_digits (hdigits _)]
    rw [read_digits hsign Nat.toDigits_ne_nil (hdigits _) hlength, Nat.ofDigitChars_ten_toDigits]
    have hvalue : signed false n.natAbs = n := Int.natAbs_of_nonneg hpositive
    rw [hvalue]
  · rename_i hnegative
    have habs : (-n).toNat = n.natAbs := by omega
    rw [habs, String.toList_append, Nat.toList_repr]
    have hsign : splitSign (strip ('-' :: Nat.toDigits 10 n.natAbs)) =
        (true, Nat.toDigits 10 n.natAbs) := by
      rw [strip_of_solid]
      · rfl
      · intro c hc
        rcases List.mem_cons.1 hc with rfl | hc
        · decide
        · exact hsolid _ c hc
    have hread := read_digits hsign Nat.toDigits_ne_nil (hdigits _) hlength
    have hvalue : signed true n.natAbs = n := by
      simp only [signed, if_true]
      omega
    rw [Nat.ofDigitChars_ten_toDigits, hvalue] at hread
    exact hread

end BlockStorage.Text.Integer
