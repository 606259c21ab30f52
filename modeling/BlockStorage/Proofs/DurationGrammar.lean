import BlockStorage.Duration.Reading
import Mathlib.Data.List.Induction
import Mathlib.Data.List.TakeWhile
import Mathlib.Data.Nat.Digits.Defs

/-!
The grammar of written durations.

`Text.Spells` says which texts spell an integer, and `Duration.Denotes` which texts denote how many
seconds: digits alone, or an integer and the letter of its unit. Both are written down without any
of the scanning that reads them. Reading an integer decides the one (`read_eq_ok_iff_spells`),
from which reading a duration decides the other (`read_of_denotes`, `read_or_denotes`), and a text
denotes seconds in one way at most (`denotes_unique`).
-/
namespace BlockStorage

/-! ### Spelled integers -/

namespace Text

/-- Decimal digits of any script, with single underscores between them, and their values. -/
inductive Numeral : List Char → List Nat → Prop where
  | digit {c : Char} {d : Nat} (h : digitValue? c = some d) : Numeral [c] [d]
  | next {c : Char} {d : Nat} {cs : List Char} {ds : List Nat} (h : digitValue? c = some d)
      (rest : Numeral cs ds) : Numeral (c :: cs) (d :: ds)
  | spaced {c : Char} {d : Nat} {cs : List Char} {ds : List Nat} (h : digitValue? c = some d)
      (rest : Numeral cs ds) : Numeral (c :: '_' :: cs) (d :: ds)

/-- The signs, and whether what follows is negative. -/
inductive Sign : List Char → Bool → Prop where
  | absent : Sign [] false
  | plus : Sign ['+'] false
  | minus : Sign ['-'] true

/-- A text spells an integer: blanks, a sign, at most 4300 digits with their most significant one
first, and blanks. -/
inductive Spells : List Char → Int → Prop where
  | intro {before sign run after : List Char} {negative : Bool} {digits : List Nat}
      (hbefore : ∀ c ∈ before, isBlank c = true) (hsign : Sign sign negative)
      (hrun : Numeral run digits) (hlength : digits.length ≤ 4300)
      (hafter : ∀ c ∈ after, isBlank c = true) :
      Spells (before ++ (sign ++ run) ++ after)
        (if negative then -((Nat.ofDigits 10 digits.reverse : Nat) : Int)
          else (Nat.ofDigits 10 digits.reverse : Nat))

/-! #### Blanks around a text -/

/-- The blocks of digits and the ranges of blanks do not meet. -/
theorem isBlank_of_digitValue? {c : Char} {d : Nat} (h : digitValue? c = some d) :
    isBlank c = false := by
  have hapart : ∀ z ∈ zeros, ∀ r ∈ blanks, r.2 < z ∨ z + 9 < r.1 := by decide
  obtain ⟨z, hz, -⟩ := Option.map_eq_some_iff.1 h
  have hwithin := List.find?_some hz
  simp only [Bool.and_eq_true, decide_eq_true_eq] at hwithin
  rw [isBlank, inRanges, List.any_eq_false]
  intro r hr hblank
  simp only [Bool.and_eq_true, decide_eq_true_eq] at hblank
  have := hapart z (List.mem_of_find?_eq_some hz) r hr
  omega

/-- Blanks around a text without blanks are taken off. -/
theorem strip_of_surrounded {before cs after : List Char}
    (hbefore : ∀ c ∈ before, isBlank c = true) (h : ∀ c ∈ cs, isBlank c = false)
    (hafter : ∀ c ∈ after, isBlank c = true) : strip (before ++ cs ++ after) = cs := by
  have hreverse : ∀ c ∈ cs.reverse, isBlank c = false := fun c hc => h c (List.mem_reverse.1 hc)
  have hturned : ∀ c ∈ after.reverse, isBlank c = true := fun c hc =>
    hafter c (List.mem_reverse.1 hc)
  rw [strip, List.append_assoc, List.dropWhile_append_of_pos hbefore]
  cases cs with
  | nil => rw [List.nil_append, List.dropWhile_eq_nil_iff.2 hafter, List.reverse_nil,
      List.dropWhile_nil, List.reverse_nil]
  | cons c rest =>
    -- The blanks behind the text come first once it is turned around.
    rw [List.cons_append, List.dropWhile_cons, h c List.mem_cons_self, if_neg Bool.false_ne_true,
      ← List.cons_append, List.reverse_append, List.dropWhile_append_of_pos hturned,
      dropWhile_of_solid hreverse, List.reverse_reverse]

/-- What is taken off a text is blank. -/
theorem exists_surrounded (cs : List Char) :
    ∃ before after, cs = before ++ strip cs ++ after ∧ (∀ c ∈ before, isBlank c = true) ∧
      ∀ c ∈ after, isBlank c = true := by
  have hblank : ∀ ds : List Char, ∀ c ∈ ds.takeWhile isBlank, isBlank c = true := fun ds c hc =>
    List.all_eq_true.1 (List.all_takeWhile (l := ds)) c hc
  refine ⟨cs.takeWhile isBlank, ((cs.dropWhile isBlank).reverse.takeWhile isBlank).reverse,
    ?_, hblank cs, fun c hc => hblank _ c (List.mem_reverse.1 hc)⟩
  rw [strip, List.append_assoc, ← List.reverse_append, List.takeWhile_append_dropWhile,
    List.reverse_reverse, List.takeWhile_append_dropWhile]

/-! #### Signs and digits -/

theorem digitValue?_underscore : digitValue? '_' = none := by decide

theorem ne_underscore_of_digitValue? {c : Char} {d : Nat} (h : digitValue? c = some d) :
    c ≠ '_' := by
  rintro rfl
  rw [digitValue?_underscore] at h
  cases h

theorem isNumeral_of_digitValue? {c : Char} {d : Nat} (h : digitValue? c = some d) :
    Integer.isNumeral c = true := by
  simp [Integer.isNumeral, isDecimal, h]

/-- A numeral starts with a digit. -/
theorem Numeral.head {cs : List Char} {ds : List Nat} (h : Numeral cs ds) :
    ∃ c d rest, cs = c :: rest ∧ digitValue? c = some d := by
  cases h with
  | digit h => exact ⟨_, _, _, rfl, h⟩
  | next h rest => exact ⟨_, _, _, rfl, h⟩
  | spaced h rest => exact ⟨_, _, _, rfl, h⟩

/-- A numeral is a well spaced run of digits and underscores, and its values are those of the
digits. -/
theorem Numeral.scanned {cs : List Char} {ds : List Nat} (h : Numeral cs ds) :
    cs.all Integer.isNumeral = true ∧ Integer.wellSpaced cs = true ∧ Integer.digitsOf cs = ds := by
  induction h with
  | digit h =>
    simp [Integer.wellSpaced, Integer.digitsOf, isNumeral_of_digitValue? h, h,
      ne_underscore_of_digitValue? h]
  | next h rest ih =>
    obtain ⟨hall, hspaced, hvalues⟩ := ih
    obtain ⟨e, d', tail, rfl, he⟩ := rest.head
    refine ⟨by simp [isNumeral_of_digitValue? h, hall], ?_, ?_⟩
    · simpa [Integer.wellSpaced, ne_underscore_of_digitValue? h, ne_underscore_of_digitValue? he]
        using hspaced
    · rw [Integer.digitsOf, List.filterMap_cons, h, ← hvalues]
      rfl
  | spaced h rest ih =>
    obtain ⟨hall, hspaced, rfl⟩ := ih
    have hunderscore : Integer.isNumeral '_' = true := rfl
    refine ⟨by simp [isNumeral_of_digitValue? h, hall, hunderscore], ?_, ?_⟩
    · simp [Integer.wellSpaced, ne_underscore_of_digitValue? h, hspaced]
    · simp [Integer.digitsOf, h, digitValue?_underscore]

/-- A well spaced run of digits and underscores is a numeral. -/
theorem numeral_of_scanned {cs : List Char} (hall : ∀ c ∈ cs, Integer.isNumeral c = true)
    (hspaced : Integer.wellSpaced cs = true) : Numeral cs (Integer.digitsOf cs) := by
  have hdigit : ∀ c ∈ cs, c ≠ '_' → ∃ d, digitValue? c = some d := by
    intro c hc hne
    simpa [Integer.isNumeral, hne, isDecimal, Option.isSome_iff_exists] using hall c hc
  -- The scan takes one digit, or a digit and the underscore behind it.
  induction cs using Integer.wellSpaced.induct with
  | case1 => cases hspaced
  | case2 c =>
    obtain ⟨d, hd⟩ := hdigit c List.mem_cons_self (by simpa [Integer.wellSpaced] using hspaced)
    simpa [Integer.digitsOf, hd] using Numeral.digit hd
  | case3 c e rest ihrest ih =>
    simp only [Integer.wellSpaced, Bool.and_eq_true, bne_iff_ne, ne_eq] at hspaced
    obtain ⟨hne, hspaced⟩ := hspaced
    obtain ⟨d, hd⟩ := hdigit c List.mem_cons_self hne
    split at hspaced
    · rename_i hunderscore
      subst hunderscore
      have hrest := ihrest (fun x hx => hall x (by simp [hx])) hspaced
        (fun x hx => hdigit x (by simp [hx]))
      simpa [Integer.digitsOf, hd, digitValue?_underscore] using Numeral.spaced hd hrest
    · have hrest := ih (fun x hx => hall x (List.mem_cons_of_mem c hx)) hspaced
        (fun x hx => hdigit x (List.mem_cons_of_mem c hx))
      have hnext := Numeral.next hd hrest
      rwa [Integer.digitsOf, List.filterMap_cons, hd]

theorem Numeral.solid {cs : List Char} {ds : List Nat} (h : Numeral cs ds) :
    ∀ c ∈ cs, isBlank c = false := by
  intro c hc
  have hnumeral := List.all_eq_true.1 h.scanned.1 c hc
  rw [Integer.isNumeral, Bool.or_eq_true] at hnumeral
  rcases hnumeral with hunderscore | hdecimal
  · rw [beq_iff_eq.1 hunderscore]
    decide
  · obtain ⟨d, hd⟩ := Option.isSome_iff_exists.1 hdecimal
    exact isBlank_of_digitValue? hd

theorem Sign.solid {sign : List Char} {negative : Bool} (h : Sign sign negative) :
    ∀ c ∈ sign, isBlank c = false := by
  cases h with
  | absent => exact fun _ hc => nomatch hc
  | plus => exact List.forall_mem_singleton.2 rfl
  | minus => exact List.forall_mem_singleton.2 rfl

/-- The sign in front of a numeral is split off. -/
theorem Sign.split {sign : List Char} {negative : Bool} (h : Sign sign negative)
    {cs : List Char} {ds : List Nat} (hcs : Numeral cs ds) :
    Integer.splitSign (sign ++ cs) = (negative, cs) := by
  cases h with
  | plus => rfl
  | minus => rfl
  | absent =>
    obtain ⟨c, d, rest, rfl, hd⟩ := hcs.head
    rw [List.nil_append]
    unfold Integer.splitSign
    have hminus : digitValue? '-' = none := by decide
    have hplus : digitValue? '+' = none := by decide
    split
    · rename_i hfirst
      rw [(List.cons.inj hfirst).1, hminus] at hd
      cases hd
    · rename_i hfirst
      rw [(List.cons.inj hfirst).1, hplus] at hd
      cases hd
    · rfl

theorem exists_sign (cs : List Char) :
    ∃ sign, Sign sign (Integer.splitSign cs).1 ∧ cs = sign ++ (Integer.splitSign cs).2 := by
  unfold Integer.splitSign
  split
  · exact ⟨_, .minus, rfl⟩
  · exact ⟨_, .plus, rfl⟩
  · exact ⟨_, .absent, rfl⟩

theorem value_eq_ofDigits (ds : List Nat) : Integer.value ds = Nat.ofDigits 10 ds.reverse := by
  induction ds using List.reverseRecOn with
  | nil => rfl
  | append_singleton ds d ih =>
    rw [Integer.value_append, ih, List.reverse_append, List.reverse_singleton,
      List.singleton_append, Nat.ofDigits_cons]
    omega

/-- **Reading an integer decides whether a text spells one.** -/
theorem read_eq_ok_iff_spells {cs : List Char} {n : Int} :
    Integer.read cs = .ok n ↔ Spells cs n := by
  rw [Integer.read_eq_ok_iff]
  constructor
  · obtain ⟨before, after, hcs, hbefore, hafter⟩ := exists_surrounded cs
    obtain ⟨sign, hsign, hrest⟩ := exists_sign (strip cs)
    generalize Integer.splitSign (strip cs) = parts at hsign hrest ⊢
    obtain ⟨negative, run⟩ := parts
    rintro ⟨hall, hspaced, hlength, rfl⟩
    have hrun := numeral_of_scanned (List.all_eq_true.1 hall) hspaced
    rw [hcs, hrest, Integer.signed, value_eq_ofDigits]
    exact .intro hbefore hsign hrun hlength hafter
  · rintro ⟨hbefore, hsign, hrun, hlength, hafter⟩
    have hsolid : ∀ c ∈ _, isBlank c = false := fun c hc =>
      (List.mem_append.1 hc).elim (hsign.solid c) (hrun.solid c)
    obtain ⟨hall, hspaced, rfl⟩ := hrun.scanned
    rw [strip_of_surrounded hbefore hsolid hafter, hsign.split hrun]
    exact ⟨hall, hspaced, hlength, by rw [Integer.signed, value_eq_ofDigits]⟩

end Text

/-! ### Written durations -/

namespace Duration

/-- A text denotes so many seconds: digits alone are seconds, and an integer before the letter of a
unit is so many units. -/
inductive Denotes : Option Scale → List Char → Int → Prop where
  | bare {cs : List Char} {n : Int} (hdigits : Text.isDigits cs = true) (h : Text.Spells cs n) :
      Denotes none cs n
  | seconds {cs : List Char} {n : Int} (h : Text.Spells cs n) :
      Denotes (some .second) (cs ++ ['s']) n
  | minutes {cs : List Char} {n : Int} (h : Text.Spells cs n) :
      Denotes (some .minute) (cs ++ ['m']) (60 * n)
  | hours {cs : List Char} {n : Int} (h : Text.Spells cs n) :
      Denotes (some .hour) (cs ++ ['h']) (3600 * n)
  | days {cs : List Char} {n : Int} (h : Text.Spells cs n) :
      Denotes (some .day) (cs ++ ['d']) (86400 * n)
  | weeks {cs : List Char} {n : Int} (h : Text.Spells cs n) :
      Denotes (some .week) (cs ++ ['w']) (604800 * n)

/-- So many seconds are at most 999999999 days, rounded down, either way. -/
def Fits (n : Int) : Prop := (n / 86400).natAbs ≤ 999999999

/-- The letter that stands for a unit. -/
def Scale.letter : Scale → Char
  | second => 's'
  | minute => 'm'
  | hour => 'h'
  | day => 'd'
  | week => 'w'

theorem Scale.ofLetter?_eq_some_iff {c : Char} {u : Scale} :
    ofLetter? c = some u ↔ c = u.letter := by
  constructor
  · unfold ofLetter?
    split <;> (intro h; cases h) <;> rfl
  · rintro rfl
    cases u <;> rfl

/-- What is measured is an integer before the letter of a unit. -/
theorem measure?_eq_some_iff {cs : List Char} {n : Int} {u : Scale} :
    measure? cs = some (n, u) ↔ ∃ ds, cs = ds ++ [u.letter] ∧ Text.Spells ds n := by
  constructor
  · intro h
    unfold measure? at h
    split at h
    · rename_i hunit hread
      cases h
      obtain ⟨c, hc, hletter⟩ := Option.bind_eq_some_iff.1 hunit
      obtain ⟨ds, rfl⟩ := List.getLast?_eq_some_iff.1 hc
      rw [List.dropLast_concat, Text.read_eq_ok_iff_spells] at hread
      exact ⟨ds, by rw [Scale.ofLetter?_eq_some_iff.1 hletter], hread⟩
    · cases h
  · rintro ⟨ds, rfl, h⟩
    have hletter : Scale.ofLetter? u.letter = some u := Scale.ofLetter?_eq_some_iff.2 rfl
    simp only [measure?, List.getLast?_append, List.getLast?_singleton, Option.some_or,
      Option.bind_some, hletter, List.dropLast_concat, Text.read_eq_ok_iff_spells.2 h]

/-- A text with a unit denotes what is measured of it, whatever the unit. -/
theorem denotes_unit_iff {u : Scale} {cs : List Char} {k : Int} :
    Denotes (some u) cs k ↔ ∃ n, measure? cs = some (n, u) ∧ k = n * u.seconds := by
  simp only [measure?_eq_some_iff]
  constructor
  · intro h
    cases h with
    | seconds h => exact ⟨_, ⟨_, rfl, h⟩, (Int.mul_one _).symm⟩
    | minutes h => exact ⟨_, ⟨_, rfl, h⟩, Int.mul_comm ..⟩
    | hours h => exact ⟨_, ⟨_, rfl, h⟩, Int.mul_comm ..⟩
    | days h => exact ⟨_, ⟨_, rfl, h⟩, Int.mul_comm ..⟩
    | weeks h => exact ⟨_, ⟨_, rfl, h⟩, Int.mul_comm ..⟩
  · rintro ⟨n, ⟨ds, rfl, h⟩, rfl⟩
    rw [Int.mul_comm]
    cases u with
    | second => exact (Int.one_mul n).symm ▸ .seconds h
    | minute => exact .minutes h
    | hour => exact .hours h
    | day => exact .days h
    | week => exact .weeks h

/-- Digits alone are not measured. -/
theorem measure?_of_isDigits {cs : List Char} (h : Text.isDigits cs = true) :
    measure? cs = none := by
  simp only [measure?, unit?_of_isDigits h]

/-- A text denotes seconds in one form at most, and then so many. -/
theorem denotes_unique {f g : Option Scale} {cs : List Char} {n m : Int}
    (hf : Denotes f cs n) (hg : Denotes g cs m) : f = g ∧ n = m := by
  have happart : ∀ {u : Scale} {i j : Int}, Denotes none cs i → ¬Denotes (some u) cs j := by
    intro u i j hbare hunit
    cases hbare with
    | bare hdigits h =>
      obtain ⟨k, hk, -⟩ := denotes_unit_iff.1 hunit
      rw [measure?_of_isDigits hdigits] at hk
      cases hk
  match f, g with
  | none, none =>
    cases hf with
    | bare _ hf =>
      cases hg with
      | bare _ hg =>
        rw [← Text.read_eq_ok_iff_spells] at hf hg
        exact ⟨rfl, Except.ok.inj (hf.symm.trans hg)⟩
  | none, some _ => exact absurd hg (happart hf)
  | some _, none => exact absurd hf (happart hg)
  | some u, some w =>
    obtain ⟨i, hi, rfl⟩ := denotes_unit_iff.1 hf
    obtain ⟨j, hj, rfl⟩ := denotes_unit_iff.1 hg
    rw [hi] at hj
    cases hj
    exact ⟨rfl, rfl⟩

/-! ### What is read -/

theorem ofInteger_eq (n : Int) :
    ofInteger n = (ofMicroseconds (n * 1000000)).mapError Fault.ofOverflow := rfl

/-- So many seconds that fit are a duration. -/
theorem ofInteger_of_fits {n : Int} (h : Fits n) :
    ∃ d, ofInteger n = .ok d ∧ d.microseconds = n * 1000000 := by
  have hrange : (n * 1000000 / microsecondsPerDay).natAbs ≤ maxDays := by
    simp only [microsecondsPerDay, secondsPerDay, microsecondsPerSecond, maxDays]
    unfold Fits at h
    omega
  have hd : ofMicroseconds (n * 1000000) = .ok ⟨_, hrange⟩ := ofMicroseconds_eq_ok_iff.2 rfl
  exact ⟨_, by rw [ofInteger_eq, hd]; rfl, rfl⟩

/-- And so many that do not fit overflow. -/
theorem ofInteger_of_not_fits {n : Int} (h : ¬Fits n) :
    ∃ words, ofInteger n = .error (.foreign .overflow words) := by
  rw [ofInteger_eq]
  cases hd : ofMicroseconds (n * 1000000) with
  | ok d =>
    have hrange := d.inRange
    rw [ofMicroseconds_eq_ok_iff.1 hd] at hrange
    simp only [microsecondsPerDay, secondsPerDay, microsecondsPerSecond, maxDays] at hrange
    unfold Fits at h
    omega
  | error o => exact ⟨_, rfl⟩

/-- A text that denotes seconds is read as so many. -/
theorem read_of_denotes {form : Option Scale} {s : String} {n : Int}
    (h : Denotes form s.toList n) : read (.text s) = ofInteger n := by
  cases form with
  | none =>
    cases h with
    | bare hdigits h =>
      have hread := (Value.toInteger_text s n).2 (Text.read_eq_ok_iff_spells.2 h)
      simp only [read, hdigits, if_true, hread]
      rfl
  | some u =>
    obtain ⟨k, hmeasure, rfl⟩ := denotes_unit_iff.1 h
    have hdigits : ¬Text.isDigits s.toList = true := by
      intro hdigits
      rw [measure?_of_isDigits hdigits] at hmeasure
      cases hmeasure
    simp only [read, if_neg hdigits, hmeasure]

/-- A text that denotes nothing is refused. -/
theorem read_or_denotes (s : String) :
    (∃ form n, Denotes form s.toList n) ∨
      ∃ words, read (.text s) = .error (.foreign .badValue words) := by
  by_cases hdigits : Text.isDigits s.toList = true
  · simp only [read, hdigits, if_true, Value.toInteger]
    cases hread : Text.Integer.read s.toList with
    | ok n => exact .inl ⟨none, n, .bare hdigits (Text.read_eq_ok_iff_spells.1 hread)⟩
    | error r => exact .inr ⟨_, rfl⟩
  · simp only [read, if_neg hdigits]
    cases hmeasure : measure? s.toList with
    | some m => exact .inl ⟨some m.2, _, denotes_unit_iff.2 ⟨m.1, hmeasure, rfl⟩⟩
    | none =>
      have hwritable : ∀ v ∈ [Value.text s], v.writable = true := by simp [Value.writable]
      exact .inr ⟨_, congrArg Except.error (Fault.mentioning_of_writable _ hwritable)⟩

/-- A text is read as what it denotes: in one form at most, as exactly so many seconds where these
fit, as an overflow where they do not, and a text that denotes nothing is refused. -/
structure AsDenoted (s : String) : Prop where
  single : ∀ f g n m, Denotes f s.toList n → Denotes g s.toList m → f = g ∧ n = m
  fitting : ∀ form n, Denotes form s.toList n → Fits n →
    ∃ d, read (.text s) = .ok d ∧ d.microseconds = n * 1000000
  overflowing : ∀ form n, Denotes form s.toList n → ¬Fits n →
    ∃ words, read (.text s) = .error (.foreign .overflow words)
  refused : (∀ form n, ¬Denotes form s.toList n) →
    ∃ words, read (.text s) = .error (.foreign .badValue words)

theorem asDenoted (s : String) : AsDenoted s where
  single _ _ _ _ hf hg := denotes_unique hf hg
  fitting _ _ h hn := by
    rw [read_of_denotes h]
    exact ofInteger_of_fits hn
  overflowing _ _ h hn := by
    rw [read_of_denotes h]
    exact ofInteger_of_not_fits hn
  refused h := (read_or_denotes s).resolve_left fun ⟨form, n, hd⟩ => h form n hd

/-! ### Writing durations -/

/-- Seconds that fit are far from being too long to be written, also times sixty. -/
theorem writable_of_fits {n k : Int} (h : Fits n) (hk : k.natAbs ≤ 60 * n.natAbs) :
    Text.Integer.writable k = true := by
  have hshort : k.natAbs < Text.Integer.writeLimit := by
    refine Text.Integer.lt_writeLimit (by decide : 16 ≤ Text.Integer.digitLimit) ?_
    show k.natAbs < 10000000000000000
    unfold Fits at h
    omega
  rw [Text.Integer.writable, decide_eq_true_iff]
  exact hshort

theorem spells_write {n : Int} (h : Text.Integer.writable n = true) :
    Text.Spells (Text.Integer.write n).toList n :=
  Text.read_eq_ok_iff_spells.1 (Text.Integer.read_write h)

/-- A number that is not negative is written in digits alone. -/
theorem isDigits_write {n : Int} (h : 0 ≤ n) :
    Text.isDigits (Text.Integer.write n).toList = true := by
  rw [Text.Integer.write, Int.toString_eq_repr, Int.repr_eq_if, if_pos h, Nat.toList_repr,
    Text.isDigits, Bool.and_eq_true, List.all_eq_true]
  refine ⟨by simp, fun c hc => ?_⟩
  have hc := Nat.isDigit_of_mem_toDigits (by decide) (by decide) hc
  rw [Text.isDigit, Text.isDecimal_of_isDigit hc, Bool.true_or]

/-- A written number before the letter of a unit is so many of the unit. -/
theorem read_write_letter {n : Int} (h : Text.Integer.writable n = true) (u : Scale) :
    read (.text (Text.Integer.write n ++ String.singleton u.letter)) =
      read (.int (n * u.seconds)) := by
  have htext : (Text.Integer.write n ++ String.singleton u.letter).toList =
      (Text.Integer.write n).toList ++ [u.letter] := by
    rw [String.toList_append, String.toList_singleton]
  have hmeasure := measure?_eq_some_iff.2 ⟨_, htext, spells_write h⟩
  exact read_of_denotes (denotes_unit_iff.2 ⟨n, hmeasure, rfl⟩)

/-- So many seconds are one duration as a number, as a text with their unit and, unless they are
negative, as digits alone; and so many of a larger unit are as many of the next smaller one as it
holds, which are so many seconds again. -/
structure Interchangeable (n : Int) : Prop where
  seconds : ∃ d, read (.int n) = .ok d ∧ d.microseconds = n * 1000000 ∧
    read (.text (Text.Integer.write n ++ "s")) = .ok d ∧
    (0 ≤ n → read (.text (Text.Integer.write n)) = .ok d)
  minutes : read (.text (Text.Integer.write n ++ "m")) = read (.int (60 * n)) ∧
    read (.text (Text.Integer.write (60 * n) ++ "s")) = read (.int (60 * n))
  hours : read (.text (Text.Integer.write n ++ "h")) = read (.int (3600 * n)) ∧
    read (.text (Text.Integer.write (60 * n) ++ "m")) = read (.int (3600 * n))
  days : read (.text (Text.Integer.write n ++ "d")) = read (.int (86400 * n)) ∧
    read (.text (Text.Integer.write (24 * n) ++ "h")) = read (.int (86400 * n))
  weeks : read (.text (Text.Integer.write n ++ "w")) = read (.int (604800 * n)) ∧
    read (.text (Text.Integer.write (7 * n) ++ "d")) = read (.int (604800 * n))

theorem interchangeable_of_fits {n : Int} (h : Fits n) : Interchangeable n := by
  have hn : Text.Integer.writable n = true := writable_of_fits h (by omega)
  -- However a number of seconds is put into units, it is read as the number.
  have hread : ∀ (k total : Int) (u : Scale), k.natAbs ≤ 60 * n.natAbs → k * u.seconds = total →
      read (.text (Text.Integer.write k ++ String.singleton u.letter)) = read (.int total) := by
    rintro k _ u hk rfl
    exact read_write_letter (writable_of_fits h hk) u
  obtain ⟨d, hd, hmicroseconds⟩ := ofInteger_of_fits h
  constructor
  case seconds =>
    refine ⟨d, hd, hmicroseconds, ?_, fun hpositive => ?_⟩
    · exact (hread n n .second (by omega) (Int.mul_one n)).trans hd
    · exact (read_of_denotes (.bare (isDigits_write hpositive) (spells_write hn))).trans hd
  case minutes =>
    exact ⟨hread n _ .minute (by omega) (Int.mul_comm ..),
      hread (60 * n) _ .second (by omega) (Int.mul_one _)⟩
  case hours =>
    have htotal : 60 * n * 60 = 3600 * n := by omega
    exact ⟨hread n _ .hour (by omega) (Int.mul_comm ..),
      hread (60 * n) _ .minute (by omega) htotal⟩
  case days =>
    have htotal : 24 * n * 3600 = 86400 * n := by omega
    exact ⟨hread n _ .day (by omega) (Int.mul_comm ..),
      hread (24 * n) _ .hour (by omega) htotal⟩
  case weeks =>
    have htotal : 7 * n * 86400 = 604800 * n := by omega
    exact ⟨hread n _ .week (by omega) (Int.mul_comm ..),
      hread (7 * n) _ .day (by omega) htotal⟩

/-- **The grammar of durations**: every text is read as what it denotes, and refused if it denotes
nothing; and the ways to write one number of seconds are read as the same. -/
theorem read_as_written (s : String) (n : Int) : AsDenoted s ∧ (Fits n → Interchangeable n) :=
  ⟨asDenoted s, interchangeable_of_fits⟩

/-- Thirty minutes, in digits of two scripts, with a sign and a blank. -/
theorem read_as_written_half_hour :
    Denotes (some .minute) " +٣_0m".toList 1800 ∧ Fits 1800 ∧
      ∃ d, read (.text " +٣_0m") = .ok d ∧ d.microseconds = 1800 * 1000000 := by
  have hrun : Text.Numeral ['٣', '_', '0'] [3, 0] := .spaced rfl (.digit rfl)
  have hspells : Text.Spells ([' '] ++ (['+'] ++ ['٣', '_', '0']) ++ []) 30 :=
    .intro (List.forall_mem_singleton.2 rfl) .plus hrun (by decide) nofun
  have hdenotes : Denotes (some .minute) " +٣_0m".toList 1800 := .minutes hspells
  have hfits : Fits 1800 := by unfold Fits; decide
  exact ⟨hdenotes, hfits, (read_as_written " +٣_0m" 1800).1.fitting _ _ hdenotes hfits⟩

end Duration

end BlockStorage
