import BlockStorage.Text.Printable

/-!
Quoted text. The quotes are single, unless the text has single quotes and no double ones.
Inside them a backslash goes before the quote and the backslash, line ends and tabs have
their letters, and what is not printable is written by its code point in lower-case
hexadecimal, with two, four or eight digits.

Statement: a text of printable characters without single quotes and backslashes stands as it is
between single quotes (`quote_of_plain`).
-/
namespace BlockStorage.Text

/-- A number in hexadecimal, padded with zeros to a width. -/
def hex (width n : Nat) : List Char :=
  let digits := Nat.toDigits 16 n
  List.replicate (width - digits.length) '0' ++ digits

/-- The code point of a character as an escape, as short as it can be. -/
def codeEscape (c : Char) : List Char :=
  if c.toNat ≤ 0xff then '\\' :: 'x' :: hex 2 c.toNat
  else if c.toNat ≤ 0xffff then '\\' :: 'u' :: hex 4 c.toNat
  else '\\' :: 'U' :: hex 8 c.toNat

/-- A character inside `mark`s, where `plain` says which ones need no escape. -/
def escape (plain : Char → Bool) (mark c : Char) : List Char :=
  if c = mark ∨ c = '\\' then ['\\', c]
  else if c = '\n' then ['\\', 'n']
  else if c = '\r' then ['\\', 'r']
  else if c = '\t' then ['\\', 't']
  else if plain c then [c]
  else codeEscape c

theorem escape_eq_self {plain : Char → Bool} {mark c : Char} (hp : plain c = true)
    (hm : c ≠ mark) (hb : c ≠ '\\') (hn : c ≠ '\n') (hr : c ≠ '\r') (ht : c ≠ '\t') :
    escape plain mark c = [c] := by
  simp [escape, hp, hm, hb, hn, hr, ht]

/-- The quote that a text is put in. -/
def markFor (cs : List Char) : Char :=
  if cs.contains '\'' && !cs.contains '"' then '"' else '\''

def quoteWith (plain : Char → Bool) (cs : List Char) : List Char :=
  let mark := markFor cs
  mark :: cs.flatMap (escape plain mark) ++ [mark]

/-- Text in quotes. -/
def quote (cs : List Char) : List Char := quoteWith isPrintable cs

/-- A text that needs no escapes stands as it is between single quotes. -/
theorem quote_of_plain {cs : List Char}
    (h : ∀ c ∈ cs, isPrintable c = true ∧ c ∉ ['\'', '\\', '\n', '\r', '\t']) :
    quote cs = '\'' :: cs ++ ['\''] := by
  have hmark : markFor cs = '\'' := by
    have hquote : '\'' ∉ cs := fun hc => (h _ hc).2 List.mem_cons_self
    simp [markFor, hquote]
  have hself : ∀ c ∈ cs, escape isPrintable '\'' c = [c] := by
    intro c hc
    obtain ⟨hp, hplain⟩ := h c hc
    simp only [List.mem_cons, List.not_mem_nil, or_false, not_or] at hplain
    obtain ⟨hm, hb, hn, hr, ht⟩ := hplain
    exact escape_eq_self hp hm hb hn hr ht
  have hcs : cs.flatMap (escape isPrintable '\'') = cs := by
    rw [List.flatMap, List.map_congr_left hself]
    exact List.flatMap_singleton' cs
  rw [quote, quoteWith, hmark, hcs]

/-- Bytes in quotes, each as its ASCII character or by its number. -/
def quoteBytes (bytes : List UInt8) : List Char :=
  'b' :: quoteWith (fun c => 0x20 ≤ c.toNat && c.toNat < 0x7f)
    (bytes.map fun b => Char.ofNat b.toNat)

end BlockStorage.Text
