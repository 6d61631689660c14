/-!
White space in the sense of the Unicode property White_Space, and the two ways in which a text is
cut at it: `trim` drops it at both ends, `words` keeps what stands between it.
-/

namespace Tabular.Text

/-- A character with the Unicode property White_Space. The zero width space U+200B is none. -/
def isBlank (c : Char) : Bool :=
  (9 ≤ c.toNat && c.toNat ≤ 13) || c.toNat == 0x20 || c.toNat == 0x85 || c.toNat == 0xA0 ||
    c.toNat == 0x1680 || (0x2000 ≤ c.toNat && c.toNat ≤ 0x200A) || c.toNat == 0x2028 ||
    c.toNat == 0x2029 || c.toNat == 0x202F || c.toNat == 0x205F || c.toNat == 0x3000

/-- The text from its first character that is not blank. -/
def trimStart (cs : List Char) : List Char :=
  cs.dropWhile isBlank

/-- The text up to its last character that is not blank. -/
def trimEnd (cs : List Char) : List Char :=
  (cs.reverse.dropWhile isBlank).reverse

/-- The text without the blanks at its two ends. -/
def trim (cs : List Char) : List Char :=
  trimEnd (trimStart cs)

/-- The longest runs of characters that are not blank, in their order. -/
def words (cs : List Char) : List (List Char) :=
  (cs.splitOnP isBlank).filter (!·.isEmpty)

/-- `count` spaces. -/
def spaces (count : Nat) : String :=
  String.ofList (List.replicate count ' ')

@[simp] theorem toList_spaces (count : Nat) :
    (spaces count).toList = List.replicate count ' ' := by
  simp [spaces]

/-- The blanks of ASCII text are blank. -/
theorem isBlank_of_isWhitespace {c : Char} (h : c.isWhitespace = true) : isBlank c = true := by
  simp only [Char.isWhitespace, Bool.or_eq_true, decide_eq_true_eq] at h
  rcases h with ((rfl | rfl) | rfl) | rfl <;> rfl

@[simp] theorem words_nil : words [] = [] := by
  simp [words]

@[simp] theorem trim_nil : trim [] = [] := by
  simp [trim, trimStart, trimEnd]

end Tabular.Text
