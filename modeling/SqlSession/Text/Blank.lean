/-!
# Blank characters

White space is the Unicode property White_Space; attribute keys, values, versions and port numbers
are trimmed of it.  Letter case is ignored for the ASCII letters only.

* `trim` drops the blanks at both ends.
* `upper`, `sameLetters` change and ignore the case of ASCII letters.
* `fields` cuts a text at a separator.
-/

namespace SqlSession.Text

/-- The ranges of code points with the property White_Space. -/
def blankRanges : List (Nat × Nat) :=
  [(0x09, 0x0D), (0x20, 0x20), (0x85, 0x85), (0xA0, 0xA0), (0x1680, 0x1680), (0x2000, 0x200A),
   (0x2028, 0x2029), (0x202F, 0x202F), (0x205F, 0x205F), (0x3000, 0x3000)]

/-- Whether a character is white space. -/
def isBlank (c : Char) : Bool := blankRanges.any fun r => r.1 ≤ c.toNat && c.toNat ≤ r.2

/-- Drops the blanks in front. -/
def trimLeft (cs : List Char) : List Char := cs.dropWhile isBlank

/-- Drops the blanks at the end. -/
def trimRight (cs : List Char) : List Char := (cs.reverse.dropWhile isBlank).reverse

/-- Drops the blanks at both ends. -/
def trim (cs : List Char) : List Char := trimRight (trimLeft cs)

/-- Drops the blanks at both ends of a string. -/
def trimmed (s : String) : String := String.ofList (trim s.toList)

/-- Writes the ASCII letters of a text as capitals. -/
def upper (cs : List Char) : List Char := cs.map Char.toUpper

/-- Whether two texts differ at most in the case of ASCII letters. -/
def sameLetters (a b : String) : Bool := a.toList.map Char.toLower == b.toList.map Char.toLower

/-- Puts a character in front of the first of the fields that follow it. -/
def addToFields (sep c : Char) (fs : List (List Char)) : List (List Char) :=
  if c = sep then [] :: fs
  else match fs with
    | [] => [[c]]
    | f :: fs => (c :: f) :: fs

/-- Cuts a text at every occurrence of `sep`; a text without one is a single field. -/
def fields (sep : Char) (cs : List Char) : List (List Char) := cs.foldr (addToFields sep) [[]]

/-! ## Lemmas -/

@[simp] theorem trim_nil : trim [] = [] := rfl

@[simp] theorem fields_nil (sep : Char) : fields sep [] = [[]] := rfl

@[simp] theorem fields_cons (sep c : Char) (cs : List Char) :
    fields sep (c :: cs) = addToFields sep c (fields sep cs) := rfl

theorem fields_ne_nil (sep : Char) (cs : List Char) : fields sep cs ≠ [] := by
  cases cs with
  | nil => simp
  | cons c cs =>
    simp only [fields_cons, addToFields]
    split
    · simp
    · split <;> simp

theorem length_trimLeft_le (cs : List Char) : (trimLeft cs).length ≤ cs.length :=
  (List.dropWhile_sublist isBlank).length_le

end SqlSession.Text
