import SqlSession.Text.Blank
import SqlSession.Configuration.Error
/-!
# Attributes of a connection string

A connection string is a list of `KEY=VALUE` attributes with semicolons between them.  A value that
starts with a brace runs to the closing brace and may hold semicolons; any other value ends at the
next semicolon and is trimmed.

* `Attribute.parseAll` reads a connection string; keys come out in capitals.
* `Attribute.renderAll` writes one.
-/

namespace SqlSession

/-- An attribute as a connection string gives it. -/
structure Attribute where
  /-- The key, in capitals. -/
  key : String
  value : String
  deriving DecidableEq, Repr

namespace Attribute

open Text

/-- Whether a character separates attributes. -/
def isSeparator (c : Char) : Bool := c = ';' || isBlank c

/-- The text in front of the first `sep`, and the text behind it if there is one. -/
def cut (sep : Char) (cs : List Char) : List Char × Option (List Char) :=
  match cs.dropWhile (· != sep) with
  | [] => (cs, none)
  | _ :: behind => (cs.takeWhile (· != sep), some behind)

/-- An error near a piece of a connection string. -/
def syntaxError (near : List Char) : ConfigError := .invalidSyntax (String.ofList near)

/-- Reads the value behind an equals sign: the value, and the text from the next semicolon on. -/
def readValue (key cs : List Char) : Except ConfigError (List Char × List Char) :=
  match trimLeft cs with
  | '{' :: inner =>
    match cut '}' inner with
    | (_, none) => .error (syntaxError ("unterminated value for ".toList ++ key))
    | (text, some behind) =>
      match trimLeft behind with
      | [] => .ok (text, [])
      | ';' :: rest => .ok (text, ';' :: rest)
      | _ => .error (syntaxError ("unexpected characters after value of ".toList ++ key))
  | bare => .ok (trim (bare.takeWhile (· != ';')), bare.dropWhile (· != ';'))

/-- Reads the attribute at the front: the attribute, and the text from the next semicolon on. -/
def readNext (cs : List Char) : Except ConfigError (Attribute × List Char) :=
  let segment := cs.takeWhile (· != ';')
  let (keyText, behind) := cut '=' segment
  let key := trim keyText
  if behind = none ∨ key = [] then .error (syntaxError (trim segment))
  else
    (readValue key ((cs.dropWhile (· != '=')).drop 1)).map fun (text, rest) =>
      ({ key := String.ofList (upper key), value := String.ofList text }, rest)

theorem length_readValue_le {key cs text rest : List Char}
    (h : readValue key cs = .ok (text, rest)) :
    rest.length ≤ cs.length := by
  have hcs := length_trimLeft_le cs
  unfold readValue at h
  split at h
  · rename_i inner heq
    rw [heq] at hcs
    split at h
    · simp at h
    · rename_i inner' text' behind hcut
      have hb : behind.length ≤ inner.length := by
        unfold cut at hcut
        split at hcut
        · simp at hcut
        · rename_i hd
          simp only [Prod.mk.injEq, Option.some.injEq] at hcut
          have := (List.dropWhile_sublist (· != '}') (l := inner)).length_le
          rw [hd] at this
          rw [← hcut.2]
          simp only [List.length_cons] at this
          omega
      have ht := length_trimLeft_le behind
      split at h
      · simp only [Except.ok.injEq, Prod.mk.injEq] at h
        simp [← h.2]
      · rename_i heq'
        simp only [Except.ok.injEq, Prod.mk.injEq] at h
        rw [heq'] at ht
        rw [← h.2]
        simp only [List.length_cons] at *
        omega
      · simp at h
  · rename_i heq
    simp only [Except.ok.injEq, Prod.mk.injEq] at h
    rw [← h.2]
    exact Nat.le_trans (List.dropWhile_sublist _).length_le hcs

theorem length_readNext_lt {cs rest : List Char} {a : Attribute} (hcs : cs ≠ [])
    (h : readNext cs = .ok (a, rest)) : rest.length < cs.length := by
  unfold readNext at h
  simp only at h
  split at h
  · simp at h
  · cases hv : readValue (trim (cut '=' (cs.takeWhile (· != ';'))).1)
        ((cs.dropWhile (· != '=')).drop 1) with
    | error e => simp only [hv, Except.map, reduceCtorEq] at h
    | ok r =>
      obtain ⟨text, rest'⟩ := r
      simp only [hv, Except.map, Except.ok.injEq, Prod.mk.injEq] at h
      have h1 := length_readValue_le hv
      have h2 := (List.dropWhile_sublist (· != '=') (l := cs)).length_le
      have h3 : 0 < cs.length := List.length_pos_iff.2 hcs
      rw [← h.2]
      simp only [List.length_drop] at h1
      omega

theorem length_behind_lt {cs rest behind : List Char} {c : Char} {a : Attribute}
    (h : cs.dropWhile isSeparator = c :: rest) (hn : readNext (c :: rest) = .ok (a, behind)) :
    behind.length < cs.length := by
  have h1 := (List.dropWhile_sublist isSeparator (l := cs)).length_le
  rw [h] at h1
  exact Nat.lt_of_lt_of_le (length_readNext_lt (by simp) hn) h1

/-- Reads the attributes of a text; they come behind those found before, which are given the last
one first. -/
def parseOnto (found : List Attribute) (cs : List Char) : Except ConfigError (List Attribute) :=
  match _h : cs.dropWhile isSeparator with
  | [] => .ok found.reverse
  | c :: rest =>
    match _hn : readNext (c :: rest) with
    | .error e => .error e
    | .ok (a, behind) => parseOnto (a :: found) behind
termination_by cs.length
decreasing_by exact length_behind_lt _h _hn

/-- Reads the attributes of a text. -/
def parseChars (cs : List Char) : Except ConfigError (List Attribute) := parseOnto [] cs

/-- Attributes found before stay in front. -/
theorem parseOnto_eq (found : List Attribute) (cs : List Char) :
    parseOnto found cs = (parseChars cs).map (found.reverse ++ ·) := by
  rw [parseChars, parseOnto, parseOnto]
  split
  · simp [Except.map]
  · rename_i h
    split
    · rfl
    · rename_i a behind hn
      have hlt := length_behind_lt h hn
      rw [parseOnto_eq (a :: found) behind, parseOnto_eq [a] behind]
      cases parseChars behind <;> simp [Except.map]
termination_by cs.length
decreasing_by all_goals exact hlt

/-- The attributes of a text are the first one, then those of the rest. -/
theorem parseChars_eq (cs : List Char) :
    parseChars cs =
      match cs.dropWhile isSeparator with
      | [] => .ok []
      | c :: rest =>
        match readNext (c :: rest) with
        | .error e => .error e
        | .ok (a, behind) => (parseChars behind).map (a :: ·) := by
  rw [parseChars, parseOnto]
  split
  · rename_i h
    simp [h]
  · rename_i c rest h
    simp only [h]
    split
    · rename_i e hn
      simp [hn]
    · rename_i a behind hn
      simp [hn, parseOnto_eq [a] behind]

/-- Reads a connection string. -/
def parseAll (s : String) : Except ConfigError (List Attribute) := parseChars s.toList

/-- Whether a value has to stand in braces. -/
def needsBraces (value : String) : Bool :=
  value.toList.contains ';' || value.toList.head? == some '{'

/-- Writes an attribute. -/
def render (a : Attribute) : String :=
  if needsBraces a.value then a.key ++ "=\x7b" ++ a.value ++ "\x7d" else a.key ++ "=" ++ a.value

/-- Writes a connection string. -/
def renderAll (attributes : List Attribute) : String := ";".intercalate (attributes.map render)

end Attribute

end SqlSession
