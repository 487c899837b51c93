/-
The string operations of Python that decide a comparison with plain text:
`strip`, `lower`, `upper` and `split`. Letters outside ASCII are kept as they are, save
those whose lower or upper case has an ASCII letter, so a lowered text equals an
ASCII keyword exactly when Python's does.
-/

import Mathlib.Data.List.Basic

namespace PythonText

/-- `str.isspace` of one character. -/
def isSpace (char : Char) : Bool :=
  let code := char.toNat
  (9 ≤ code && code ≤ 13) || (28 ≤ code && code ≤ 32) || code == 133 || code == 160 ||
    code == 5760 || (8192 ≤ code && code ≤ 8202) || code == 8232 || code == 8233 ||
    code == 8239 || code == 8287 || code == 12288

def stripLeft : List Char → List Char
  | [] => []
  | char :: rest => if isSpace char then stripLeft rest else char :: rest

def strip (text : String) : String :=
  String.ofList (stripLeft (stripLeft text.toList).reverse).reverse

def lowerChar (char : Char) : List Char :=
  if char.toNat = 0x212A then ['k']
  else if char.toNat = 0x130 then ['i', Char.ofNat 0x307]
  else if 'A' ≤ char ∧ char ≤ 'Z' then [Char.ofNat (char.toNat + 32)]
  else [char]

def lower (text : String) : String :=
  String.ofList (text.toList.flatMap lowerChar)

/-- The letters outside ASCII whose upper case is of ASCII letters only. -/
def upperLigature : List (Nat × List Char) :=
  [(0x131, ['I']), (0x17F, ['S']), (0xDF, ['S', 'S']), (0xFB00, ['F', 'F']), (0xFB01, ['F', 'I']),
    (0xFB02, ['F', 'L']), (0xFB03, ['F', 'F', 'I']), (0xFB04, ['F', 'F', 'L']),
    (0xFB05, ['S', 'T']), (0xFB06, ['S', 'T'])]

def upperChar (char : Char) : List Char :=
  if 'a' ≤ char ∧ char ≤ 'z' then [Char.ofNat (char.toNat - 32)]
  else (upperLigature.lookup char.toNat).getD [char]

def upper (text : String) : String :=
  String.ofList (text.toList.flatMap upperChar)

def pushFirst (char : Char) : List (List Char) → List (List Char)
  | [] => [[char]]
  | piece :: pieces => (char :: piece) :: pieces

def splitChars (separator : Char × Char) : List Char → List (List Char)
  | [] => [[]]
  | [char] => [[char]]
  | first :: second :: rest =>
      if first = separator.1 ∧ second = separator.2 then [] :: splitChars separator rest
      else pushFirst first (splitChars separator (second :: rest))

/-- `text.split(separator)` for a separator of two characters. -/
def split (separator : Char × Char) (text : String) : List String :=
  (splitChars separator text.toList).map String.ofList

def splitCharsOn (separator : Char) : List Char → List (List Char)
  | [] => [[]]
  | char :: rest =>
      if char = separator then [] :: splitCharsOn separator rest
      else pushFirst char (splitCharsOn separator rest)

/-- `text.split(separator)` for a separator of one character. -/
def splitOn (separator : Char) (text : String) : List String :=
  (splitCharsOn separator text.toList).map String.ofList

example : split ('-', '>') "ramses_v3 -> hybra_v3" = ["ramses_v3 ", " hybra_v3"] := by decide

example : lower (strip " \tChain_Verified\n") = "chain_verified" := by decide

/-! ### Pieces of a text -/

theorem splitCharsOn_ne_nil (separator : Char) (text : List Char) :
    splitCharsOn separator text ≠ [] := by
  cases text with
  | nil => exact List.cons_ne_nil _ _
  | cons char rest =>
      rw [splitCharsOn]
      split
      · exact List.cons_ne_nil _ _
      · cases splitCharsOn separator rest <;> exact List.cons_ne_nil _ _

theorem pushFirst_append (char : Char) {front : List (List Char)} (rest : List (List Char))
    (some_ : front ≠ []) : pushFirst char (front ++ rest) = pushFirst char front ++ rest := by
  cases front with
  | nil => exact absurd rfl some_
  | cons piece pieces => rfl

/-- A separator parts the pieces before it from those behind it. -/
theorem splitCharsOn_append (separator : Char) (front rest : List Char) :
    splitCharsOn separator (front ++ separator :: rest) =
      splitCharsOn separator front ++ splitCharsOn separator rest := by
  induction front with
  | nil => simp [splitCharsOn]
  | cons char front ih =>
      rw [List.cons_append, splitCharsOn, splitCharsOn, ih]
      split
      · rfl
      · exact pushFirst_append char _ (splitCharsOn_ne_nil separator front)

/-- Behind the last separator one more character only makes the last piece longer. -/
theorem splitCharsOn_concat {separator last : Char} (other : last ≠ separator) (text : List Char) :
    ∃ front piece, splitCharsOn separator text = front ++ [piece] ∧
      splitCharsOn separator (text ++ [last]) = front ++ [piece ++ [last]] := by
  induction text with
  | nil => exact ⟨[], [], rfl, by simp [splitCharsOn, other, pushFirst]⟩
  | cons char rest ih =>
      obtain ⟨front, piece, before, behind⟩ := ih
      rw [List.cons_append, splitCharsOn, splitCharsOn, before, behind]
      by_cases separates : char = separator
      · rw [if_pos separates, if_pos separates]
        exact ⟨[] :: front, piece, rfl, rfl⟩
      · rw [if_neg separates, if_neg separates]
        cases front with
        | nil => exact ⟨[], char :: piece, rfl, rfl⟩
        | cons first front => exact ⟨(char :: first) :: front, piece, rfl, rfl⟩

theorem stripLeft_concat {last : Char} (space : isSpace last = true) (text : List Char) :
    stripLeft (text ++ [last]) =
      if stripLeft text = [] then [] else stripLeft text ++ [last] := by
  induction text with
  | nil => simp [stripLeft, space]
  | cons char rest ih =>
      rw [List.cons_append, stripLeft, stripLeft]
      split
      · exact ih
      · rw [if_neg (List.cons_ne_nil _ _)]
        rfl

/-- A space at the end is stripped. -/
theorem strip_concat {last : Char} (space : isSpace last = true) (text : List Char) :
    strip (String.ofList (text ++ [last])) = strip (String.ofList text) := by
  simp only [strip, String.toList_ofList, stripLeft_concat space]
  split
  · rename_i empty
    rw [empty]
  · rw [List.reverse_append, List.reverse_singleton, List.singleton_append, stripLeft,
      if_pos space]

end PythonText
