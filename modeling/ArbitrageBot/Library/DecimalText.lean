/-
`Decimal` of a text: numerals of any script's digits, and the special values. A numeral is taken
exactly, and refused where its exponent is beyond what a `Decimal` can have.
-/

import Mathlib.Data.Nat.Log
import ArbitrageBot.Library.PythonDecimal
import ArbitrageBot.Library.PythonText

namespace DecimalText

open PythonDecimal PythonText

/-- The zeros of the decimal digits outside ASCII; each is followed by its nine others. -/
def decimalZeros : List Nat :=
  [ 0x660, 0x6F0, 0x7C0, 0x966, 0x9E6, 0xA66, 0xAE6, 0xB66, 0xBE6, 0xC66, 0xCE6, 0xD66, 0xDE6,
    0xE50, 0xED0, 0xF20, 0x1040, 0x1090, 0x17E0, 0x1810, 0x1946, 0x19D0, 0x1A80, 0x1A90, 0x1B50,
    0x1BB0, 0x1C40, 0x1C50, 0xA620, 0xA8D0, 0xA900, 0xA9D0, 0xA9F0, 0xAA50, 0xABF0, 0xFF10,
    0x104A0, 0x10D30, 0x11066, 0x110F0, 0x11136, 0x111D0, 0x112F0, 0x11450, 0x114D0, 0x11650,
    0x116C0, 0x11730, 0x118E0, 0x11950, 0x11C50, 0x11D50, 0x11DA0, 0x11F50, 0x16A60, 0x16AC0,
    0x16B50, 0x1D7CE, 0x1D7D8, 0x1D7E2, 0x1D7EC, 0x1D7F6, 0x1E140, 0x1E2F0, 0x1E4F0, 0x1E950,
    0x1FBF0 ]

/-- The value of a decimal digit of any script. -/
def digit? (char : Char) : Option Nat :=
  if char.toNat < 128 then
    if '0' ≤ char ∧ char ≤ '9' then some (char.toNat - 48) else none
  else
    (decimalZeros.find? fun first => first ≤ char.toNat && char.toNat < first + 10).map fun first =>
      char.toNat - first

def isDigit (char : Char) : Bool := (digit? char).isSome

def natural (digits : List Char) : Nat :=
  digits.foldl (fun value digit => 10 * value + (digit? digit).getD 0) 0

def signed : List Char → Int × List Char
  | '-' :: rest => (-1, rest)
  | '+' :: rest => (1, rest)
  | chars => (1, chars)

def exponent? : List Char → Option Int
  | [] => some 0
  | mark :: rest =>
      let (sign, digits) := signed rest
      if (mark = 'e' ∨ mark = 'E') ∧ digits ≠ [] ∧ digits.all isDigit then
        some (sign * natural digits)
      else none

def fraction : List Char → List Char × List Char
  | '.' :: rest => rest.span isDigit
  | chars => ([], chars)

/-- The digits that may follow a `nan` do not count. -/
def special? (negative : Bool) (name : List Char) : Option Decimal :=
  match name with
  | ['i', 'n', 'f'] | ['i', 'n', 'f', 'i', 'n', 'i', 't', 'y'] => some (.infinity negative)
  | 'n' :: 'a' :: 'n' :: payload => if payload.all isDigit then some (.nan false) else none
  | 's' :: 'n' :: 'a' :: 'n' :: payload => if payload.all isDigit then some (.nan true) else none
  | _ => none

structure Numeral where
  sign : Int
  coefficient : Nat
  exponent : Int

namespace Numeral

def value (numeral : Numeral) : Rat :=
  numeral.sign * numeral.coefficient * 10 ^ numeral.exponent

/-- The exponents of the first and of the last digit are within the largest context. -/
def inRange (numeral : Numeral) : Bool :=
  -1999999999999999997 ≤ numeral.exponent &&
    numeral.exponent + Nat.log 10 numeral.coefficient ≤ 999999999999999999

end Numeral

/-- Underscores are dropped. -/
def characters (text : String) : List Char := (strip text).toList.filter (· ≠ '_')

def numeral? (text : String) : Option Numeral :=
  let (sign, body) := signed (characters text)
  let (whole, rest) := body.span isDigit
  let (digits, tail) := fraction rest
  if whole = [] ∧ digits = [] then none
  else (exponent? tail).map fun exponent =>
    { sign, coefficient := natural (whole ++ digits), exponent := exponent - digits.length }

/-- `Decimal(text)` -/
def parse (text : String) : Except String Decimal :=
  match numeral? text with
  | some numeral =>
      if numeral.inRange then .ok (.finite numeral.value) else Decimal.invalidOperation
  | none =>
      let (sign, body) := signed (characters text)
      match special? (sign < 0) (body.map Char.toLower) with
      | some value => .ok value
      | none => .error "[<class \x27decimal.ConversionSyntax\x27>]"

example : parse " -12.5e-1 " = .ok (.finite (-5 / 4)) := by decide +kernel

example : parse "-iNF " = .ok (.infinity true) := by decide +kernel

example : parse "1e1000000000000000000" = Decimal.invalidOperation := by decide +kernel

end DecimalText
