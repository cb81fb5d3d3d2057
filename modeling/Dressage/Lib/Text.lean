/-
Text operations of a scripting language, on strings as character lists.

Whitespace is the Unicode set that `str.strip` and `str.split` cut at. Lower
case is ASCII lower case plus the one other character whose lower case is a
single ASCII letter, the Kelvin sign: enough to compare with ASCII words.
-/

import Mathlib.Data.List.Basic

namespace Dressage.Lib.Text

def isSpace (char : Char) : Bool :=
  let code := char.toNat
  (9 ≤ code && code ≤ 13) || (28 ≤ code && code ≤ 32) || code == 0x85 || code == 0xA0 ||
    code == 0x1680 || (0x2000 ≤ code && code ≤ 0x200A) || code == 0x2028 || code == 0x2029 ||
    code == 0x202F || code == 0x205F || code == 0x3000

def stripChars (text : List Char) : List Char :=
  ((text.dropWhile isSpace).reverse.dropWhile isSpace).reverse

def rstrip (text : String) : String :=
  String.ofList (text.toList.reverse.dropWhile isSpace).reverse

def strip (text : String) : String := String.ofList (stripChars text.toList)

def lowerChar (char : Char) : Char :=
  if char.toNat = 0x212A then 'k' else char.toLower

def lower (text : String) : String := String.ofList (text.toList.map lowerChar)

theorem append_separator_inj {α : Type} {separator : α} {left right first second : List α}
    (firstFree : separator ∉ first) (secondFree : separator ∉ second)
    (same : left ++ separator :: first = right ++ separator :: second) :
    left = right ∧ first = second := by
  rcases List.append_eq_append_iff.mp same with ⟨extra, longer, rest⟩ | ⟨extra, longer, rest⟩
  · cases extra with
    | nil =>
      rw [List.nil_append, List.cons.injEq] at rest
      rw [List.append_nil] at longer
      exact ⟨longer.symm, rest.2⟩
    | cons head tail =>
      rw [List.cons_append, List.cons.injEq] at rest
      rw [rest.2] at firstFree
      exact absurd (List.mem_append_right tail List.mem_cons_self) firstFree
  · cases extra with
    | nil =>
      rw [List.nil_append, List.cons.injEq] at rest
      rw [List.append_nil] at longer
      exact ⟨longer, rest.2.symm⟩
    | cons head tail =>
      rw [List.cons_append, List.cons.injEq] at rest
      rw [rest.2] at secondFree
      exact absurd (List.mem_append_right tail List.mem_cons_self) secondFree

end Dressage.Lib.Text
