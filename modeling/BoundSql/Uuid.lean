import BoundSql.Text.Hex

/-!
# Universally unique identifiers

A hundred and twenty-eight bits, written as thirty-two digits in groups of 8, 4, 4, 4 and 12.
-/

namespace BoundSql

/-- A universally unique identifier. -/
structure Uuid where
  bits : BitVec 128
  deriving DecidableEq

namespace Uuid

/-- The groups of digits with a hyphen between two of them, in lower case. -/
def toString (id : Uuid) : String :=
  let digits := Text.Hex.ofNat .lower 32 id.bits.toNat
  String.ofList
    (digits.take 8 ++ '-' :: (digits.drop 8).take 4 ++ '-' :: (digits.drop 12).take 4 ++
      '-' :: (digits.drop 16).take 4 ++ '-' :: digits.drop 20)

/-- Take the hyphens out of a grouped form. Any other text is kept. -/
def ungroup (cs : List Char) : List Char :=
  if cs.length = 36 ∧ cs[8]? = some '-' ∧ cs[13]? = some '-' ∧ cs[18]? = some '-' ∧
      cs[23]? = some '-' then
    cs.take 8 ++ (cs.drop 9).take 4 ++ (cs.drop 14).take 4 ++ (cs.drop 19).take 4 ++ cs.drop 24
  else cs

/-- Read an identifier, grouped or as thirty-two digits, in either case. -/
def ofString? (text : String) : Option Uuid :=
  let digits := ungroup text.toList
  if digits.length = 32 then (Text.Hex.toNat? digits).map fun n => ⟨BitVec.ofNat 128 n⟩
  else none

end Uuid

end BoundSql
