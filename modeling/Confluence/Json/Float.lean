import Confluence.Json.Basic
import Confluence.Number.Binary64.Text

/-!
# JSON numbers in floating point

A number is read in two steps: its digits go into a significand of 64 bits, those that find no
room there are dropped, and the significand is then multiplied or divided by a power of ten. Each
step rounds, so that the result can differ from the nearest float in its last bits. A number beyond
the range of the format is refused. A float is written with its shortest digits and always with a
fraction or an exponent.
-/

namespace Confluence.Json

/-! ### Reading -/

/-- Whether a significand has room in 64 bits. -/
def hasRoom (n : Nat) : Bool := n < twoTo 64

/-- The significand that takes in digits before the point as long as there is room, and the
number of digits left out. -/
def takeWhole (m : Nat) : List Char → Nat × Nat
  | [] => (m, 0)
  | d :: r =>
    let n := 10 * m + Digits.value d
    if hasRoom n then takeWhole n r else (m, r.length + 1)

/-- The significand that takes in digits after the point as long as there is room, and the number
of digits taken. -/
def takeFraction (m : Nat) : List Char → Nat × Nat
  | [] => (m, 0)
  | d :: r =>
    let n := 10 * m + Digits.value d
    if hasRoom n then
      let (n, taken) := takeFraction n r
      (n, taken + 1)
    else (m, 0)

/-- The greatest power of ten that is used as one factor. -/
def maxPower : Nat := 308

def powerOfTen (n : Nat) : Binary64 := .ofFraction false (tenTo n) 1

/-- Scale a float by a power of ten. Small powers are divided out in several steps, until the
rest of the power is one factor or nothing is left of the float; the first argument bounds the
steps. -/
def scaleBy? : Nat → Binary64 → Int → Option Binary64
  | 0, x, _ => some x
  | steps + 1, x, exponent =>
    if exponent.natAbs ≤ maxPower then
      if 0 ≤ exponent then
        let y := x * powerOfTen exponent.natAbs
        if y.isInfinite then none else some y
      else some (x / powerOfTen exponent.natAbs)
    else if x.isZero then some x
    else if 0 ≤ exponent then none
    else scaleBy? steps (x / powerOfTen maxPower) (exponent + maxPower)

/-- The float that a number literal stands for. -/
def Numeral.toBinary64? (n : Numeral) : Option Binary64 :=
  let (m, dropped) := takeWhole 0 n.whole
  let (m, taken) := takeFraction m n.fraction
  let exponent : Int := match n.exponent with
    | none => 0
    | some (negative, ds) => if negative then -(Digits.toNat ds : Int) else Digits.toNat ds
  (scaleBy? 5 (.ofInt m) (dropped - taken + exponent)).map fun x =>
    if n.negative then -x else x

/-- The float that a number stands for. -/
def toBinary64? : Json → Option Binary64
  | .integer n => Numeral.toBinary64? ⟨n < 0, Digits.ofNat n.natAbs, [], none⟩
  | .real n => n.toBinary64?
  | _ => none

/-! ### Writing -/

/-- The least exponent, counted from the point in front of the digits, that is written out with
zeros. -/
def leastPoint : Int := -4

/-- The greatest number of digits before the point. -/
def mostWhole : Int := 16

/-- The literal of a finite float that is not zero. -/
def numeralOfDigits (negative : Bool) (ds : List Char) (exponent : Int) : Numeral :=
  let point := (ds.length : Int) + exponent
  if 0 ≤ exponent ∧ point ≤ mostWhole then
    ⟨negative, ds ++ List.replicate exponent.toNat '0', ['0'], none⟩
  else if 0 < point ∧ point ≤ mostWhole then
    ⟨negative, ds.take point.toNat, ds.drop point.toNat, none⟩
  else if leastPoint ≤ point ∧ point ≤ 0 then
    ⟨negative, ['0'], List.replicate (-point).toNat '0' ++ ds, none⟩
  else
    ⟨negative, ds.take 1, ds.drop 1,
      some (point - 1 < 0, Digits.ofNat (point - 1).natAbs)⟩

/-- A float as a number; what is not finite is null. -/
def ofBinary64 : Binary64 → Json
  | .finite negative m k _ =>
    if m = 0 then .real ⟨negative, ['0'], ['0'], none⟩
    else
      let (digits, exponent) := Binary64.shortest .even m k
      .real (numeralOfDigits negative (Digits.ofNat digits) exponent)
  | _ => .null

end Confluence.Json
