import Huntbook.Decimal

/-!
# Numbers and texts

How the store turns texts into numbers and numbers into texts. It calculates with extended
doubles, so the last digits depend on the steps of the calculation, which are kept as they are.
-/

namespace Huntbook.Store

def leastInt : Int := -9223372036854775808

def greatestInt : Int := 9223372036854775807

def isGap (c : Char) : Bool := c == ' ' || ('\x09' ≤ c && c ≤ '\x0d')

/-- How much of a number a text has. -/
inductive Shape
  | none | start | whole | real

/-- The digits of a number as far as they matter: a whole number, and by how many places the point
    has to be moved to the right. -/
structure Digits where
  value : Nat := 0
  shift : Int := 0
  count : Nat := 0

namespace Digits

def most : Nat := 922337203685477579

def before (d : Digits) (c : Char) : Digits :=
  if d.value ≥ most then { d with shift := d.shift + 1 }
  else { d with value := d.value * 10 + (c.toNat - '0'.toNat), count := d.count + 1 }

def after (d : Digits) (c : Char) : Digits :=
  if d.value ≥ most then d
  else { value := d.value * 10 + (c.toNat - '0'.toNat), shift := d.shift - 1, count := d.count + 1 }

end Digits

def absorb : Nat → Nat → Nat → Nat × Nat
  | 0, n, e => (n, e)
  | fuel + 1, n, e =>
    if e == 0 || n ≥ 922337203685477580 then (n, e) else absorb fuel (n * 10) (e - 1)

def release : Nat → Nat → Nat → Nat × Nat
  | 0, n, e => (n, e)
  | fuel + 1, n, e => if e == 0 || n % 10 != 0 then (n, e) else release fuel (n / 10) (e - 1)

open Decimal in
def scaled (n : Nat) (e : Int) : Float :=
  if n == 0 then 0.0
  else
    let (n, k) := if e ≥ 0 then absorb 20 n e.toNat else release 20 n (-e).toNat
    let s := Extended.ofNat n
    let up := e ≥ 0
    let step (k : Nat) : Float :=
      (if up then s.mul (Extended.powerOfTen k) else s.div (Extended.powerOfTen k)).toFloat
    let huge : Float := Float.ofScientific 1 false 308
    if k == 0 then s.toFloat
    else if k ≤ 307 then step k
    else if k < 342 then if up then step (k - 308) * huge else step (k - 308) / huge
    else if up then 1.0 / 0.0 else 0.0

structure Scan where
  value : Float
  shape : Shape

def exponentOf (digits : Chars) : Nat :=
  digits.foldl (fun e c => if e < 10000 then e * 10 + (c.toNat - '0'.toNat) else 10000) 0

def exponentStart (cs : Chars) : Int × Bool × Chars :=
  let (negative, cs) := match cs with
    | '-' :: cs => (true, cs)
    | '+' :: cs => (false, cs)
    | cs => (false, cs)
  let digits := cs.takeWhile Char.isDigit
  let e : Int := exponentOf digits
  (if negative then -e else e, !digits.isEmpty, cs.drop digits.length)

def scan (cs : Chars) : Scan :=
  let cs := cs.dropWhile isGap
  let (negative, cs) := match cs with
    | '-' :: cs => (true, cs)
    | '+' :: cs => (false, cs)
    | cs => (false, cs)
  let whole := cs.takeWhile Char.isDigit
  let rest := cs.drop whole.length
  let digits := whole.foldl Digits.before {}
  let (pointed, digits, rest) := match rest with
    | '.' :: rest =>
      let fraction := rest.takeWhile Char.isDigit
      (true, fraction.foldl Digits.after digits, rest.drop fraction.length)
    | rest => (false, digits, rest)
  let (raised, e, valid, rest) := match rest with
    | c :: rest' =>
      if c == 'e' || c == 'E' then
        let (e, valid, rest) := exponentStart rest'
        (true, e, valid, rest)
      else (false, (0 : Int), true, rest)
    | [] => (false, (0 : Int), true, rest)
  let ended := (rest.dropWhile isGap).isEmpty
  let x := scaled digits.value (e + digits.shift)
  { value := if negative then -x else x
    shape :=
      if digits.count == 0 then .none
      else if ended && valid then if pointed || raised then .real else .whole
      else if (pointed || raised) && ((pointed && raised) || valid) then .start
      else .none }

/-- The whole number that a text starts with. -/
structure WholeStart where
  value : Int
  (alone fits : Bool)

def wholeStart (cs : Chars) : WholeStart :=
  let cs := cs.dropWhile isGap
  let (negative, cs) := match cs with
    | '-' :: cs => (true, cs)
    | '+' :: cs => (false, cs)
    | cs => (false, cs)
  let digits := cs.takeWhile Char.isDigit
  let n : Int := Decimal.natOf digits
  let n := if negative then -n else n
  { value := max leastInt (min greatestInt n)
    alone := !digits.isEmpty && (cs.drop digits.length).all isGap
    fits := leastInt ≤ n && n ≤ greatestInt }

def wholePart (x : Float) : Int :=
  if x.isNaN then 0
  else match Decimal.truncate? x with
    | some n => max leastInt (min greatestInt n)
    | none => if x > 0 then greatestInt else leastInt

/-! ### Texts of doubles -/

open Decimal

structure Normal where
  value : Extended
  exponent : Int

namespace Normal

def grow (x factor : Extended) (step : Int) : Nat → Extended × Int → Extended × Int
  | 0, s => s
  | fuel + 1, (scale, e) =>
    if x.less (factor.mul scale) || e > 350 then (scale, e)
    else grow x factor step fuel (scale.mul factor, e + step)

def raise (bound factor : Extended) (step : Int) : Nat → Normal → Normal
  | 0, n => n
  | fuel + 1, n =>
    if n.value.less bound then raise bound factor step fuel ⟨n.value.mul factor, n.exponent - step⟩
    else n

def ofExtended (v : Extended) : Normal :=
  let power (n : Nat) : Extended := Extended.ofFloat (Float.ofScientific 1 false n)
  let s := grow v (power 100) 100 8 (power 0, 0)
  let s := grow v (power 10) 10 16 s
  let (scale, e) := grow v (power 1) 1 16 s
  let n : Normal := ⟨v.div scale, e⟩
  let n := raise (Extended.ofFloat (Float.ofScientific 1 true 8)) (power 8) 8 64 n
  raise (power 0) (power 1) 1 16 n

def digits : Nat → Extended → Chars
  | 0, _ => []
  | count + 1, v =>
    let d := v.floor
    Nat.digitChar d :: digits count ((v.sub (Extended.ofNat d)).mul (Extended.ofNat 10))

end Normal

def halfUnit : Float := Float.ofScientific 5 true 5 * Float.ofScientific 1 true 10

def pointed (before zeros count : Nat) (v : Extended) : Chars :=
  let ds := Normal.digits (before + count) v
  let fraction := Text.dropEndWhile (· == '0') (List.replicate zeros '0' ++ ds.drop before)
  (if before == 0 then ['0'] else ds.take before)
    ++ '.' :: (if fraction.isEmpty then ['0'] else fraction)

def realDigits (x : Float) : Chars :=
  let n : Normal :=
    if x == 0 then ⟨Extended.ofNat 0, 0⟩ else Normal.ofExtended (Extended.ofFloat x)
  let v := n.value.add (Extended.ofFloat halfUnit)
  let n : Normal :=
    if v.less (Extended.ofNat 10) then ⟨v, n.exponent⟩
    else ⟨v.mul (Extended.ofFloat (Float.ofScientific 1 true 1)), n.exponent + 1⟩
  let e := n.exponent
  if e < -4 || e > 14 then pointed 1 0 14 n.value ++ 'e' :: (exponentText e).toList
  else if e < 0 then pointed 0 (-e - 1).toNat 15 n.value
  else pointed (e.toNat + 1) 0 (14 - e).toNat n.value

def realText (x : Float) : String :=
  if x.isNaN then "NaN"
  else (if x < 0 then "-" else "") ++
    if x.isInf then "Inf" else String.ofList (realDigits x.abs)

end Huntbook.Store
