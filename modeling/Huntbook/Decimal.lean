import Huntbook.Text.Word

/-!
# Reading whole numbers

A whole number as people write it: blanks around it, a sign, digits of any script, and single
underscores between digits.
-/

namespace Huntbook.Decimal

def digitValue? (c : Char) : Option Nat :=
  if 'a' ≤ c && c ≤ 'z' then some (c.toNat - 'a'.toNat + 10)
  else if 'A' ≤ c && c ≤ 'Z' then some (c.toNat - 'A'.toNat + 10)
  else Text.decimalValue? c

/-- Why a text is no number that can be read. -/
inductive Unread
  | malformed
  | long (digits : Nat)

def mostDigits : Nat := 4300

def isLong (base digits : Nat) : Bool :=
  digits > mostDigits && base != 2 && base != 8 && base != 16

/-- Whether a whole number has more digits than are written. -/
def isLongWhole (n : Int) : Bool := isLong 10 (Nat.toDigits 10 n.natAbs).length

/-- Why such a number is not written. -/
def longWhole : String :=
  "Exceeds the limit (4300 digits) for integer string conversion; "
    ++ "use sys.set_int_max_str_digits() to increase the limit"

/-- The number of digits in a base, which may have underscores between them; `after` tells whether
    a digit has just been read, and `digits` how many have been. Digits that are too many are told
    before what follows them is looked at. -/
def digitsFrom (base n digits : Nat) (after : Bool) : Chars → Except Unread Nat
  | [] =>
    if !after then .error .malformed
    else if isLong base digits then .error (.long digits)
    else .ok n
  | c :: cs =>
    if c == '_' then
      if after then digitsFrom base n digits false cs else .error .malformed
    else match (digitValue? c).filter (· < base) with
      | some d => digitsFrom base (n * base + d) (digits + 1) true cs
      | none => .error (if after && isLong base digits then .long digits else .malformed)

def dropBase (base : Nat) : Chars → Chars
  | '0' :: c :: cs =>
    if (base == 16 && (c == 'x' || c == 'X')) || (base == 8 && (c == 'o' || c == 'O'))
        || (base == 2 && (c == 'b' || c == 'B')) then cs
    else '0' :: c :: cs
  | cs => cs

def readBase (base : Nat) (cs : Chars) : Except Unread Int :=
  match Text.strip Text.isBlank cs with
  | '-' :: cs => (digitsFrom base 0 0 false (dropBase base cs)).map fun n => -(n : Int)
  | '+' :: cs => (digitsFrom base 0 0 false (dropBase base cs)).map fun n => (n : Int)
  | cs => (digitsFrom base 0 0 false (dropBase base cs)).map fun n => (n : Int)

def readInt? (s : String) : Option Int := (readBase 10 s.toList).toOption

/-! ## Reading doubles -/

def natOf (digits : Chars) : Nat := digits.foldl (fun n c => n * 10 + (c.toNat - '0'.toNat)) 0

def exponent? (cs : Chars) : Option (Int × Chars) :=
  match cs with
  | e :: rest =>
    if e == 'e' || e == 'E' then
      let (negative, rest) := match rest with
        | '-' :: r => (true, r)
        | '+' :: r => (false, r)
        | r => (false, r)
      let digits := rest.takeWhile Char.isDigit
      if digits.isEmpty then none
      else some (if negative then -(natOf digits : Int) else natOf digits,
        rest.dropWhile Char.isDigit)
    else none
  | [] => none

def doubleOf (mantissa : Nat) (e : Int) : Float :=
  if mantissa == 0 then 0.0
  else
    let digits : Int := (Nat.toDigits 10 mantissa).length
    -- Outside this range the result is infinite or zero, whatever the digits.
    if digits + e > 400 then 1.0 / 0.0
    else if digits + e < -400 then 0.0
    else if e ≥ 0 then Float.ofScientific mantissa false e.toNat
    else Float.ofScientific mantissa true (-e).toNat

def unsigned? (cs : Chars) : Option Float :=
  let whole := cs.takeWhile Char.isDigit
  let rest := cs.drop whole.length
  let fraction := match rest with
    | '.' :: ds => ds.takeWhile Char.isDigit
    | _ => []
  let rest := match rest with
    | '.' :: ds => ds.drop fraction.length
    | rest => rest
  if whole.isEmpty && fraction.isEmpty then none
  else match rest with
    | [] => some (doubleOf (natOf (whole ++ fraction)) (-fraction.length))
    | rest => match exponent? rest with
      | some (e, []) => some (doubleOf (natOf (whole ++ fraction)) (e - fraction.length))
      | _ => none

def word? (cs : Chars) : Option Float :=
  match String.ofList (cs.map Char.toLower) with
  | "inf" => some (1.0 / 0.0)
  | "infinity" => some (1.0 / 0.0)
  | "nan" => some (0.0 / 0.0)
  | _ => none

def commonDigit (c : Char) : Char :=
  match Text.decimalValue? c with
  | some d => Char.ofNat ('0'.toNat + d)
  | none => c

def dropUnderscores (before : Option Char) : Chars → Option Chars
  | [] => if before == some '_' then none else some []
  | c :: cs =>
    if c == '_' then if before.any Char.isDigit then dropUnderscores (some c) cs else none
    else if before == some '_' && !c.isDigit then none
    else (dropUnderscores (some c) cs).map (c :: ·)

def readDouble? (cs : Chars) : Option Float := do
  let size (cs : Chars) : Option Float := (unsigned? cs).or (word? cs)
  match ← dropUnderscores none ((Text.strip Text.isBlank cs).map commonDigit) with
  | '-' :: cs => (size cs).map (-·)
  | '+' :: cs => size cs
  | cs => size cs

/-! ## Shortest decimals

The decimal with the fewest digits that reads back as a given double, and how such decimals are
written. -/

def signBit : Nat := 0x8000000000000000

def hiddenBit : Nat := 0x10000000000000

/-- A finite positive double `m * 2 ^ q`, with the width of the gap below it. -/
structure Binary where
  m : Nat
  q : Int
  /-- Whether the next smaller double is half as far away as the next larger one. -/
  narrow : Bool

def Binary.ofBits (bits : Nat) : Binary :=
  let fraction : Nat := bits % hiddenBit
  let exponent : Nat := bits / hiddenBit % 2048
  if exponent == 0 then ⟨fraction, -1074, false⟩
  else ⟨hiddenBit + fraction, (exponent : Int) - 1075, fraction == 0 && exponent != 1⟩

/-- A number that is not rounded yet. -/
structure Ratio where
  (num den : Nat)

def Ratio.scale2 (n : Nat) (q : Int) : Ratio :=
  if q ≥ 0 then ⟨n * Nat.pow 2 q.toNat, 1⟩ else ⟨n, Nat.pow 2 (-q).toNat⟩

def Ratio.scale10 (r : Ratio) (e : Int) : Ratio :=
  if e ≥ 0 then ⟨r.num * Nat.pow 10 e.toNat, r.den⟩ else ⟨r.num, r.den * Nat.pow 10 (-e).toNat⟩

/-- The least `k` with `r < 10 ^ k`, found by counting from `k`; the first argument bounds the
    number of steps. -/
def magnitudeFrom : Nat → Int → Ratio → Int
  | 0, k, _ => k
  | n + 1, k, r =>
    let s := r.scale10 (-k)
    if s.num < s.den then k else magnitudeFrom n (k + 1) r

def magnitude (b : Binary) : Int :=
  -- 2 ^ (bits of m + q) is above the value by a factor of at most two.
  let top : Int := (Nat.log2 b.m + 1 : Nat) + b.q
  let start := (top - 1) * 30103 / 100000
  magnitudeFrom 4 (start - 1) (Ratio.scale2 b.m b.q)

def roundsTo (b : Binary) (e : Int) (d : Nat) : Bool :=
  -- In quarters of the unit `2 ^ q`, the interval reaches 2 up and 2 or 1 down.
  let low := (Ratio.scale2 (4 * b.m - if b.narrow then 1 else 2) (b.q - 2)).scale10 (-e)
  let high := (Ratio.scale2 (4 * b.m + 2) (b.q - 2)).scale10 (-e)
  if b.m % 2 == 0 then low.num ≤ d * low.den && d * high.den ≤ high.num
  else low.num < d * low.den && d * high.den < high.num

/-- The hit on the grid `10 ^ e`, if there is one: the nearer neighbour of the value, and of two
    equally near ones the even one. -/
def onGrid? (b : Binary) (e : Int) : Option Nat :=
  let v := (Ratio.scale2 b.m b.q).scale10 (-e)
  let d := v.num / v.den
  let rest := v.num % v.den
  let up := 2 * rest > v.den || (2 * rest == v.den && d % 2 == 1)
  let near := if up then d + 1 else d
  let far := if up then d else d + 1
  if roundsTo b e near then some near
  else if roundsTo b e far then some far
  else none

/-- The first grid with a hit, trying `n` more digits; seventeen digits always suffice. -/
def shortestFrom (b : Binary) : Nat → Int → Nat × Int
  | 0, e => ((onGrid? b e).getD 0, e)
  | n + 1, e =>
    match onGrid? b e with
    | some d => (d, e)
    | none => shortestFrom b n (e - 1)

def dropZeros : Nat → Nat → Int → Nat × Int
  | 0, d, e => (d, e)
  | n + 1, d, e => if d != 0 && d % 10 == 0 then dropZeros n (d / 10) (e + 1) else (d, e)

def shortest (b : Binary) : Nat × Int :=
  let k := magnitude b
  let (d, e) := shortestFrom b 17 (k - 1)
  dropZeros 20 d e

/-- How a number is written. -/
structure Layout where
  /-- Written positionally if the point stands after more than `least` and at most `most`
      digits. -/
  (least most : Int)
  keepPoint : Bool

def Layout.plain : Layout := ⟨-4, 16, true⟩

def exponentText (e : Int) : String :=
  let digits := toString e.natAbs
  (if e < 0 then "-" else "+") ++ (if digits.length < 2 then "0" ++ digits else digits)

def Layout.write (f : Layout) (ds : Chars) (point : Int) : String :=
  if f.least < point && point ≤ f.most then
    if point ≤ 0 then "0." ++ String.ofList (List.replicate (-point).toNat '0' ++ ds)
    else if ds.length ≤ point.toNat then
      String.ofList (ds ++ List.replicate (point.toNat - ds.length) '0')
        ++ (if f.keepPoint then ".0" else "")
    else String.ofList (ds.take point.toNat) ++ "." ++ String.ofList (ds.drop point.toNat)
  else
    let tail := ds.drop 1
    String.ofList (ds.take 1) ++ (if tail.isEmpty then "" else "." ++ String.ofList tail)
      ++ "e" ++ exponentText (point - 1)

def whole? (x : Float) : Option Int :=
  if x.isNaN || x.isInf then none
  else
    let bits := x.toBits.toNat
    let b := Binary.ofBits (bits % signBit)
    let r := Ratio.scale2 b.m b.q
    if r.num % r.den == 0 then
      some (if bits ≥ signBit then -(r.num / r.den : Nat) else (r.num / r.den : Nat))
    else none

def truncate? (x : Float) : Option Int :=
  if x.isNaN || x.isInf then none
  else
    let bits := x.toBits.toNat
    let b := Binary.ofBits (bits % signBit)
    let r := Ratio.scale2 b.m b.q
    some (if bits ≥ signBit then -(r.num / r.den : Nat) else (r.num / r.den : Nat))

def intLess (n : Int) (x : Float) : Bool :=
  if x.isNaN then false
  else if x.isInf then x > 0
  else
    let bits := x.toBits.toNat
    let b := Binary.ofBits (bits % signBit)
    let r := Ratio.scale2 b.m b.q
    n * r.den < if bits ≥ signBit then -(r.num : Int) else r.num

def lessInt (x : Float) (n : Int) : Bool :=
  if x.isNaN then false
  else if x.isInf then x < 0
  else
    let bits := x.toBits.toNat
    let b := Binary.ofBits (bits % signBit)
    let r := Ratio.scale2 b.m b.q
    (if bits ≥ signBit then -(r.num : Int) else r.num) < n * r.den

def Layout.text (f : Layout) (x : Float) : String :=
  if x.isNaN then "nan"
  else
    let bits := x.toBits.toNat
    let sign := if bits ≥ signBit then "-" else ""
    let body := bits % signBit
    if x.isInf then sign ++ "inf"
    else if body == 0 then sign ++ f.write ['0'] 1
    else
      let (d, e) := shortest (Binary.ofBits body)
      let ds := Nat.toDigits 10 d
      sign ++ f.write ds (e + ds.length)

def text (x : Float) : String := Layout.plain.text x

/-! ## Extended doubles

Positive numbers with 64 significant bits, as some processors calculate with them. -/

def roundedShift (n : Nat) (k : Nat) : Nat :=
  let unit := Nat.pow 2 k
  let q := n / unit
  let r := n % unit
  if 2 * r > unit || (2 * r == unit && q % 2 == 1) then q + 1 else q

def nearestDouble (n : Nat) (e : Int) : Float :=
  if n == 0 then 0.0
  else
    let top : Int := e + Nat.log2 n
    if top > 1023 then 1.0 / 0.0
    else
      -- The unit of the last bit; below the normal range it stays the same.
      let unit : Int := max (top - 52) (-1074)
      let q := if unit ≤ e then n * Nat.pow 2 (e - unit).toNat else roundedShift n (unit - e).toNat
      -- The bit in front of the fraction is counted as one more exponent.
      Float.ofBits (UInt64.ofNat ((unit + 1074).toNat * hiddenBit + q))

/-- `m * 2 ^ e`, with more digits than a float has. -/
structure Extended where
  m : Nat
  e : Int

namespace Extended

def ofScaled (n : Nat) (e : Int) : Extended :=
  if n == 0 then ⟨0, 0⟩
  else
    let length := Nat.log2 n + 1
    if length ≤ 64 then ⟨n * Nat.pow 2 (64 - length), e - (64 - length : Nat)⟩
    else
      let k := length - 64
      let q := roundedShift n k
      if q == 0x10000000000000000 then ⟨0x8000000000000000, e + k + 1⟩ else ⟨q, e + k⟩

def ofNat (n : Nat) : Extended := ofScaled n 0

def ofFloat (x : Float) : Extended :=
  let b := Binary.ofBits x.toBits.toNat
  ofScaled b.m b.q

def mul (a b : Extended) : Extended := ofScaled (a.m * b.m) (a.e + b.e)

/-- The quotient by a number that is not zero. Far more bits are calculated than are kept, and a
    last bit tells whether there is a remainder. -/
def div (a b : Extended) : Extended :=
  let n := a.m * Nat.pow 2 130
  let q := n / b.m
  ofScaled (2 * q + if n % b.m == 0 then 0 else 1) (a.e - b.e - 131)

def aligned (a b : Extended) : Nat × Nat × Int :=
  let e := min a.e b.e
  (a.m * Nat.pow 2 (a.e - e).toNat, b.m * Nat.pow 2 (b.e - e).toNat, e)

def add (a b : Extended) : Extended :=
  let (x, y, e) := aligned a b
  ofScaled (x + y) e

def sub (a b : Extended) : Extended :=
  let (x, y, e) := aligned a b
  ofScaled (x - y) e

def less (a b : Extended) : Bool :=
  let (x, y, _) := aligned a b
  x < y

def floor (a : Extended) : Nat :=
  if a.e ≥ 0 then a.m * Nat.pow 2 a.e.toNat else a.m / Nat.pow 2 (-a.e).toNat

def toFloat (a : Extended) : Float := nearestDouble a.m a.e

def powerFrom : Nat → Nat → Extended → Extended → Extended
  | 0, _, _, product => product
  | fuel + 1, n, square, product =>
    let product := if n % 2 == 1 then product.mul square else product
    if n / 2 == 0 then product else powerFrom fuel (n / 2) (square.mul square) product

def powerOfTen (n : Nat) : Extended := powerFrom n.succ n (ofNat 10) (ofNat 1)

end Extended

end Huntbook.Decimal
