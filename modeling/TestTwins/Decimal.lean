/-! Decimal text of doubles. A finite double is `m · 2 ^ q`; its shortest text has the fewest digits
that still round to it, and its fixed text is the exact value rounded half to even. Where a number is
written with an exponent, and whether a whole number keeps a point, is decided by a `Layout`. -/

namespace TestTwins.Decimal

inductive Shape
  | nan
  | infinite (negative : Bool)
  | finite (negative : Bool) (mantissa : Nat) (exponent : Int)
  deriving DecidableEq, Repr

def hiddenBit : Nat := 0x10000000000000

def Shape.ofBits (bits : Nat) : Shape :=
  let negative := bits >>> 63 == 1
  let biased : Nat := bits / hiddenBit % 2048
  let fraction := bits % hiddenBit
  if biased == 2047 then
    if fraction == 0 then .infinite negative else .nan
  else if biased == 0 then .finite negative fraction (-1074)
  else .finite negative (hiddenBit + fraction) ((biased : Int) - 1075)

def shape (x : Float) : Shape := .ofBits x.toBits.toNat

def digitCount (n : Nat) : Nat := (Nat.toDigits 10 n).length

def scaled (m : Nat) (e2 e10 : Int) : Nat × Nat :=
  (m * Nat.pow 2 e2.toNat * Nat.pow 10 e10.toNat, Nat.pow 2 (-e2).toNat * Nat.pow 10 (-e10).toNat)

def leadingExponent (num den : Nat) : Int :=
  if den ≤ num then (digitCount (num / den) : Int) - 1
  else
    let d := digitCount (den / num)
    if den ≤ num * Nat.pow 10 (d - 1) then -((d : Int) - 1) else -(d : Int)

structure Digits where
  digits : Nat
  exponent : Int
  deriving DecidableEq, Repr

/-- The point of the grid `10 ^ k` nearest to `m · 2 ^ q`, if it still rounds to that double. The
rounding interval is closed when `m` is even, and its lower half is narrower at a power of two. -/
def onGrid (m : Nat) (q k : Int) : Option Digits :=
  let low := if m == hiddenBit && q != -1074 then 4 * m - 1 else 4 * m - 2
  let (value, den) := scaled (4 * m) (q - 2) (-k)
  let lower := (scaled low (q - 2) (-k)).1
  let upper := (scaled (4 * m + 2) (q - 2) (-k)).1
  let inside (d : Nat) : Bool :=
    if m % 2 == 0 then lower ≤ d * den && d * den ≤ upper else lower < d * den && d * den < upper
  let below := value / den
  let nearest := if 2 * (value % den) ≤ den then [below, below + 1] else [below + 1, below]
  (nearest.find? inside).map (⟨·, k⟩)

def Digits.strip : Nat → Digits → Digits
  | 0, d => d
  | n + 1, d => if d.digits % 10 == 0 then strip n ⟨d.digits / 10, d.exponent + 1⟩ else d

def shortest (m : Nat) (q : Int) : Digits :=
  let (num, den) := scaled m q 0
  let lead := leadingExponent num den
  let found := (List.range 17).findSome? fun n : Nat => onGrid m q (lead - n)
  (found.getD ⟨num / den, 0⟩).strip 17

structure Layout where
  positional : Int → Bool
  keepPoint : Bool

def Layout.json : Layout := ⟨fun e => -5 ≤ e && e < 16, true⟩

def Layout.plain : Layout := ⟨fun _ => true, false⟩

def Layout.pointed : Layout := ⟨fun _ => true, true⟩

def zeros (n : Nat) : String := String.ofList (List.replicate n '0')

def positionalText (keepPoint : Bool) (ds : List Char) (k : Int) : String :=
  if 0 ≤ k then
    String.ofList ds ++ zeros k.toNat ++ (if keepPoint then ".0" else "")
  else
    let places := (-k).toNat
    if places < ds.length then
      String.ofList (ds.take (ds.length - places)) ++ "." ++ String.ofList (ds.drop (ds.length - places))
    else "0." ++ zeros (places - ds.length) ++ String.ofList ds

def exponentText (ds : List Char) (lead : Int) : String :=
  let fraction := if ds.length ≤ 1 then "" else "." ++ String.ofList (ds.drop 1)
  let sign := if lead < 0 then "-" else "+"
  String.ofList (ds.take 1) ++ fraction ++ "e" ++ sign ++ toString lead.natAbs

def Digits.text (layout : Layout) (d : Digits) : String :=
  let ds := Nat.toDigits 10 d.digits
  let lead := (ds.length : Int) - 1 + d.exponent
  if layout.positional lead then positionalText layout.keepPoint ds d.exponent
  else exponentText ds lead

def signText (negative : Bool) : String := if negative then "-" else ""

def text (layout : Layout) (nan infinity : String) (x : Float) : String :=
  match shape x with
  | .nan => nan
  | .infinite negative => signText negative ++ infinity
  | .finite negative 0 _ => signText negative ++ (if layout.keepPoint then "0.0" else "0")
  | .finite negative m q => signText negative ++ (shortest m q).text layout

def roundHalfEven (num den : Nat) : Nat :=
  let below := num / den
  let twice := 2 * (num % den)
  if twice < den then below
  else if den < twice then below + 1
  else if below % 2 == 0 then below else below + 1

def fixedDigits (places : Nat) (n : Nat) : String :=
  let ds := Nat.toDigits 10 n
  let ds := List.replicate (places + 1 - ds.length) '0' ++ ds
  let whole := ds.length - places
  String.ofList (ds.take whole) ++ (if places == 0 then "" else ".") ++ String.ofList (ds.drop whole)

def fixed (places : Nat) (x : Float) : String :=
  match shape x with
  | .nan => "NaN"
  | .infinite negative => signText negative ++ "inf"
  | .finite negative m q =>
    let (num, den) := scaled m q places
    signText negative ++ fixedDigits places (roundHalfEven num den)

def nearest (digits : Nat) (exponent : Int) : Float :=
  if digits == 0 then 0
  else
    let lead := (digitCount digits : Int) + exponent
    if 400 < lead then 1 / 0
    else if lead < -400 then 0
    else Float.ofScientific digits (exponent < 0) exponent.natAbs

def digitValue (c : Char) : Nat := c.toNat - '0'.toNat

def ofDigits (cs : List Char) : Nat := cs.foldl (fun n c => 10 * n + digitValue c) 0

end TestTwins.Decimal
