/-!
Punycode: labels of domain names that are not ASCII, written in ASCII. The characters beyond ASCII
are coded in ascending order, each by its distance from the one before.
-/
namespace LiveTelemetry.Url.Punycode

def digitChar (d : Nat) : Char := Char.ofNat (if d < 26 then 0x61 + d else 0x30 + d - 26)

def digitValue? (c : Char) : Option Nat :=
  if 'a' ≤ c ∧ c ≤ 'z' then some (c.toNat - 'a'.toNat)
  else if 'A' ≤ c ∧ c ≤ 'Z' then some (c.toNat - 'A'.toNat)
  else if c.isDigit then some (c.toNat - '0'.toNat + 26)
  else none

/-- The threshold of the digit at position `k`. -/
def threshold (k bias : Nat) : Nat := max 1 (min 26 (k - bias))

def shrink : Nat → Nat → Nat → Nat × Nat
  | 0, delta, k => (delta, k)
  | fuel + 1, delta, k => if 455 < delta then shrink fuel (delta / 35) (k + 36) else (delta, k)

def adapt (delta count : Nat) (first : Bool) : Nat :=
  let delta := if first then delta / 700 else delta / 2
  let (delta, k) := shrink 16 (delta + delta / count) 0
  k + 36 * delta / (delta + 38)

/-- The digits of a distance, the least significant first. -/
def digits (bias : Nat) : Nat → Nat → Nat → List Char
  | 0, _, _ => []
  | fuel + 1, k, q =>
    let t := threshold k bias
    if q < t then [digitChar q]
    else digitChar (t + (q - t) % (36 - t)) :: digits bias fuel (k + 36) ((q - t) / (36 - t))

structure Encoding where
  output : List Char
  delta : Nat
  bias : Nat
  handled : Nat

/-- Passes over one character while the characters `n` are coded. -/
def encodeChar (basic n : Nat) (e : Encoding) (c : Char) : Encoding :=
  if c.toNat < n then { e with delta := e.delta + 1 }
  else if c.toNat = n then
    { output := e.output ++ digits e.bias 32 36 e.delta
      delta := 0
      bias := adapt e.delta (e.handled + 1) (e.handled == basic)
      handled := e.handled + 1 }
  else e

/-- Codes the characters that are left, in ascending order. -/
def encodeRest (input : List Char) (basic : Nat) : Nat → Nat → Encoding → Encoding
  | 0, _, e => e
  | fuel + 1, n, e =>
    match (input.filter fun c => n ≤ c.toNat).map Char.toNat with
    | [] => e
    | m :: ms =>
      let next := ms.foldl min m
      let e := input.foldl (encodeChar basic next)
        { e with delta := e.delta + (next - n) * (e.handled + 1) }
      encodeRest input basic fuel (next + 1) { e with delta := e.delta + 1 }

def encode (input : List Char) : List Char :=
  let ascii := input.filter fun c => c.toNat < 0x80
  let start := if ascii.isEmpty then [] else ascii ++ ['-']
  (encodeRest input ascii.length input.length 0x80 ⟨start, 0, 72, ascii.length⟩).output

/-- Reads one distance; gives the new index. -/
def distance (bias : Nat) : List Char → Nat → Nat → Nat → Option (Nat × List Char)
  | [], _, _, _ => none
  | c :: r, k, weight, i =>
    match digitValue? c with
    | none => none
    | some d =>
      let t := threshold k bias
      if d < t then some (i + d * weight, r)
      else distance bias r (k + 36) (weight * (36 - t)) (i + d * weight)

/-- Inserts the characters that are coded in the rest of a label. -/
def decodeRest : Nat → List Char → Nat → Nat → Nat → List Char → Option (List Char)
  | _, [], _, _, _, output => some output
  | 0, _ :: _, _, _, _, _ => none
  | fuel + 1, r, n, i, bias, output =>
    match distance bias r 36 1 i with
    | none => none
    | some (j, r) =>
      let size := output.length + 1
      let n := n + j / size
      if 0x110000 ≤ n ∨ (0xD800 ≤ n ∧ n < 0xE000) then none
      else
        let spot := j % size
        decodeRest fuel r n (spot + 1) (adapt (j - i) size (i == 0))
          (output.take spot ++ Char.ofNat n :: output.drop spot)

def decode? (input : List Char) : Option (List Char) :=
  let behind := (input.reverse.takeWhile fun c => c ≠ '-').reverse
  let ascii :=
    if behind.length < input.length then input.take (input.length - behind.length - 1) else []
  decodeRest behind.length behind 0x80 0 72 ascii

example : String.ofList (encode "日本".toList) = "wgv71a" := by decide +kernel
example : decode? "wgv71a".toList = some "日本".toList := by decide +kernel
example : String.ofList (encode "bücher".toList) = "bcher-kva" := by decide +kernel
example : decode? "bcher-kva".toList = some "bücher".toList := by decide +kernel

end LiveTelemetry.Url.Punycode
