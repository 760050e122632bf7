import Questionnaire.Form.Decode

/-! # Reading CBOR

`Cbor.read?` reads one item that makes up the whole of some bytes. Lengths may be given in advance
or end with a break, in which case the chunks of a text are joined before they are decoded. Lists,
maps and tags may nest up to 127 levels, and any fault leaves no value. The functions
that read items take the number of steps that they may still make, and bytes are read within twice
their number. -/

namespace Questionnaire.Cbor

/-- The argument of a head. -/
inductive Argument where
  | value (n : Nat)
  /-- The length is not given; a break ends the item. -/
  | indefinite

/-- The number that some bytes write, the most significant first. -/
def ofBigEndian (bytes : List UInt8) : Nat := bytes.foldl (fun n b => 256 * n + b.toNat) 0

/-- The first bytes and what follows them, if there are so many. -/
def take? (count : Nat) (bytes : List UInt8) : Option (List UInt8 × List UInt8) :=
  if (bytes.take count).length = count then some (bytes.take count, bytes.drop count) else none

/-- An argument of a number of bytes. -/
def wide? (count : Nat) (bytes : List UInt8) : Option (Argument × List UInt8) := do
  let (argument, rest) ← take? count bytes
  return (.value (ofBigEndian argument), rest)

/-- The argument that goes with the information of a first byte. -/
def argument? (info : Nat) (bytes : List UInt8) : Option (Argument × List UInt8) :=
  if info < 24 then some (.value info, bytes)
  else if info = 24 then wide? 1 bytes
  else if info = 25 then wide? 2 bytes
  else if info = 26 then wide? 4 bytes
  else if info = 27 then wide? 8 bytes
  else if info = 31 then some (.indefinite, bytes)
  else none

/-- The byte that ends an item of indefinite length. -/
def breakByte : UInt8 := 0xFF

/-! ### Strings -/

/-- The chunks of a string up to the break, joined. -/
def chunks? (major : Nat) : Nat → List UInt8 → Option (List UInt8 × List UInt8)
  | 0, _ => none
  | _, [] => none
  | steps + 1, b :: rest =>
    if b = breakByte then some ([], rest)
    else if b.toNat / 32 = major then
      match argument? (b.toNat % 32) rest with
      | some (.value count, rest) => do
        let (chunk, rest) ← take? count rest
        let (more, rest) ← chunks? major steps rest
        return (chunk ++ more, rest)
      | _ => none
    else none

/-- The bytes of a string. -/
def string? (major : Nat) (argument : Argument) (bytes : List UInt8) :
    Option (List UInt8 × List UInt8) :=
  match argument with
  | .value count => take? count bytes
  | .indefinite => chunks? major (bytes.length + 1) bytes

/-! ### Items -/

/-- An item of the major type for simple values and floating-point numbers. -/
def simple? (info : Nat) (bytes : List UInt8) : Option (Wire × List UInt8) :=
  match info with
  | 20 => some (.bool false, bytes)
  | 21 => some (.bool true, bytes)
  | 22 => some (.null, bytes)
  | 23 => some (.undefined, bytes)
  | 25 => do
    let (pattern, rest) ← take? 2 bytes
    return (.double (.ofHalf (ofBigEndian pattern)), rest)
  | 26 => do
    let (pattern, rest) ← take? 4 bytes
    return (.double (.ofSingle (ofBigEndian pattern)), rest)
  | 27 => do
    let (pattern, rest) ← take? 8 bytes
    return (.double (.ofDouble (ofBigEndian pattern)), rest)
  | _ => none

/-- How many elements of a list or map are still to come; none means up to the break. -/
abbrev Remaining := Option Nat

/-- The elements that an argument announces. -/
def Argument.remaining : Argument → Remaining
  | .value n => some n
  | .indefinite => none

/-- What follows a list or map whose elements have come to their end here. -/
def atEnd? (remaining : Remaining) (bytes : List UInt8) : Option (List UInt8) :=
  match remaining, bytes with
  | some 0, bytes => some bytes
  | none, b :: rest => if b = breakByte then some rest else none
  | _, _ => none

mutual

/-- An item, with the levels that it may nest, and what follows it. -/
def item? (levels : Nat) : Nat → List UInt8 → Option (Wire × List UInt8)
  | 0, _ => none
  | _, [] => none
  | steps + 1, b :: rest => do
    let major := b.toNat / 32
    if major = 7 then simple? (b.toNat % 32) rest
    else
      let (argument, rest) ← argument? (b.toNat % 32) rest
      match major, argument with
      | 0, .value n => return (.integer n, rest)
      | 1, .value n => return (.integer (-1 - n), rest)
      | 2, argument =>
        let (bytes, rest) ← string? 2 argument rest
        return (.bytes bytes, rest)
      | 3, argument =>
        let (bytes, rest) ← string? 3 argument rest
        return (.text (← Decode.textOfBytes? bytes), rest)
      | 4, argument =>
        if levels = 0 then none
        else
          let (items, rest) ← items? (levels - 1) argument.remaining steps rest
          return (.list items true, rest)
      | 5, argument =>
        if levels = 0 then none
        else
          let (entries, rest) ← entries? (levels - 1) argument.remaining steps rest
          let w : Wire := .map entries true
          return (if b.toNat % 32 < 24 then w else .wrapped w, rest)
      | 6, .value _ =>
        if levels = 0 then none
        else
          let (w, rest) ← item? (levels - 1) steps rest
          return (w.tagged, rest)
      | _, _ => none

/-- The items of a list, and what follows it. -/
def items? (levels : Nat) (remaining : Remaining) : Nat → List UInt8 →
    Option (List Wire × List UInt8)
  | 0, _ => none
  | steps + 1, bytes =>
    match atEnd? remaining bytes with
    | some rest => some ([], rest)
    | none => do
      let (w, rest) ← item? levels steps bytes
      let (ws, rest) ← items? levels (remaining.map (· - 1)) steps rest
      return (w :: ws, rest)

/-- The entries of a map, and what follows it. -/
def entries? (levels : Nat) (remaining : Remaining) : Nat → List UInt8 →
    Option (List (Wire × Wire) × List UInt8)
  | 0, _ => none
  | steps + 1, bytes =>
    match atEnd? remaining bytes with
    | some rest => some ([], rest)
    | none => do
      let (key, rest) ← item? levels steps bytes
      let (value, rest) ← item? levels steps rest
      let (more, rest) ← entries? levels (remaining.map (· - 1)) steps rest
      return ((key, value) :: more, rest)

end

/-- The levels that items may nest. -/
def maxLevels : Nat := 127

/-- The item that makes up the whole of some bytes. -/
def read? (bytes : List UInt8) : Option Wire :=
  match item? maxLevels (2 * bytes.length + 2) bytes with
  | some (w, []) => some w
  | _ => none

end Questionnaire.Cbor

namespace Questionnaire

/-- The form that some CBOR writes. -/
def Form.ofCbor? (bytes : List UInt8) : Option Form := do
  let w ← Cbor.read? bytes
  (Form.decode .cbor w).toOption

end Questionnaire
