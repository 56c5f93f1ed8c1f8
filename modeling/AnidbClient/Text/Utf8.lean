import AnidbClient.Text

/-!
# UTF-8

`encode` writes text as bytes.  `scan` takes the next character off a list of bytes, or says how
many bytes rule it out, or that the bytes end within a character; both readings of bytes follow
it to the end:

* `decode` stops at the first fault and tells its position;
* `decodeLossy` puts U+FFFD for every fault and goes on behind it.

The fault of a sequence is found at the first byte that no character can have at that place, so
its length is that of the longest beginning of a character there, at least one byte.
-/

namespace AnidbClient.Text.Utf8

/-- Bytes as they travel in a datagram. -/
abbrev Bytes := List UInt8

/-! ## Writing -/

/-- The byte that carries six bits behind the first byte of a character. -/
def tailByte (n : Nat) : UInt8 :=
  UInt8.ofNat (0x80 + n % 0x40)

/-- The bytes of one character. -/
def encodeChar (c : Char) : Bytes :=
  let n := c.toNat
  if n < 0x80 then [UInt8.ofNat n]
  else if n < 0x800 then [UInt8.ofNat (0xC0 + n / 0x40), tailByte n]
  else if n < 0x10000 then [UInt8.ofNat (0xE0 + n / 0x1000), tailByte (n / 0x40), tailByte n]
  else [UInt8.ofNat (0xF0 + n / 0x40000), tailByte (n / 0x1000), tailByte (n / 0x40), tailByte n]

/-- The bytes of a text. -/
def encode (s : Text) : Bytes :=
  s.flatMap encodeChar

/-- The beginning of a text that takes exactly so many bytes, or all of a text that takes fewer;
nothing if a character would be cut. -/
def front? : Nat → Text → Option Text
  | 0, _ | _, [] => some []
  | n, c :: rest =>
    if c.utf8Size ≤ n then (front? (n - c.utf8Size) rest).map (c :: ·) else none

/-! ## The next character -/

/-- What stands at the start of some bytes. -/
inductive Scan where
  /-- Nothing is left. -/
  | done
  /-- A character of `width` bytes. -/
  | char (c : Char) (width : Nat)
  /-- The first `width` bytes cannot be part of any character. -/
  | broken (width : Nat)
  /-- The bytes end within a character. -/
  | short
  deriving Repr, DecidableEq

/-- A byte that carries six bits behind the first byte of a character. -/
def isTail (b : UInt8) : Bool :=
  0x80 ≤ b && b ≤ 0xBF

/-- The bounds of the second byte: it keeps out overlong forms, surrogates and numbers beyond
the last character. -/
def secondBounds (first : UInt8) : UInt8 × UInt8 :=
  if first = 0xE0 then (0xA0, 0xBF)
  else if first = 0xED then (0x80, 0x9F)
  else if first = 0xF0 then (0x90, 0xBF)
  else if first = 0xF4 then (0x80, 0x8F)
  else (0x80, 0xBF)

/-- The number of bytes that a first byte announces; none for a byte that starts no character. -/
def announced (first : UInt8) : Option Nat :=
  if first ≤ 0x7F then some 1
  else if 0xC2 ≤ first ∧ first ≤ 0xDF then some 2
  else if 0xE0 ≤ first ∧ first ≤ 0xEF then some 3
  else if 0xF0 ≤ first ∧ first ≤ 0xF4 then some 4
  else none

/-- Goes on with a character of which the bytes seen so far have the value `value` and are
`width` in number, while `owed` bytes are still to come. -/
def scanTail (value width : Nat) : Nat → Bytes → Scan
  | 0, _ => .char (Char.ofNat value) width
  | _ + 1, [] => .short
  | owed + 1, b :: rest =>
    if isTail b then scanTail (value * 0x40 + (b.toNat - 0x80)) (width + 1) owed rest
    else .broken width

/-- The bits of the character that its first byte carries. -/
def firstBits (first : UInt8) (count : Nat) : Nat :=
  if count = 2 then first.toNat - 0xC0
  else if count = 3 then first.toNat - 0xE0
  else first.toNat - 0xF0

/-- The next character, or what is wrong with it. -/
def scan : Bytes → Scan
  | [] => .done
  | first :: rest =>
    match announced first with
    | none => .broken 1
    | some 1 => .char (Char.ofNat first.toNat) 1
    | some count =>
      match rest with
      | [] => .short
      | second :: rest =>
        let (low, high) := secondBounds first
        if low ≤ second ∧ second ≤ high then
          scanTail (firstBits first count * 0x40 + (second.toNat - 0x80)) 2 (count - 2) rest
        else .broken 1

/-! ## Reading all bytes -/

/-- Why some bytes are no text, and where. -/
inductive Fault where
  /-- The `width` bytes from `index` on are part of no character. -/
  | broken (width index : Nat)
  /-- The bytes end within the character that starts at `index`. -/
  | short (index : Nat)
  deriving Repr, DecidableEq

/-- Reads bytes of which `index` have been read and of which the first `skip` belong to the
last character. -/
def decodeFrom : Nat → Nat → Bytes → Except Fault Text
  | _, _, [] => .ok []
  | index, skip + 1, _ :: rest => decodeFrom (index + 1) skip rest
  | index, 0, b :: rest =>
    match scan (b :: rest) with
    | .done => .ok []
    | .char c width => (decodeFrom (index + 1) (width - 1) rest).map (c :: ·)
    | .broken width => .error (.broken width index)
    | .short => .error (.short index)

/-- The text that some bytes are, or their first fault. -/
def decode (bytes : Bytes) : Except Fault Text :=
  decodeFrom 0 0 bytes

/-- Reads bytes of which the first `skip` belong to the last character or fault. -/
def decodeLossyFrom : Nat → Bytes → Text
  | _, [] => []
  | skip + 1, _ :: rest => decodeLossyFrom skip rest
  | 0, b :: rest =>
    match scan (b :: rest) with
    | .done => []
    | .char c width => c :: decodeLossyFrom (width - 1) rest
    | .broken width => '\uFFFD' :: decodeLossyFrom (width - 1) rest
    | .short => ['\uFFFD']

/-- The text that some bytes are, with U+FFFD for every fault. -/
def decodeLossy (bytes : Bytes) : Text :=
  decodeLossyFrom 0 bytes

end AnidbClient.Text.Utf8
