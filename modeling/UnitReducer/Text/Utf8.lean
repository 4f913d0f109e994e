import UnitReducer.Text.Quoted
/-!
# UTF-8

Encoding of text and two decoders.  The strict one stops at the first ill-formed sequence and says
where it is and what is wrong with it; the lossy one puts one replacement character for each
maximal ill-formed part.
-/

namespace UnitReducer

abbrev Bytes := List UInt8

namespace Utf8

/-- What makes a sequence of bytes ill-formed. -/
inductive Fault where
  | startByte
  | continuationByte
  | truncated
deriving DecidableEq, Repr

/-- An ill-formed sequence: its position, its length, its first byte and its fault. -/
structure Error where
  position : Nat
  length : Nat
  byte : UInt8
  fault : Fault
deriving DecidableEq, Repr

def Fault.message : Fault → String
  | .startByte => "invalid start byte"
  | .continuationByte => "invalid continuation byte"
  | .truncated => "unexpected end of data"

/-- Names the offending byte, or the range of positions when there are several. -/
def Error.message (e : Error) : String :=
  let place :=
    if e.length = 1 then
      s!"byte 0x{(Quoted.hex 2 e.byte.toNat).toString} in position {e.position}"
    else s!"bytes in position {e.position}-{e.position + e.length - 1}"
  s!"'utf-8' codec can't decode {place}: {e.fault.message}"

/-- What stands at the head of a byte sequence, and how many bytes it takes. -/
inductive Head where
  | char (c : Char) (size : Nat)
  | bad (fault : Fault) (size : Nat)
deriving DecidableEq, Repr

def encodeChar (c : Char) : Bytes :=
  let n := c.toNat
  if n < 0x80 then [.ofNat n]
  else if n < 0x800 then [.ofNat (0xC0 + n / 0x40), .ofNat (0x80 + n % 0x40)]
  else if n < 0x10000 then
    [.ofNat (0xE0 + n / 0x1000), .ofNat (0x80 + n / 0x40 % 0x40), .ofNat (0x80 + n % 0x40)]
  else
    [.ofNat (0xF0 + n / 0x40000), .ofNat (0x80 + n / 0x1000 % 0x40),
      .ofNat (0x80 + n / 0x40 % 0x40), .ofNat (0x80 + n % 0x40)]

def encode (t : Text) : Bytes :=
  t.flatMap encodeChar

def continuation (b : UInt8) : Bool :=
  0x80 ≤ b && b ≤ 0xBF

/-- The second bytes that may follow a lead byte.  Overlong forms, surrogates and code points above
the last one are excluded here. -/
def second (lead b : UInt8) : Bool :=
  continuation b && (lead != 0xE0 || 0xA0 ≤ b) && (lead != 0xED || b < 0xA0) &&
    (lead != 0xF0 || 0x90 ≤ b) && (lead != 0xF4 || b < 0x90)

/-- Collects `need` further bytes into a code point; the next one has to satisfy `ok`. -/
def gather : Nat → Nat → Nat → (UInt8 → Bool) → Bytes → Head
  | 0, size, n, _, _ => .char (Char.ofNat n) size
  | _ + 1, size, _, _, [] => .bad .truncated size
  | need + 1, size, n, ok, b :: bs =>
    if ok b then gather need (size + 1) (0x40 * n + b.toNat % 0x40) continuation bs
    else .bad .continuationByte size

def head (lead : UInt8) (bs : Bytes) : Head :=
  let n := lead.toNat
  if n < 0x80 then .char (Char.ofNat n) 1
  else if n < 0xC2 then .bad .startByte 1
  else if n < 0xE0 then gather 1 1 (n - 0xC0) (second lead) bs
  else if n < 0xF0 then gather 2 1 (n - 0xE0) (second lead) bs
  else if n < 0xF5 then gather 3 1 (n - 0xF0) (second lead) bs
  else .bad .startByte 1

/-- Decodes what follows the first `skip` bytes; `position` counts the bytes before. -/
def decodeFrom : Nat → Nat → Bytes → Except Error Text
  | _, _, [] => .ok []
  | position, skip + 1, _ :: bs => decodeFrom (position + 1) skip bs
  | position, 0, b :: bs =>
    match head b bs with
    | .bad fault size => .error ⟨position, size, b, fault⟩
    | .char c size =>
      match decodeFrom (position + 1) (size - 1) bs with
      | .error e => .error e
      | .ok t => .ok (c :: t)

def decode (bs : Bytes) : Except Error Text :=
  decodeFrom 0 0 bs

def replacement : Char := '\uFFFD'

def decodeLossyFrom : Nat → Bytes → Text
  | _, [] => []
  | skip + 1, _ :: bs => decodeLossyFrom skip bs
  | 0, b :: bs =>
    match head b bs with
    | .bad _ size => replacement :: decodeLossyFrom (size - 1) bs
    | .char c size => c :: decodeLossyFrom (size - 1) bs

def decodeLossy (bs : Bytes) : Text :=
  decodeLossyFrom 0 bs

end Utf8

end UnitReducer
