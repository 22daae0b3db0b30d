import SourceLint.Text.Quoted

/-! Reading bytes as UTF-8, with the first fault told exactly. -/

namespace SourceLint.Source

/-- Why bytes are not UTF-8. -/
inductive Utf8Reason where
  /-- No character starts with this byte. -/
  | start
  /-- A byte does not continue the character before it. -/
  | continuation
  /-- The bytes end inside a character. -/
  | ending
deriving DecidableEq

/-- The first place where bytes are not UTF-8. -/
structure Utf8Fault where
  position : Nat
  /-- The bytes that belong to the fault, the first of them apart. -/
  first : UInt8
  others : List UInt8
  reason : Utf8Reason
deriving DecidableEq

/-- The name of a reason. -/
def Utf8Reason.label : Utf8Reason → String
  | start => "invalid start byte"
  | continuation => "invalid continuation byte"
  | ending => "unexpected end of data"

/-- What is said about a fault. -/
def Utf8Fault.message (fault : Utf8Fault) : String :=
  let subject :=
    if fault.others.isEmpty then
      "byte 0x" ++ String.ofList (Text.hexDigits 2 fault.first.toNat) ++ " in position " ++
        toString fault.position
    else
      "bytes in position " ++ toString fault.position ++ "-" ++
        toString (fault.position + fault.others.length)
  "'utf-8' codec can't decode " ++ subject ++ ": " ++ fault.reason.label

/-- The bytes that may come second after a first byte, and how many follow in all. -/
def continuationRange? (first : UInt8) : Option (Nat × UInt8 × UInt8) :=
  if first < 0xc2 then none
  else if first < 0xe0 then some (1, 0x80, 0xbf)
  else if first == 0xe0 then some (2, 0xa0, 0xbf)
  else if first == 0xed then some (2, 0x80, 0x9f)
  else if first < 0xf0 then some (2, 0x80, 0xbf)
  else if first == 0xf0 then some (3, 0x90, 0xbf)
  else if first < 0xf4 then some (3, 0x80, 0xbf)
  else if first == 0xf4 then some (3, 0x80, 0x8f)
  else none

/-- The bits that a first byte contributes to its character: one less for each byte that follows. -/
def leadBits (first : UInt8) (count : Nat) : Nat :=
  first.toNat % (64 >>> count)

/--
Reads the bytes that continue a character, of which `count` are due.

The answer is the code point or the bytes that belong to the fault. Bytes after the second one may
be any continuation byte.
-/
def readContinuation : (count : Nat) → (low high : UInt8) → (code : Nat) → List UInt8 →
    Except (List UInt8 × Utf8Reason) Nat
  | 0, _, _, code, _ => .ok code
  | _ + 1, _, _, _, [] => .error ([], .ending)
  | count + 1, low, high, code, byte :: rest =>
    if low ≤ byte && byte ≤ high then
      match readContinuation count 0x80 0xbf (code * 64 + byte.toNat % 64) rest with
      | .ok code => .ok code
      | .error (read, reason) => .error (byte :: read, reason)
    else
      .error ([], .continuation)

/-- The characters of bytes that start at the given position. -/
def decodeFrom (position : Nat) : List UInt8 → Except Utf8Fault Text
  | [] => .ok []
  | first :: rest =>
    if first < 0x80 then
      (decodeFrom (position + 1) rest).map (Char.ofNat first.toNat :: ·)
    else
      match continuationRange? first with
      | none => .error ⟨position, first, [], .start⟩
      | some (count, low, high) =>
        match readContinuation count low high (leadBits first count) rest with
        | .error (others, reason) => .error ⟨position, first, others, reason⟩
        | .ok code =>
          (decodeFrom (position + 1 + count) (rest.drop count)).map (Char.ofNat code :: ·)
termination_by bytes => bytes.length

/-- The characters of bytes in UTF-8. -/
def decode (bytes : List UInt8) : Except Utf8Fault Text :=
  decodeFrom 0 bytes

/-- A text with every kind of line break written as a line feed. -/
def normalizeBreaks : Text → Text
  | '\r' :: '\n' :: rest => '\n' :: normalizeBreaks rest
  | '\r' :: rest => '\n' :: normalizeBreaks rest
  | c :: rest => c :: normalizeBreaks rest
  | [] => []

end SourceLint.Source
