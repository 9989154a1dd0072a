/-!
# UTF-8

Text is stored as its UTF-8 bytes. Reading bytes that are not UTF-8 either reports the first
fault, with its place and its cause, or puts a replacement character where each fault was.

The escapes of a document can name codes that no character has: those from U+D800 to U+DFFF, each
of them one half of a surrogate pair. Such a half has no bytes either, and a text that holds one
cannot be stored. As texts consist of characters here, private ones from U+10D800 to U+10DFFF
stand for the halves, and are not themselves meant by a text. Nor do names of files hold halves.
-/

namespace ManifestPolicy.Text.Utf8

/-- How far the character that stands for a half is from the code of the half. -/
def halfShift : Nat := 0x100000

/-- The character that stands for the half with a code. -/
def half (code : Nat) : Char := Char.ofNat (code + halfShift)

/-- Whether the character stands for a half. -/
def isHalf (c : Char) : Bool := 0xd800 + halfShift ≤ c.toNat && c.toNat ≤ 0xdfff + halfShift

/-- The code of the half that a character stands for. -/
def halfCode (c : Char) : Nat := c.toNat - halfShift

/-- Why a sequence of bytes is not the encoding of a character. -/
inductive Cause where
  | startByte
  | continuationByte
  | endOfData
deriving Repr, DecidableEq

/-- The wording of a cause. -/
def Cause.text : Cause → String
  | .startByte => "invalid start byte"
  | .continuationByte => "invalid continuation byte"
  | .endOfData => "unexpected end of data"

/-- A run of bytes that encodes no character: its first place, its length, and its first byte. -/
structure Fault where
  position : Nat
  length : Nat
  byte : UInt8
  cause : Cause
deriving Repr, DecidableEq

/-- The number in hexadecimal, with leading zeros up to the given width. -/
def hexPadded (width n : Nat) : String :=
  let digits := (Nat.toDigits 16 n)
  String.ofList (List.replicate (width - digits.length) '0' ++ digits)

/-- The wording of a fault: one byte is shown by its value, several by their places. -/
def Fault.message (f : Fault) : String :=
  if f.length = 1 then
    s!"'utf-8' codec can't decode byte 0x{hexPadded 2 f.byte.toNat} in position {f.position}: "
      ++ f.cause.text
  else
    s!"'utf-8' codec can't decode bytes in position {f.position}-{f.position + f.length - 1}: "
      ++ f.cause.text

/-- The first run of halves in a text: its first place, its length, and the code of the first. -/
structure Unencodable where
  position : Nat
  length : Nat
  code : Nat
deriving Repr, DecidableEq

/-- The wording of this: one half is shown by its code, several by their places. -/
def Unencodable.message (f : Unencodable) : String :=
  if f.length = 1 then
    s!"'utf-8' codec can't encode character '\\u{hexPadded 4 f.code}' in position {f.position}: "
      ++ "surrogates not allowed"
  else
    s!"'utf-8' codec can't encode characters in position {f.position}-"
      ++ s!"{f.position + f.length - 1}: surrogates not allowed"

/-- The first run of halves among characters. -/
def firstHalves? (cs : List Char) : Option Unencodable :=
  match cs.dropWhile fun c => !isHalf c with
  | [] => none
  | c :: rest =>
    some ⟨(cs.takeWhile fun c => !isHalf c).length, (rest.takeWhile isHalf).length + 1, halfCode c⟩

/-- The bytes of a text. -/
def encode (s : String) : Except Unencodable ByteArray :=
  match firstHalves? s.toList with
  | some fault => .error fault
  | none => .ok s.toUTF8

example : (firstHalves? ['a', half 0xd800, half 0xdc00]).map Unencodable.message =
    some "'utf-8' codec can't encode characters in position 1-2: surrogates not allowed" := by
  decide +kernel

/-- What stands at the front of a run of bytes. -/
inductive Front where
  /-- A character and the bytes after it. -/
  | char (c : Char) (rest : List UInt8)
  /-- So many bytes that encode none. -/
  | fault (length : Nat) (cause : Cause)

/-- Whether the byte continues a sequence. -/
def isContinuation (b : UInt8) : Bool := 0x80 ≤ b && b < 0xc0

/-- The six bits that a continuation byte carries. -/
def payload (b : UInt8) : Nat := b.toNat % 64

/-- Whether the second byte may follow the lead: a sequence is never longer than needed, never
a surrogate, and never above U+10FFFF. -/
def secondFits (lead second : UInt8) : Bool :=
  isContinuation second &&
    if lead = 0xe0 then 0xa0 ≤ second
    else if lead = 0xed then second < 0xa0
    else if lead = 0xf0 then 0x90 ≤ second
    else if lead = 0xf4 then second < 0x90
    else true

/-- Reads a sequence whose lead announces so many continuation bytes. The fault reaches as far
as the bytes could still have been a character. -/
def sequence (lead : UInt8) (code : Nat) : Nat → Nat → List UInt8 → Front
  | 0, _, rest => .char (Char.ofNat code) rest
  | _ + 1, seen, [] => .fault seen .endOfData
  | n + 1, seen, b :: rest =>
    if (if seen = 1 then secondFits lead b else isContinuation b) then
      sequence lead (code * 64 + payload b) n (seen + 1) rest
    else .fault seen .continuationByte

/-- Reads the character that the bytes begin with. -/
def front (b : UInt8) (rest : List UInt8) : Front :=
  if b < 0x80 then .char (Char.ofNat b.toNat) rest
  else if b < 0xc2 then .fault 1 .startByte
  else if b < 0xe0 then sequence b (b.toNat % 32) 1 1 rest
  else if b < 0xf0 then sequence b (b.toNat % 16) 2 1 rest
  else if b < 0xf5 then sequence b (b.toNat % 8) 3 1 rest
  else .fault 1 .startByte

/-- The first fault of the bytes, searched from a place on with fuel for each byte. -/
def firstFault : Nat → Nat → List UInt8 → Option Fault
  | 0, _, _ => none
  | _, _, [] => none
  | fuel + 1, position, b :: rest =>
    match front b rest with
    | .fault length cause => some ⟨position, length, b, cause⟩
    | .char _ after => firstFault fuel (position + (rest.length + 1 - after.length)) after

/-- The text that the bytes encode, or their first fault. -/
def decode (bytes : ByteArray) : Except Fault String :=
  match String.fromUTF8? bytes with
  | some s => .ok s
  | none =>
    .error ((firstFault (bytes.size + 1) 0 bytes.toList).getD ⟨0, 1, 0, .startByte⟩)

/-- The text that the bytes encode, with U+FFFD in the place of each fault. -/
def replacing : Nat → List UInt8 → List Char
  | 0, _ => []
  | _, [] => []
  | fuel + 1, b :: rest =>
    match front b rest with
    | .fault length _ => '\ufffd' :: replacing fuel (rest.drop (length - 1))
    | .char c after => c :: replacing fuel after

/-- Decodes bytes of any kind. -/
def decodeLossy (bytes : List UInt8) : String := String.ofList (replacing bytes.length bytes)

/-- Reading text ends every line with a line feed, whichever of the line feed, the carriage
return or both in turn ended it. -/
def unifyNewlines : List Char → List Char
  | [] => []
  | '\r' :: '\n' :: rest => '\n' :: unifyNewlines rest
  | '\r' :: rest => '\n' :: unifyNewlines rest
  | c :: rest => c :: unifyNewlines rest

theorem decode_toUTF8 (s : String) : decode s.toUTF8 = .ok s := by
  have h : String.fromUTF8? s.toUTF8 = some s := by
    simp [String.fromUTF8?, String.toUTF8, String.fromUTF8, s.isValidUTF8]
  rw [decode, h]

theorem encode_ok {s : String} {bytes : ByteArray} (h : encode s = .ok bytes) :
    bytes = s.toUTF8 := by
  rw [encode] at h
  split at h
  · cases h
  · exact (Except.ok.inj h).symm

end ManifestPolicy.Text.Utf8
