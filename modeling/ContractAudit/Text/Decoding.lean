import ContractAudit.Text.Quoted

/-!
# Decoding bytes

Files are bytes; reports and settings are text.  {lit}`Encoding.decode` turns
one into the other or says at which bytes it stopped and why.

Main definitions:

- {lit}`decodeUtf8`: strict UTF-8, which refuses overlong forms and surrogates.
- {lit}`normalizeNewlines`: all line ends become one line feed.
-/

namespace ContractAudit
namespace Text

/-- Why a run of bytes is not a text. -/
inductive Malformed where
  | startByte
  | continuation
  | truncated
  | notAscii
  deriving DecidableEq, Repr

/-- The explanation of a malformed run. -/
def Malformed.reason : Malformed → String
  | startByte => "invalid start byte"
  | continuation => "invalid continuation byte"
  | truncated => "unexpected end of data"
  | notAscii => "ordinal not in range(128)"

/-- A failed decoding: the run of `length` bytes from `start`, whose first byte is `byte`. -/
structure DecodingError where
  codec : String
  byte : UInt8
  start : Nat
  length : Nat
  cause : Malformed
  deriving Repr

/-- The message of a failed decoding. -/
def DecodingError.message (e : DecodingError) : String :=
  let place :=
    if e.length == 1 then
      "byte 0x" ++ String.ofList (hexDigits 2 e.byte.toNat) ++ " in position "
        ++ Number.natText e.start
    else
      "bytes in position " ++ Number.natText e.start ++ "-"
        ++ Number.natText (e.start + e.length - 1)
  quoted e.codec ++ " codec can't decode " ++ place ++ ": " ++ e.cause.reason

/-- Whether a byte continues a multi-byte character. -/
def isContinuation (b : UInt8) : Bool :=
  0x80 ≤ b && b < 0xc0

/-- Whether a second byte is allowed after a first byte: no overlong form, no
surrogate, nothing beyond the last code point. -/
def allowedSecond (first second : UInt8) : Bool :=
  isContinuation second &&
    !(first == 0xe0 && second < 0xa0) && !(first == 0xed && 0xa0 ≤ second) &&
    !(first == 0xf0 && second < 0x90) && !(first == 0xf4 && 0x90 ≤ second)

/-- The low six bits of a continuation byte. -/
def payload (b : UInt8) : Nat :=
  b.toNat % 64

/-- Number of bytes of a character by its first byte, `0` for none. -/
def utf8Length (b : UInt8) : Nat :=
  if b < 0x80 then 1
  else if b < 0xc2 then 0
  else if b < 0xe0 then 2
  else if b < 0xf0 then 3
  else if b < 0xf5 then 4
  else 0

/-- The outcome of reading one character: it and the number of its bytes, or a
malformed run and its length. -/
inductive Utf8Step where
  | char (c : Char) (length : Nat)
  | bad (cause : Malformed) (length : Nat)

/-- Reads one character after its first byte. -/
def utf8Step (first : UInt8) (rest : List UInt8) : Utf8Step :=
  match utf8Length first, rest with
  | 1, _ => .char (Char.ofNat first.toNat) 1
  | 2, b :: _ =>
    if isContinuation b then .char (Char.ofNat (first.toNat % 32 * 64 + payload b)) 2
    else .bad .continuation 1
  | 2, [] => .bad .truncated 1
  | 3, b :: c :: _ =>
    if !allowedSecond first b then .bad .continuation 1
    else if !isContinuation c then .bad .continuation 2
    else .char (Char.ofNat (first.toNat % 16 * 4096 + payload b * 64 + payload c)) 3
  | 3, [b] => if allowedSecond first b then .bad .truncated 2 else .bad .continuation 1
  | 3, [] => .bad .truncated 1
  | 4, b :: c :: d :: _ =>
    if !allowedSecond first b then .bad .continuation 1
    else if !isContinuation c then .bad .continuation 2
    else if !isContinuation d then .bad .continuation 3
    else .char
      (Char.ofNat (first.toNat % 8 * 262144 + payload b * 4096 + payload c * 64 + payload d)) 4
  | 4, [b, c] =>
    if !allowedSecond first b then .bad .continuation 1
    else if !isContinuation c then .bad .continuation 2
    else .bad .truncated 3
  | 4, [b] => if allowedSecond first b then .bad .truncated 2 else .bad .continuation 1
  | 4, [] => .bad .truncated 1
  | _, _ => .bad .startByte 1

/-- Decodes the bytes from position `pos` on; `skip` bytes belong to the last character. -/
def utf8Loop (codec : String) :
    (skip pos : Nat) → List UInt8 → List Char → Except DecodingError (List Char)
  | _, _, [], acc => .ok acc.reverse
  | skip + 1, pos, _ :: rest, acc => utf8Loop codec skip (pos + 1) rest acc
  | 0, pos, b :: rest, acc =>
    match utf8Step b rest with
    | .char c n => utf8Loop codec (n - 1) (pos + 1) rest (c :: acc)
    | .bad cause n => .error ⟨codec, b, pos, n, cause⟩

/-- Strict UTF-8. -/
def decodeUtf8 (bytes : List UInt8) : Except DecodingError (List Char) :=
  utf8Loop "utf-8" 0 0 bytes []

/-- Decodes seven-bit bytes from position `pos` on. -/
def asciiLoop : Nat → List UInt8 → List Char → Except DecodingError (List Char)
  | _, [], acc => .ok acc.reverse
  | pos, b :: rest, acc =>
    if b < 0x80 then asciiLoop (pos + 1) rest (Char.ofNat b.toNat :: acc)
    else .error ⟨"ascii", b, pos, 1, .notAscii⟩

/-- The encodings of source files. -/
inductive Encoding where
  | utf8
  | latin1
  | ascii
  deriving DecidableEq, Repr

/-- The encoding of a name; case, hyphens, underscores and spaces do not matter. -/
def Encoding.ofName? (name : String) : Option Encoding :=
  let plain := (name.toList.filter fun c => c != '-' && c != '_' && c != ' ').map Char.toLower
  if plain ∈ ["utf8", "u8", "utf", "cp65001"].map String.toList then some .utf8
  else if plain ∈ ["latin1", "latin", "l1", "iso88591", "88591", "cp819", "ibm819"].map String.toList
    then some .latin1
  else if plain ∈ ["ascii", "usascii", "646", "cp367", "ibm367"].map String.toList then some .ascii
  else none

/-- Decodes bytes in an encoding. -/
def Encoding.decode : Encoding → List UInt8 → Except DecodingError (List Char)
  | utf8, bytes => decodeUtf8 bytes
  | latin1, bytes => .ok (bytes.map fun b => Char.ofNat b.toNat)
  | ascii, bytes => asciiLoop 0 bytes []

/-- Carriage returns, alone or before a line feed, become line feeds. -/
def normalizeNewlines : List Char → List Char
  | [] => []
  | '\r' :: '\n' :: rest => '\n' :: normalizeNewlines rest
  | '\r' :: rest => '\n' :: normalizeNewlines rest
  | c :: rest => c :: normalizeNewlines rest

end Text
end ContractAudit
