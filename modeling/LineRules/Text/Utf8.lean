/-!
# UTF-8

Encoding and strict decoding of text. A decoding error says where the bytes went
wrong, how many of them are blamed, and why: a byte that starts no character, a byte
that should continue one and does not, or the end of the data inside a character.
-/

namespace LineRules.Text.Utf8

/-- Why bytes are not UTF-8. -/
inductive Reason where
  | invalidStart
  | invalidContinuation
  | unexpectedEnd
deriving Repr, DecidableEq

namespace Reason

/-- The wording of a reason. -/
def message : Reason → String
  | invalidStart => "invalid start byte"
  | invalidContinuation => "invalid continuation byte"
  | unexpectedEnd => "unexpected end of data"

end Reason

/-- The bytes of one character. -/
def encodeChar (c : Char) : List UInt8 :=
  let code := c.toNat
  if code < 0x80 then [UInt8.ofNat code]
  else if code < 0x800 then
    [UInt8.ofNat (0xC0 + code / 0x40), UInt8.ofNat (0x80 + code % 0x40)]
  else if code < 0x10000 then
    [UInt8.ofNat (0xE0 + code / 0x1000), UInt8.ofNat (0x80 + code / 0x40 % 0x40),
      UInt8.ofNat (0x80 + code % 0x40)]
  else
    [UInt8.ofNat (0xF0 + code / 0x40000), UInt8.ofNat (0x80 + code / 0x1000 % 0x40),
      UInt8.ofNat (0x80 + code / 0x40 % 0x40), UInt8.ofNat (0x80 + code % 0x40)]

/-- The bytes of a text. -/
def encode (text : List Char) : List UInt8 :=
  text.flatMap encodeChar

/-- One decoding step at the front of nonempty bytes. -/
inductive Step where
  /-- A character and the number of bytes that write it. -/
  | char (c : Char) (size : Nat)
  /-- A fault and the number of bytes it covers. -/
  | fault (reason : Reason) (size : Nat)
deriving Repr, DecidableEq

/-- A continuation byte. -/
def isContinuation (byte : Nat) : Bool :=
  0x80 ≤ byte && byte < 0xC0

/-- Whether the second byte after this lead would write an overlong form, a
surrogate, or a number past the last code point. -/
def badSecond (lead second : Nat) : Bool :=
  !isContinuation second || (lead == 0xE0 && second < 0xA0) || (lead == 0xED && 0xA0 ≤ second)
    || (lead == 0xF0 && second < 0x90) || (lead == 0xF4 && 0x90 ≤ second)

/-- Reads one character at the front of the bytes that begin with `lead`. -/
def decodeStep (lead : Nat) (rest : List Nat) : Step :=
  if lead < 0x80 then .char (Char.ofNat lead) 1
  else if lead < 0xC2 || 0xF5 ≤ lead then .fault .invalidStart 1
  else
    match rest with
    | [] => .fault .unexpectedEnd 1
    | second :: rest =>
      if badSecond lead second then .fault .invalidContinuation 1
      else if lead < 0xE0 then
        .char (Char.ofNat ((lead - 0xC0) * 0x40 + (second - 0x80))) 2
      else
        match rest with
        | [] => .fault .unexpectedEnd 2
        | third :: rest =>
          if !isContinuation third then .fault .invalidContinuation 2
          else if lead < 0xF0 then
            .char (Char.ofNat ((lead - 0xE0) * 0x1000 + (second - 0x80) * 0x40
              + (third - 0x80))) 3
          else
            match rest with
            | [] => .fault .unexpectedEnd 3
            | fourth :: _ =>
              if !isContinuation fourth then .fault .invalidContinuation 3
              else
                .char (Char.ofNat ((lead - 0xF0) * 0x40000 + (second - 0x80) * 0x1000
                  + (third - 0x80) * 0x40 + (fourth - 0x80))) 4

/-- Where and why decoding stopped; the fault covers bytes `start` up to, not
including, `stop`. `first` is the byte at `start`. -/
structure DecodeError where
  reason : Reason
  start : Nat
  stop : Nat
  first : Nat
deriving Repr, DecidableEq

/-- Decodes by steps; `skip` counts bytes of the current character still to pass. -/
def decodeFrom (position skip : Nat) : List Nat → Except DecodeError (List Char)
  | [] => .ok []
  | byte :: rest =>
    match skip with
    | skip + 1 => decodeFrom (position + 1) skip rest
    | 0 =>
      match decodeStep byte rest with
      | .char c size => (decodeFrom (position + 1) (size - 1) rest).map (c :: ·)
      | .fault reason size => .error ⟨reason, position, position + size, byte⟩

/-- The text that the bytes write, or the first fault. -/
def decode (bytes : List UInt8) : Except DecodeError (List Char) :=
  decodeFrom 0 0 (bytes.map UInt8.toNat)

/-- Decodes with each fault shown as one replacement character. -/
def decodeLossyFrom (skip : Nat) : List Nat → List Char
  | [] => []
  | byte :: rest =>
    match skip with
    | skip + 1 => decodeLossyFrom skip rest
    | 0 =>
      match decodeStep byte rest with
      | .char c size => c :: decodeLossyFrom (size - 1) rest
      | .fault _ size => Char.ofNat 0xFFFD :: decodeLossyFrom (size - 1) rest

/-- The text that the bytes write, each fault as one replacement character. -/
def decodeLossy (bytes : List UInt8) : List Char :=
  decodeLossyFrom 0 (bytes.map UInt8.toNat)

end LineRules.Text.Utf8
