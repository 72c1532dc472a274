/-! Decoding UTF-8. Decoding stops at the first malformed sequence and reports where the
valid prefix ends and how many bytes the bad sequence spans, or that the input ended
inside a sequence. A sequence is malformed at its first byte that cannot continue it:
overlong forms, surrogates and code points past U+10FFFF are refused by the bounds on the
second byte. -/
namespace RepoSearch.Text

/-- Where and how UTF-8 decoding failed. -/
structure Utf8Error where
  /-- Length of the valid prefix, in bytes. -/
  validUpTo : Nat
  /-- Length of the malformed sequence; none when the input ends inside a sequence. -/
  errorLen : Option Nat
  deriving Repr, DecidableEq

def Utf8Error.message (e : Utf8Error) : String :=
  match e.errorLen with
  | some n => "invalid utf-8 sequence of " ++ toString n ++ " bytes from index " ++ toString e.validUpTo
  | none => "incomplete utf-8 byte sequence from index " ++ toString e.validUpTo

def isContinuation (b : UInt8) : Bool := 0x80 ≤ b && b ≤ 0xBF

/-- The bounds the second byte of a sequence must keep, by its first byte. -/
def secondByteRange (first : UInt8) : UInt8 × UInt8 :=
  if first == 0xE0 then (0xA0, 0xBF)
  else if first == 0xED then (0x80, 0x9F)
  else if first == 0xF0 then (0x90, 0xBF)
  else if first == 0xF4 then (0x80, 0x8F)
  else (0x80, 0xBF)

/-- The length of the sequence a first byte starts; zero when it cannot start one. -/
def sequenceWidth (b : UInt8) : Nat :=
  if b ≤ 0x7F then 1
  else if b < 0xC2 then 0
  else if b ≤ 0xDF then 2
  else if b ≤ 0xEF then 3
  else if b ≤ 0xF4 then 4
  else 0

def sequenceCode : List UInt8 → Nat
  | [a] => a.toNat
  | [a, b] => (a.toNat % 32) * 64 + b.toNat % 64
  | [a, b, c] => ((a.toNat % 16) * 64 + b.toNat % 64) * 64 + c.toNat % 64
  | [a, b, c, d] => (((a.toNat % 8) * 64 + b.toNat % 64) * 64 + c.toNat % 64) * 64 + d.toNat % 64
  | _ => 0

/-- Check one sequence at the head of the bytes: its length, or how it fails (the length of
the bad part, none when the bytes end first). -/
def checkSequence (bytes : List UInt8) : Except (Option Nat) Nat :=
  match bytes with
  | [] => .error none
  | first :: rest =>
    let w := sequenceWidth first
    if w == 1 then .ok 1
    else if w == 0 then .error (some 1)
    else
      match rest with
      | [] => .error none
      | second :: more =>
        let (lo, hi) := secondByteRange first
        if !(lo ≤ second && second ≤ hi) then .error (some 1)
        else if w == 2 then .ok 2
        else
          match more with
          | [] => .error none
          | third :: more' =>
            if !isContinuation third then .error (some 2)
            else if w == 3 then .ok 3
            else
              match more' with
              | [] => .error none
              | fourth :: _ => if isContinuation fourth then .ok 4 else .error (some 3)

/-- Decode bytes starting at byte `offset`, with fuel. -/
def decodeFrom (acc : List Char) (offset : Nat) : List UInt8 → Nat → Except Utf8Error (List Char)
  | [], _ => .ok acc.reverse
  | _, 0 => .ok acc.reverse
  | bytes@(_ :: _), fuel + 1 =>
    match checkSequence bytes with
    | .error len => .error ⟨offset, len⟩
    | .ok w => decodeFrom (Char.ofNat (sequenceCode (bytes.take w)) :: acc) (offset + w) (bytes.drop w) fuel

def decodeUtf8 (bytes : List UInt8) : Except Utf8Error String :=
  (decodeFrom [] 0 bytes bytes.length).map String.ofList

end RepoSearch.Text
