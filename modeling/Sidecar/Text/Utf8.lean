/-
# UTF-8

Bytes are read as a sequence of pieces: a character, a run of bytes that no
character can start or continue, or a character cut off by the end of the
input. Strict decoding stops at the first piece that is not a character and
says where it stands; lossy decoding writes U+FFFD for each such piece.

Key definitions:
* `Utf8.encode`, the bytes of a text;
* `Utf8.foldl`, the pieces of a byte sequence from left to right;
* `Utf8.decode`, strict, with the place and the length of the first fault;
* `Utf8.lossy`, with U+FFFD for what is no text.
-/
namespace Sidecar.Utf8

/-- The bytes of one character. -/
def encodeChar (c : Char) : List UInt8 := String.utf8EncodeChar c

/-- The bytes of a text. -/
def encode (cs : List Char) : List UInt8 := cs.flatMap encodeChar

/-- The bytes of a string. -/
def ofString (s : String) : List UInt8 := encode s.toList

/-- What stands next in a byte sequence. -/
inductive Piece where
  /-- A character of `width` bytes. -/
  | char (c : Char) (width : Nat)
  /-- `length` bytes that begin no character. -/
  | broken (length : Nat)
  /-- The input ends inside a character. -/
  | cut
  deriving DecidableEq, Repr

/-- A byte that continues a character. -/
def isTail (b : UInt8) : Bool := 0x80 ≤ b && b ≤ 0xBF

/-- The second bytes that may follow a given first byte. -/
def isSecond (lead b : UInt8) : Bool :=
  if lead == 0xE0 then 0xA0 ≤ b && b ≤ 0xBF
  else if lead == 0xED then 0x80 ≤ b && b ≤ 0x9F
  else if lead == 0xF0 then 0x90 ≤ b && b ≤ 0xBF
  else if lead == 0xF4 then 0x80 ≤ b && b ≤ 0x8F
  else isTail b

/-- How many bytes the character with this first byte has; zero for a byte that starts none. -/
def width (lead : UInt8) : Nat :=
  if lead < 0x80 then 1
  else if lead < 0xC2 then 0
  else if lead < 0xE0 then 2
  else if lead < 0xF0 then 3
  else if lead < 0xF5 then 4
  else 0

/-- The six bits a continuing byte carries. -/
def payload (b : UInt8) : Nat := b.toNat % 64

/-- Folds over the pieces of a byte sequence. -/
def foldl {σ : Type} (f : σ → Piece → σ) : σ → List UInt8 → σ
  | s, [] => s
  | s, a :: r =>
    match width a with
    | 1 => foldl f (f s (.char (Char.ofNat a.toNat) 1)) r
    | 2 =>
      match r with
      | [] => f s .cut
      | b :: r1 =>
        if isSecond a b then
          foldl f (f s (.char (Char.ofNat (a.toNat % 32 * 64 + payload b)) 2)) r1
        else foldl f (f s (.broken 1)) (b :: r1)
    | 3 =>
      match r with
      | [] => f s .cut
      | b :: r1 =>
        if isSecond a b then
          match r1 with
          | [] => f s .cut
          | c :: r2 =>
            if isTail c then
              foldl f (f s (.char
                (Char.ofNat (a.toNat % 16 * 4096 + payload b * 64 + payload c)) 3)) r2
            else foldl f (f s (.broken 2)) (c :: r2)
        else foldl f (f s (.broken 1)) (b :: r1)
    | 4 =>
      match r with
      | [] => f s .cut
      | b :: r1 =>
        if isSecond a b then
          match r1 with
          | [] => f s .cut
          | c :: r2 =>
            if isTail c then
              match r2 with
              | [] => f s .cut
              | d :: r3 =>
                if isTail d then
                  foldl f (f s (.char (Char.ofNat
                    (a.toNat % 8 * 262144 + payload b * 4096 + payload c * 64 + payload d)) 4)) r3
                else foldl f (f s (.broken 3)) (d :: r3)
            else foldl f (f s (.broken 2)) (c :: r2)
        else foldl f (f s (.broken 1)) (b :: r1)
    | _ => foldl f (f s (.broken 1)) r

/-- Why bytes are no text: the good text in front has `validUpTo` bytes, and then `length`
bytes are to blame, or the input just ends too early. -/
structure Fault where
  validUpTo : Nat
  length : Option Nat
  deriving DecidableEq, Repr

/-- The text of a fault. -/
def Fault.message (e : Fault) : String :=
  match e.length with
  | some n => s!"invalid utf-8 sequence of {n} bytes from index {e.validUpTo}"
  | none => s!"incomplete utf-8 byte sequence from index {e.validUpTo}"

/-- A strict decoder in the middle of its work: the characters so far, last first, how many
bytes they had, and the first fault. -/
structure Progress where
  chars : List Char := []
  bytes : Nat := 0
  fault : Option Fault := none

def Progress.add (p : Progress) (x : Piece) : Progress :=
  match p.fault with
  | some _ => p
  | none =>
    match x with
    | .char c w => { p with chars := c :: p.chars, bytes := p.bytes + w }
    | .broken n => { p with fault := some ⟨p.bytes, some n⟩ }
    | .cut => { p with fault := some ⟨p.bytes, none⟩ }

/-- The text that the bytes encode, or the first fault in them. -/
def decode (bs : List UInt8) : Except Fault (List Char) :=
  let p := foldl Progress.add {} bs
  match p.fault with
  | some e => .error e
  | none => .ok p.chars.reverse

/-- The text that the bytes encode, if they encode one. -/
def decode? (bs : List UInt8) : Option (List Char) := (decode bs).toOption

/-- The text of the bytes with U+FFFD in place of each piece that is no character. -/
def lossy (bs : List UInt8) : List Char :=
  (foldl (fun acc x => (match x with | .char c _ => c | _ => '�') :: acc) [] bs).reverse

/-- The string that the bytes encode, if they encode one. -/
def toString? (bs : List UInt8) : Option String := (decode? bs).map String.ofList

end Sidecar.Utf8
