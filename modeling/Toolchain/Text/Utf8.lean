/-!
# Reading bytes as text

What a program prints and what a file holds are bytes. `Utf8.read?` accepts exactly
well-formed UTF-8; `Utf8.readLossy` accepts everything and writes one replacement
character for each longest ill-formed run that could have begun a character.

## Model

The reader is a machine that takes one byte at a time:

  * **State**: between characters (`none`), or inside one (`some p`), where `p` says how
    many bytes are owed, which code the bytes so far give, and which range the next byte
    has to be in. The ranges after `E0`, `ED`, `F0` and `F4` rule out long forms,
    surrogates and codes above `10FFFF`.
  * **Step** `accept`: a byte fits or it does not.
-/

namespace Toolchain.Utf8

/-! ## The machine -/

/-- A character that has begun: bytes still owed, the code so far, and the range of the
next byte. -/
structure Pending where
  owed : Nat
  code : Nat
  low : Nat
  high : Nat
  deriving DecidableEq, Repr

/-- The machine between characters reads the first byte of one. -/
def begin? (b : Nat) : Option (Option Char × Option Pending) :=
  if b < 0x80 then some (some (Char.ofNat b), none)
  else if 0xC2 ≤ b ∧ b ≤ 0xDF then some (none, some ⟨1, b - 0xC0, 0x80, 0xBF⟩)
  else if b = 0xE0 then some (none, some ⟨2, 0, 0xA0, 0xBF⟩)
  else if b = 0xED then some (none, some ⟨2, 0xD, 0x80, 0x9F⟩)
  else if 0xE1 ≤ b ∧ b ≤ 0xEF then some (none, some ⟨2, b - 0xE0, 0x80, 0xBF⟩)
  else if b = 0xF0 then some (none, some ⟨3, 0, 0x90, 0xBF⟩)
  else if 0xF1 ≤ b ∧ b ≤ 0xF3 then some (none, some ⟨3, b - 0xF0, 0x80, 0xBF⟩)
  else if b = 0xF4 then some (none, some ⟨3, 4, 0x80, 0x8F⟩)
  else none

/-- One byte: the character that it completes, if any, and the state after it. `none` where
the byte cannot stand here. -/
def accept (state : Option Pending) (b : Nat) : Option (Option Char × Option Pending) :=
  match state with
  | none => begin? b
  | some p =>
    if p.low ≤ b ∧ b ≤ p.high then
      let code := p.code * 64 + (b - 0x80)
      if p.owed ≤ 1 then some (some (Char.ofNat code), none)
      else some (none, some ⟨p.owed - 1, code, 0x80, 0xBF⟩)
    else none

/-! ## The two readers -/

/-- The characters read so far, the last one first, and the state. -/
structure Progress where
  done : List Char := []
  state : Option Pending := none

/-- The character that stands for bytes that are no character. -/
def replacement : Char := '\uFFFD'

/-- Notes what a fitting byte gave. -/
def Progress.advance (p : Progress) (c? : Option Char) (state : Option Pending) : Progress :=
  match c? with
  | some c => ⟨c :: p.done, state⟩
  | none => ⟨p.done, state⟩

/-- Reads a byte and replaces what does not fit. A byte that breaks off a character is read
again as the beginning of the next one. -/
def Progress.feedLossy (p : Progress) (b : UInt8) : Progress :=
  match accept p.state b.toNat with
  | some (c?, state) => p.advance c? state
  | none =>
    let broken : Progress := ⟨replacement :: p.done, none⟩
    match p.state with
    | none => broken
    | some _ =>
      match begin? b.toNat with
      | some (c?, state) => broken.advance c? state
      | none => ⟨replacement :: broken.done, none⟩

/-- The text at the end of the bytes: a character that was begun is replaced. -/
def Progress.finish (p : Progress) : List Char :=
  match p.state with
  | none => p.done.reverse
  | some _ => (replacement :: p.done).reverse

/-- Any bytes as text. -/
def readLossy (bs : List UInt8) : String :=
  String.ofList (bs.foldl Progress.feedLossy {}).finish

/-- Reads a byte, or gives up. -/
def Progress.feed? (p? : Option Progress) (b : UInt8) : Option Progress :=
  match p? with
  | none => none
  | some p => (accept p.state b.toNat).map fun (c?, state) => p.advance c? state

/-- Well-formed bytes as text. -/
def read? (bs : List UInt8) : Option String :=
  match bs.foldl Progress.feed? (some {}) with
  | some ⟨done, none⟩ => some (String.ofList done.reverse)
  | _ => none

/-- The bytes of a text. -/
def write (s : String) : List UInt8 := s.toUTF8.toList

example : readLossy [0x61, 0xFF, 0x62, 0xC3, 0xA9, 0xC3] = "a\uFFFDbé\uFFFD" := by decide
example : readLossy [0xE2, 0x82, 0x41, 0xF0, 0x9F, 0x98, 0x80] = "\uFFFDA😀" := by decide
example : read? [0xED, 0xA0, 0x80] = none := by decide
example : read? [0x68, 0x69] = some "hi" := by decide

end Toolchain.Utf8
