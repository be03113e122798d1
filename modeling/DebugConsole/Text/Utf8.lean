/-!
# UTF-8 text

Bytes become text in two ways. `Utf8.text?` accepts well-formed UTF-8 only, and
`Utf8.lossy` replaces every maximal ill-formed sequence by one replacement
character. Both read through `Utf8.next`, which decides one character at a time.

`Utf8.heldBack` says how many bytes at the end of a byte stream may still become
a character once more bytes arrive; a reader keeps exactly those for later.
-/

namespace DebugConsole.Utf8

/-- What stands in a text for bytes that are no character. -/
def replacement : Char := '\uFFFD'

/-- A byte that can only stand inside a multi-byte character. -/
def isContinuation (byte : UInt8) : Bool := byte &&& 0xC0 == 0x80

/-- What the first byte of a multi-byte character promises: how many bytes
follow, its own share of the code point, and the range left for the second byte
once overlong forms, surrogates and code points past U+10FFFF are excluded. -/
structure Lead where
  following : Nat
  share : Nat
  secondLow : UInt8
  secondHigh : UInt8

/-- The promise of a first byte, if it can start a multi-byte character. -/
def lead? (byte : UInt8) : Option Lead :=
  if byte < 0xC2 then none
  else if byte < 0xE0 then some ⟨1, byte.toNat - 0xC0, 0x80, 0xBF⟩
  else if byte < 0xF0 then
    some ⟨2, byte.toNat - 0xE0, if byte == 0xE0 then 0xA0 else 0x80,
      if byte == 0xED then 0x9F else 0xBF⟩
  else if byte < 0xF5 then
    some ⟨3, byte.toNat - 0xF0, if byte == 0xF0 then 0x90 else 0x80,
      if byte == 0xF4 then 0x8F else 0xBF⟩
  else none

/-- One more continuation byte appended to the bits read so far. -/
def extend (bits : Nat) (byte : UInt8) : Nat := bits * 64 + (byte.toNat - 0x80)

/-- The plain continuation bytes that end a character: `remaining` of them are
due. The result is the character, or `none` with the ill-formed bytes skipped. -/
def finish (bits : Nat) : Nat → List UInt8 → Option Char × List UInt8
  | 0, bytes => (some (Char.ofNat bits), bytes)
  | _ + 1, [] => (none, [])
  | remaining + 1, byte :: rest =>
    if isContinuation byte then finish (extend bits byte) remaining rest
    else (none, byte :: rest)

/-- The character that starts with byte `first`, or `none` for one maximal
ill-formed sequence, together with the bytes after it. -/
def next (first : UInt8) (rest : List UInt8) : Option Char × List UInt8 :=
  if first < 0x80 then (some (Char.ofNat first.toNat), rest)
  else
    match lead? first, rest with
    | none, _ => (none, rest)
    | some _, [] => (none, [])
    | some lead, second :: later =>
      if lead.secondLow ≤ second && second ≤ lead.secondHigh then
        finish (extend lead.share second) (lead.following - 1) later
      else (none, rest)

theorem finish_length (bits remaining : Nat) (bytes : List UInt8) :
    (finish bits remaining bytes).2.length ≤ bytes.length := by
  induction remaining generalizing bits bytes with
  | zero => simp [finish]
  | succ remaining inductionHypothesis =>
    cases bytes with
    | nil => simp [finish]
    | cons byte rest =>
      simp only [finish]
      split
      · exact Nat.le_succ_of_le (inductionHypothesis _ rest)
      · simp

/-- Reading a character never returns more bytes than it was given. -/
theorem next_length (first : UInt8) (rest : List UInt8) :
    (next first rest).2.length ≤ rest.length := by
  unfold next
  split
  · simp
  · split
    · simp
    · simp
    · split
      · exact Nat.le_succ_of_le (finish_length _ _ _)
      · simp

/-- Decodes the rest of a text whose earlier characters are given last first. -/
def lossyOnto (earlier : List Char) : List UInt8 → List Char
  | [] => earlier.reverse
  | first :: rest =>
    lossyOnto ((next first rest).1.getD replacement :: earlier) (next first rest).2
termination_by bytes => bytes.length
decreasing_by exact Nat.lt_succ_of_le (next_length first rest)

/-- Text of arbitrary bytes: each maximal ill-formed sequence becomes one
replacement character. -/
def lossy (bytes : List UInt8) : List Char := lossyOnto [] bytes

/-- Reads the rest of a well-formed text whose earlier characters are given last
first. -/
def textOnto? (earlier : List Char) : List UInt8 → Option (List Char)
  | [] => some earlier.reverse
  | first :: rest =>
    match (next first rest).1 with
    | none => none
    | some character => textOnto? (character :: earlier) (next first rest).2
termination_by bytes => bytes.length
decreasing_by exact Nat.lt_succ_of_le (next_length first rest)

/-- The text of well-formed bytes, and nothing for any others. -/
def text? (bytes : List UInt8) : Option (List Char) := textOnto? [] bytes

/-- The bytes of a text. -/
def encode (text : List Char) : List UInt8 := text.flatMap String.utf8EncodeChar

/-- How many bytes a text takes. -/
def byteLength (text : List Char) : Nat :=
  text.foldl (fun total character => total + character.utf8Size) 0

/-- The width that a first byte announces, judged by its leading bits alone. -/
def announcedWidth (byte : UInt8) : Nat :=
  if byte &&& 0xE0 == 0xC0 then 2
  else if byte &&& 0xF0 == 0xE0 then 3
  else if byte &&& 0xF8 == 0xF0 then 4
  else 1

/-- Looks from the end of a stream towards its start, at most three bytes far,
for a first byte whose character is still incomplete. `reversed` holds the bytes
not looked at yet, last first, and `back` the distance from the end of the
foremost of them. -/
def heldBackFrom : (reversed : List UInt8) → (back : Nat) → Nat
  | [], _ => 0
  | byte :: earlier, back =>
    if isContinuation byte then heldBackFrom earlier (back + 1)
    else if back < announcedWidth byte then back
    else 0

/-- How many bytes at the end may belong to a character that is not complete. -/
def heldBack (bytes : List UInt8) : Nat := heldBackFrom (bytes.reverse.take 3) 1

end DebugConsole.Utf8
