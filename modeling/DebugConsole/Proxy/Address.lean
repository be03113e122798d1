import DebugConsole.Text.Blank
import DebugConsole.Text.Numeral

/-!
# Socket addresses

Addresses of sockets as text: four numbers with dots between them, or up to eight
groups of hexadecimal digits with colons between them in brackets, and a port. Two
colons stand for all the groups that are left out. A bare port is one on this computer.
-/

namespace DebugConsole

/-- The address of a socket. -/
inductive Address where
  | v4 (host : List Nat) (port : Nat)
  | v6 (host : List Nat) (scope port : Nat)
  deriving DecidableEq, Repr

namespace Address

/-- The address of a port on this computer. -/
def ofPort (port : Nat) : Address := .v4 [127, 0, 0, 1] port

/-- A step of reading: what was read and what follows. -/
abbrev Step (Value : Type) := List Char → Option (Value × List Char)

/-- Reads one given character. -/
def character (wanted : Char) : Step Unit
  | [] => none
  | found :: rest => if found = wanted then some ((), rest) else none

/-- The value of a hexadecimal digit. -/
def hexDigit? (digit : Char) : Option Nat :=
  if 'a' ≤ digit && digit ≤ 'f' then some (digit.toNat - 'a'.toNat + 10)
  else if 'A' ≤ digit && digit ≤ 'F' then some (digit.toNat - 'A'.toNat + 10)
  else Numeral.digit? digit

/-- Reads all digits that follow, of which there must be one. -/
def digits (digit? : Char → Option Nat) : Step (List Nat) := fun text =>
  let found := (text.takeWhile fun character => (digit? character).isSome).filterMap digit?
  if found.isEmpty then none else some (found, text.drop found.length)

/-- The number that digits stand for, if it is at most `largest`. -/
def number (base largest : Nat) (digits : List Nat) : Option Nat :=
  let value := digits.foldl (fun value digit => value * base + digit) 0
  if value ≤ largest then some value else none

/-- Reads a decimal number. -/
def decimal (largest : Nat) : Step Nat := fun text => do
  let (digits, rest) ← digits Numeral.digit? text
  return (← number 10 largest digits, rest)

/-- Reads one of the four numbers: up to three digits without needless zeros. -/
def octet : Step Nat := fun text => do
  let (digits, rest) ← digits Numeral.digit? text
  if digits.length > 3 || (digits.length > 1 && digits.head? == some 0) then none
  return (← number 10 255 digits, rest)

/-- Reads a group of up to four hexadecimal digits. -/
def group : Step Nat := fun text => do
  let (digits, rest) ← digits hexDigit? text
  if digits.length > 4 then none
  return (← number 16 65535 digits, rest)

/-- Reads something with a separator in front, unless it is the first of its kind. -/
def separated {Value : Type} (separator : Char) (isFirst : Bool) (step : Step Value) : Step Value :=
  fun text =>
    if isFirst then step text
    else do
      let ((), rest) ← character separator text
      step rest

/-- Reads four numbers with dots between them. -/
def quad : Step (List Nat) := fun text => do
  let (first, rest) ← octet text
  let (second, rest) ← separated '.' false octet rest
  let (third, rest) ← separated '.' false octet rest
  let (fourth, rest) ← separated '.' false octet rest
  return ([first, second, third, fourth], rest)

/-- Reads up to `room` groups with colons between them. The last two may be written as
four numbers; the flag tells whether they are. -/
def groups (isFirst : Bool) : (room : Nat) → List Char → List Nat × Bool × List Char
  | 0, text => ([], false, text)
  | room + 1, text =>
    let embedded := if room = 0 then none else separated ':' isFirst quad text
    match embedded with
    | some (numbers, rest) =>
      let pairs :=
        match numbers with
        | [first, second, third, fourth] => [first * 256 + second, third * 256 + fourth]
        | _ => []
      (pairs, true, rest)
    | none =>
      match separated ':' isFirst group text with
      | none => ([], false, text)
      | some (value, rest) =>
        let (later, embedded, rest) := groups false room rest
        (value :: later, embedded, rest)

/-- Reads eight groups, of which some in a row may be left out. -/
def eightGroups : Step (List Nat) := fun text => do
  let (front, embedded, rest) := groups true 8 text
  if front.length = 8 then return (front, rest)
  if embedded then none
  let ((), rest) ← character ':' rest
  let ((), rest) ← character ':' rest
  let (back, _, rest) := groups true (7 - front.length) rest
  return (front ++ List.replicate (8 - front.length - back.length) 0 ++ back, rest)

/-- Reads a port behind a colon. -/
def port : Step Nat := separated ':' false (decimal 65535)

/-- Reads a whole address of the first form. -/
def v4? (text : List Char) : Option Address := do
  let (host, rest) ← quad text
  let (port, rest) ← port rest
  if rest.isEmpty then some (.v4 host port) else none

/-- Reads a whole address of the second form; the number of a link may stand behind
the groups. -/
def v6? (text : List Char) : Option Address := do
  let ((), rest) ← character '[' text
  let (host, rest) ← eightGroups rest
  let (scope, rest) := (separated '%' false (decimal Numeral.largest32) rest).getD (0, rest)
  let ((), rest) ← character ']' rest
  let (port, rest) ← port rest
  if rest.isEmpty then some (.v6 host scope port) else none

/-- The address that a text stands for. -/
def ofText? (text : List Char) : Option Address :=
  match Numeral.read 65535 text with
  | .ok port => some (ofPort port)
  | .error _ => v4? text <|> v6? text

end Address

end DebugConsole
