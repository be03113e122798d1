import DebugConsole.Pattern.Basic

/-!
# Reading patterns

The spelling of patterns. A text that is no pattern is refused as a whole, and so
is one that asks for what cannot be found by going through the text once:
conditions on the text around a place beyond its two neighbours, and references
back to a group.

The reading functions pass a `ReadState` along. Each of them that calls another one
takes some `fuel`; a character costs at most four of it, so it outlasts the text.
-/

namespace DebugConsole.Pattern

/-- The switches that change how the rest of a group is read. -/
structure Flags where
  anyCase : Bool
  manyLines : Bool
  dotAll : Bool
  swapGreed : Bool
  spaced : Bool
  returnLines : Bool
  unicode : Bool
  deriving DecidableEq, Repr

namespace Flags

/-- The switches at the start of a pattern. -/
def standard : Flags := ⟨false, false, false, false, false, false, true⟩

/-- The letters that name the switches. -/
def letters : List Char := ['i', 'm', 's', 'U', 'x', 'R', 'u']

/-- Turns the switch with a given letter. -/
def turn (flags : Flags) (on : Bool) : Char → Flags
  | 'i' => { flags with anyCase := on }
  | 'm' => { flags with manyLines := on }
  | 's' => { flags with dotAll := on }
  | 'U' => { flags with swapGreed := on }
  | 'x' => { flags with spaced := on }
  | 'R' => { flags with returnLines := on }
  | 'u' => { flags with unicode := on }
  | _ => flags

end Flags

/-- What is left to read, the switches in force, and the groups seen so far. -/
structure ReadState where
  rest : List Char
  flags : Flags
  groups : Nat
  names : List (String × Nat)

/-- A reading step; it fails where the text is no pattern. -/
abbrev Reading := StateT ReadState Option

namespace Reading

/-- The next character, left where it is. -/
def peek : Reading (Option Char) := do return (← get).rest.head?

/-- The character after the next one. -/
def peekSecond : Reading (Option Char) := do return (← get).rest.tail.head?

/-- Passes over a number of characters. -/
def skip (count : Nat) : Reading Unit :=
  modify fun state => { state with rest := state.rest.drop count }

/-- The next character, passed over. -/
def take : Reading Char := do
  match (← get).rest with
  | [] => failure
  | character :: rest =>
    modify fun state => { state with rest := rest }
    return character

/-- Passes over a given text if it comes next. -/
def accept (text : String) : Reading Bool := do
  if text.toList.isPrefixOf (← get).rest then
    skip text.length
    return true
  else return false

/-- Drops white space and comments from the front of a text. A comment runs from
`#` to the end of its line. -/
def withoutSpace : (inComment : Bool) → List Char → List Char
  | _, [] => []
  | true, character :: rest => withoutSpace (character != '\n') rest
  | false, character :: rest =>
    if character == '#' then withoutSpace true rest
    else if Text.isBlank character then withoutSpace false rest
    else character :: rest

/-- Passes over insignificant white space, where the switch for it is on. -/
def skipSpace : Reading Unit := do
  if (← get).flags.spaced then
    modify fun state => { state with rest := withoutSpace false state.rest }

/-- A decimal number, possibly with white space around it. -/
def number : Reading Nat := do
  let text := (← get).rest.dropWhile Text.isBlank
  let digits := text.takeWhile Char.isDigit
  if digits.isEmpty then failure
  modify fun state =>
    { state with rest := (text.drop digits.length).dropWhile Text.isBlank }
  let value := digits.foldl (fun value digit => value * 10 + (digit.toNat - '0'.toNat)) 0
  if value < 4294967296 then return value else failure

end Reading

/-- The value of a hexadecimal digit. -/
def hexDigit? (character : Char) : Option Nat :=
  if '0' ≤ character && character ≤ '9' then some (character.toNat - '0'.toNat)
  else if 'a' ≤ character && character ≤ 'f' then some (character.toNat - 'a'.toNat + 10)
  else if 'A' ≤ character && character ≤ 'F' then some (character.toNat - 'A'.toNat + 10)
  else none

/-- The character with a code point written in hexadecimal digits. -/
def ofHex? (digits : List Char) : Option Char := do
  if digits.isEmpty then none
  let code ← digits.foldlM (fun value digit => (hexDigit? digit).map (value * 16 + ·)) 0
  if code < 0xD800 || (0xDFFF < code && code < 0x110000) then some (Char.ofNat code) else none

/-- ASCII letters, digits and the underscore. -/
def asciiWord : CharSet :=
  .union (.range 'a' 'z') (.union (.range 'A' 'Z') (.union (.range '0' '9') (.single '_')))

/-- ASCII white space. -/
def asciiBlank : CharSet := .union (.range '\t' '\r') (.single ' ')

/-- The classes of ASCII characters that have a name. -/
def asciiClass? (name : String) : Option CharSet :=
  match name with
  | "alnum" =>
    some (.union (.range '0' '9') (.union (.range 'A' 'Z') (.range 'a' 'z')))
  | "alpha" => some (.union (.range 'A' 'Z') (.range 'a' 'z'))
  | "ascii" => some (.range '\x00' '\x7f')
  | "blank" => some (.ofList ['\t', ' '])
  | "cntrl" => some (.union (.range '\x00' '\x1f') (.single '\x7f'))
  | "digit" => some (.range '0' '9')
  | "graph" => some (.range '!' '~')
  | "lower" => some (.range 'a' 'z')
  | "print" => some (.range ' ' '~')
  | "punct" =>
    some (.union (.range '!' '/')
      (.union (.range ':' '@') (.union (.range '[' '\x60') (.range '\x7b' '~'))))
  | "space" => some asciiBlank
  | "upper" => some (.range 'A' 'Z')
  | "word" => some asciiWord
  | "xdigit" =>
    some (.union (.range '0' '9') (.union (.range 'A' 'F') (.range 'a' 'f')))
  | _ => none

/-- What an escape stands for. -/
inductive Escape where
  | character (value : Char)
  | members (value : CharSet)
  | condition (value : Anchor)

/-- Whether a character may be escaped to stand for itself. -/
def isEscapable (character : Char) : Bool :=
  character.toNat < 128 && !character.isAlphanum && character != '<' && character != '>'

/-- A range of characters as written, widened by case where the switch is on. -/
def Flags.range (flags : Flags) (low high : Char) : CharSet :=
  if flags.anyCase then .anyCase (.range low high) else .range low high

/-- A class, its complement if `negated`. Without the Unicode switch the text
could be left inside a character, so complements are refused there. -/
def Flags.class? (flags : Flags) (negated : Bool) (unicode ascii : CharSet) : Option CharSet :=
  match flags.unicode, negated with
  | true, true => some (.complement unicode)
  | true, false => some unicode
  | false, true => none
  | false, false => some ascii

/-- The named classes of characters outside ASCII. -/
def property? (name : String) : Option CharSet :=
  match name with
  | "Nd" | "nd" | "Decimal_Number" | "decimal_number" | "digit" => some .digit
  | "White_Space" | "white_space" | "wspace" | "space" => some .blank
  | "Any" | "any" => some .all
  | "ASCII" | "ascii" => some (.range '\x00' '\x7f')
  | _ => none

namespace Reading

/-- A code point in hexadecimal: in braces, or with `width` digits. -/
def hexadecimal (width : Nat) : Reading Char := do
  if ← accept "\x7b" then
    let digits := (← get).rest.takeWhile (· != '\x7d')
    skip digits.length
    let _ ← take
    ofHex? digits
  else
    let digits := (← get).rest.take width
    if digits.length < width then failure
    skip width
    ofHex? digits

/-- The name of a property, in braces or of one letter. -/
def propertyName : Reading (Bool × String) := do
  if ← accept "\x7b" then
    let name := (← get).rest.takeWhile (· != '\x7d')
    skip name.length
    let _ ← take
    match name with
    | '^' :: name => return (true, String.ofList name)
    | name => return (false, String.ofList name)
  else
    return (false, String.ofList [← take])

/-- The kind of word border after the letter that announces one. -/
def wordBorder : Reading Border := do
  if ← accept "\x7bstart\x7d" then return .start
  if ← accept "\x7bend\x7d" then return .stop
  if ← accept "\x7bstart-half\x7d" then return .startHalf
  if ← accept "\x7bend-half\x7d" then return .stopHalf
  return .either

/-- What follows a backslash. -/
def escape : Reading Escape := do
  let flags := (← get).flags
  let letters := if flags.unicode then .word else asciiWord
  let character ← take
  match character with
  | 'd' => return .members (← flags.class? false .digit (.range '0' '9'))
  | 'D' => return .members (← flags.class? true .digit (.range '0' '9'))
  | 's' => return .members (← flags.class? false .blank asciiBlank)
  | 'S' => return .members (← flags.class? true .blank asciiBlank)
  | 'w' => return .members (← flags.class? false .word asciiWord)
  | 'W' => return .members (← flags.class? true .word asciiWord)
  | 'p' | 'P' =>
    let (caret, name) ← propertyName
    let known ← (property? name : Option CharSet)
    if !flags.unicode then failure
    return .members (if caret != (character == 'P') then .complement known else known)
  | 'x' => return .character (← hexadecimal 2)
  | 'u' => return .character (← hexadecimal 4)
  | 'U' => return .character (← hexadecimal 8)
  | 'a' => return .character '\x07'
  | 'f' => return .character '\x0c'
  | 't' => return .character '\t'
  | 'n' => return .character '\n'
  | 'r' => return .character '\r'
  | 'v' => return .character '\x0b'
  | 'A' => return .condition .textStart
  | 'z' => return .condition .textEnd
  | 'b' => return .condition (.border (← wordBorder) letters)
  | 'B' => return .condition (.border .neither letters)
  | '<' => return .condition (.border .start letters)
  | '>' => return .condition (.border .stop letters)
  | _ => if isEscapable character then return .character character else failure

/-- One item of a class: a character, or a class of its own. -/
def classItem : Reading (Char ⊕ CharSet) := do
  let character ← take
  if character != '\\' then return .inl character
  match ← escape with
  | .character value => return .inl value
  | .members value => return .inr value
  | .condition _ => failure

/-- An item of a class, or the range that it starts. -/
def classRange : Reading CharSet := do
  let flags := (← get).flags
  let low ← classItem
  skipSpace
  let ends ← do
    if (← peek) != some '-' then pure true
    else
      let after := ((← get).rest.drop 1)
      let after := if flags.spaced then withoutSpace false after else after
      pure (after.head? == some ']' || after.head? == some '-')
  if ends then
    match low with
    | .inl character => return flags.range character character
    | .inr members => return members
  else
    skip 1
    skipSpace
    match low, ← classItem with
    | .inl low, .inl high => if low ≤ high then return flags.range low high else failure
    | _, _ => failure

/-- A named ASCII class in its brackets, if one comes next. -/
def namedClass : Reading (Option CharSet) := do
  match (← get).rest with
  | '[' :: ':' :: text =>
    let negated := text.head? == some '^'
    let text := if negated then text.drop 1 else text
    let name := text.takeWhile (· != ':')
    match text.drop name.length, asciiClass? (String.ofList name) with
    | ':' :: ']' :: rest, some members =>
      modify fun state => { state with rest := rest }
      let flags := (← get).flags
      let members := if flags.anyCase then CharSet.anyCase members else members
      if negated then
        if flags.unicode then return some (.complement members) else failure
      else return some members
    | _, _ => return none
  | _ => return none

/-- The way in which two sets of a class are combined. -/
inductive Combination where
  | inter
  | diff
  | symmDiff

/-- Combines what stands on the left of an operator with what stands right of it. -/
def Combination.apply : Option (CharSet × Combination) → CharSet → CharSet
  | none, right => right
  | some (left, .inter), right => .inter left right
  | some (left, .diff), right => .diff left right
  | some (left, .symmDiff), right => .symmDiff left right

/-- The hyphens at the start of a class stand for themselves. -/
def leadingHyphens : (fuel : Nat) → CharSet → Reading CharSet
  | 0, members => return members
  | fuel + 1, members => do
    if (← peek) == some '-' then
      skip 1
      skipSpace
      leadingHyphens fuel (members.join (.single '-'))
    else return members

mutual

/-- A class, from behind its opening bracket on. -/
def bracketed : (fuel : Nat) → Reading CharSet
  | 0 => failure
  | fuel + 1 => do
    skipSpace
    let negated ← accept "^"
    skipSpace
    let hyphens ← leadingHyphens fuel .none
    let members ←
      if hyphens == .none && (← peek) == some ']' then
        skip 1
        skipSpace
        pure (CharSet.single ']')
      else pure hyphens
    let members ← classBody fuel none members
    if !negated then return members
    else if (← get).flags.unicode then return .complement members
    else failure

/-- The items of a class up to its closing bracket. `before` is what stands left
of the last operator, and `members` what has been read since. -/
def classBody :
    (fuel : Nat) → (before : Option (CharSet × Combination)) → CharSet → Reading CharSet
  | 0, _, _ => failure
  | fuel + 1, before, members => do
    skipSpace
    let operator (combination : Combination) : Reading CharSet := do
      skip 2
      classBody fuel (some (Combination.apply before members, combination)) .none
    match ← peek, ← peekSecond with
    | none, _ => failure
    | some ']', _ =>
      skip 1
      return Combination.apply before members
    | some '&', some '&' => operator .inter
    | some '-', some '-' => operator .diff
    | some '~', some '~' => operator .symmDiff
    | some '[', _ =>
      match ← namedClass with
      | some named => classBody fuel before (members.join named)
      | none =>
        skip 1
        let nested ← bracketed fuel
        classBody fuel before (members.join nested)
    | _, _ => classBody fuel before (members.join (← classRange))

end

/-- The switches named between a question mark and a colon or closing bracket. -/
def flagNames : (fuel : Nat) → (on : Bool) → (seen : List Char) → Flags → Reading Flags
  | 0, _, _, _ => failure
  | fuel + 1, on, seen, flags => do
    match ← peek with
    | some ':' | some ')' => if seen.head? == some '-' then failure else return flags
    | some '-' =>
      if !on then failure
      skip 1
      flagNames fuel false ('-' :: seen) flags
    | some letter =>
      if !Flags.letters.contains letter || seen.contains letter then failure
      skip 1
      flagNames fuel on (letter :: seen) (flags.turn on letter)
    | none => failure

/-- The name of a group, up to the closing angle bracket. -/
def groupName : Reading String := do
  let name := (← get).rest.takeWhile (· != '>')
  skip name.length
  let _ ← take
  let isStart (character : Char) : Bool :=
    character == '_' || (Text.isWord character && !Text.isDigit character)
  let isLater (character : Char) : Bool :=
    Text.isWord character || ['.', '[', ']'].contains character
  match name with
  | [] => failure
  | first :: later =>
    if isStart first && later.all isLater then return String.ofList name else failure

/-- A number for a new group, under a name if it has one. -/
def newGroup (name : Option String) : Reading Nat := do
  let state ← get
  let index := state.groups + 1
  match name with
  | none => set { state with groups := index }
  | some name =>
    if (state.names.lookup name).isSome then failure
    set { state with groups := index, names := state.names ++ [(name, index)] }
  return index

/-- The largest pattern that is accepted, in places. -/
def largestSize : Nat := 250000

/-- A node, unless it has grown too large. -/
def bounded (node : Node) : Reading Node :=
  if node.size ≤ largestSize then return node else failure

/-- How often a counted repetition asks for its body. -/
def counts : Reading (Nat × Option Nat) := do
  let least ← number
  let most ←
    if ← accept "," then
      if (← get).rest.dropWhile Text.isBlank |>.head? |>.any (· == '\x7d') then
        modify fun state => { state with rest := state.rest.dropWhile Text.isBlank }
        pure none
      else some <$> number
    else pure (some least)
  if !(← accept "\x7d") then failure
  if most.any (· < least) then failure
  return (least, most)

/-- A counted repetition spelled out by the simpler ones. -/
def repeated (greedy : Bool) (body : Node) (least : Nat) (most : Option Nat) : Reading Node := do
  let copies := least + (most.getD 0 - least)
  if largestSize < copies * (body.size + 1) then failure
  match most with
  | none =>
    if least = 0 then return body.zeroOrMore greedy
    else return .ofList (List.replicate (least - 1) body ++ [body.oneOrMore greedy])
  | some most =>
    let further := if least < most then [Node.atMost greedy body (most - least)] else []
    return .ofList (List.replicate least body ++ further)

/-- The repetition signs behind a node. -/
def repetitions : (fuel : Nat) → Node → Reading Node
  | 0, node => return node
  | fuel + 1, node => do
    skipSpace
    let greedy : Reading Bool := do
      let lazyMark ← accept "?"
      return lazyMark == (← get).flags.swapGreed
    match ← peek with
    | some '*' =>
      skip 1
      let node := node.zeroOrMore (← greedy)
      repetitions fuel node
    | some '+' =>
      skip 1
      let node := node.oneOrMore (← greedy)
      repetitions fuel node
    | some '?' =>
      skip 1
      let node := Node.optional (← greedy) node
      repetitions fuel node
    | some '\x7b' =>
      skip 1
      let (least, most) ← counts
      let node ← repeated (← greedy) node least most
      repetitions fuel node
    | _ => return node

mutual

/-- Alternatives up to the end of the group. -/
def alternatives : (fuel : Nat) → Reading Node
  | 0 => failure
  | fuel + 1 => do
    let left ← sequence fuel []
    if ← accept "|" then return .alt left (← alternatives fuel) else bounded left

/-- Parts in sequence up to the end of the alternative. -/
def sequence : (fuel : Nat) → (earlier : List Node) → Reading Node
  | 0, _ => failure
  | fuel + 1, earlier => do
    skipSpace
    match ← peek with
    | none | some '|' | some ')' => return .ofList earlier.reverse
    | some '*' | some '+' | some '?' | some '\x7b' => failure
    | some '(' =>
      skip 1
      match ← group fuel with
      | none => sequence fuel earlier
      | some node => sequence fuel ((← repetitions fuel node) :: earlier)
    | some character =>
      skip 1
      let node ← single fuel character
      sequence fuel ((← repetitions fuel node) :: earlier)

/-- A group, from behind its opening bracket on; nothing if it only turns
switches for what follows. -/
def group : (fuel : Nat) → Reading (Option Node)
  | 0 => failure
  | fuel + 1 => do
    let outer := (← get).flags
    let body (index : Option Nat) : Reading (Option Node) := do
      let inner ← alternatives fuel
      if !(← accept ")") then failure
      modify fun state => { state with flags := outer }
      match index with
      | none => return some inner
      | some index => return some (.group index inner)
    skipSpace
    if (← accept "?=") || (← accept "?!") || (← accept "?<=") || (← accept "?<!") then failure
    if (← accept "?P<") || (← accept "?<") then
      let index ← newGroup (some (← groupName))
      body (some index)
    else if ← accept "?" then
      if (← peek) == some ')' then failure
      let flags ← flagNames fuel true [] outer
      modify fun state => { state with flags := flags }
      if ← accept ":" then body none
      else
        skip 1
        return none
    else
      let index ← newGroup none
      body (some index)

/-- A part that starts with the given character and is no group. -/
def single (fuel : Nat) (character : Char) : Reading Node := do
  let flags := (← get).flags
  match character with
  | '.' =>
    if !flags.unicode then failure
    return .set <|
      if flags.dotAll then .all
      else if flags.returnLines then .complement (.ofList ['\n', '\r'])
      else .complement (.single '\n')
  | '^' =>
    return .anchor <|
      if !flags.manyLines then .textStart
      else if flags.returnLines then .returnLineStart else .lineStart
  | '$' =>
    return .anchor <|
      if !flags.manyLines then .textEnd
      else if flags.returnLines then .returnLineEnd else .lineEnd
  | '[' => return .set (← bracketed fuel)
  | '\\' =>
    match ← escape with
    | .character value => return .set (flags.range value value)
    | .members value => return .set value
    | .condition value => return .anchor value
  | _ => return .set (flags.range character character)

end

end Reading

/-- The pattern that a text spells, if it spells one. -/
def read? (source : String) : Option Pattern := do
  let text := source.toList
  let (node, state) ←
    (Reading.alternatives (4 * text.length + 8)).run ⟨text, .standard, 0, []⟩
  if state.rest.isEmpty then some ⟨source, node, state.names⟩ else none

end DebugConsole.Pattern
