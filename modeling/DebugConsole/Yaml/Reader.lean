import DebugConsole.Yaml.Basic

/-!
# Reading YAML

`Yaml.read` gives the node of a text that holds one document. Blocks are told apart
by their columns: a collection goes on as long as its entries stand in the column of
the first, and everything that belongs to an entry stands further to the right.

The reading functions pass along the place in the text and the nodes that have been
given names. Each of them that calls another one takes some `fuel`, of which there
is more than the text can use up.
-/

namespace DebugConsole.Yaml

/-- A place in a text: its line and column, and the text after it. -/
structure Place where
  line : Nat
  column : Nat
  rest : List Char

/-- Where reading has got to, and the nodes named so far. `size` is greater than the
number of characters of the whole text. -/
structure ReadState where
  size : Nat
  place : Place
  anchors : List (String × Yaml)

/-- A reading step; it fails where the text is no YAML. -/
abbrev Reading := StateT ReadState Option

/-- A blank on a line. -/
def isBlank (character : Char) : Bool := character == ' ' || character == '\t'

/-- Whether a text starts with a blank or a line break or is at its end. -/
def atGap (text : List Char) : Bool :=
  text.head?.all fun character => isBlank character || character == '\n'

/-- A character that may stand in a text as it is. -/
def isAllowed (character : Char) : Bool :=
  let code := character.toNat
  code == 9 || code == 10 || code == 13 || (0x20 ≤ code && code ≤ 0x7E) || code == 0x85 ||
    (0xA0 ≤ code && code ≤ 0xFFFD && code ≠ 0xFEFF) || 0x10000 ≤ code

/-- A text with a line feed for every line break. -/
def unifyBreaks (text : List Char) : List Char :=
  let rec go (earlier : List Char) : List Char → List Char
    | [] => earlier.reverse
    | '\r' :: '\n' :: rest => go ('\n' :: earlier) rest
    | '\r' :: rest => go ('\n' :: earlier) rest
    | character :: rest => go ((if character == '\u0085' then '\n' else character) :: earlier) rest
  go [] text

namespace Place

/-- The place behind one character. -/
def step (place : Place) : Place :=
  match place.rest with
  | [] => place
  | '\n' :: rest => ⟨place.line + 1, 0, rest⟩
  | _ :: rest => ⟨place.line, place.column + 1, rest⟩

/-- The place behind a number of characters of the line. -/
def skip (place : Place) (count : Nat) : Place :=
  ⟨place.line, place.column + count, place.rest.drop count⟩

/-- Whether a given mark stands here at the start of a line, apart from what follows. -/
def isMark (place : Place) (mark : String) : Bool :=
  place.column == 0 && mark.toList.isPrefixOf place.rest && atGap (place.rest.drop mark.length)

/-- Whether the document ends here. -/
def isEnd (place : Place) : Bool :=
  place.rest.isEmpty || place.isMark "---" || place.isMark "..."

/-- Passes over blanks; tabs count only where they are allowed. -/
def skipBlanks (place : Place) (tabs : Bool) : Place :=
  place.skip (place.rest.takeWhile fun character =>
    character == ' ' || (tabs && character == '\t')).length

/-- Passes over the rest of the line if it is a comment. -/
def skipComment (place : Place) : Place :=
  if place.rest.head? == some '#' then
    place.skip (place.rest.takeWhile (· != '\n')).length
  else place

/-- Passes over blanks, comments and line breaks up to the next content. Tabs may
stand on the first line only where `tabs` says so, and on later ones inside brackets. -/
def toContent (inBrackets : Bool) : (fuel : Nat) → (tabs : Bool) → Place → Place
  | 0, _, place => place
  | fuel + 1, tabs, place =>
    let place := (place.skipBlanks tabs).skipComment
    if place.rest.head? == some '\n' then toContent inBrackets fuel inBrackets place.step
    else place

end Place

namespace Reading

/-- The place that has been reached. -/
def place : Reading Place := do return (← get).place

/-- Goes on from a given place. -/
def goTo (place : Place) : Reading Unit := modify fun state => { state with place := place }

/-- More than the number of characters that are left. -/
def size : Reading Nat := do return (← get).size

/-- The text after the place that has been reached. -/
def rest : Reading (List Char) := do return (← place).rest

/-- Passes over characters of the line. -/
def skip (count : Nat) : Reading Unit := do goTo ((← place).skip count)

/-- Passes over everything up to the next content. -/
def toContent (inBrackets tabs : Bool) : Reading Unit := do
  goTo ((← place).toContent inBrackets (← size) tabs)

/-- Nothing but a comment may follow on the line. -/
def finishLine : Reading Unit := do
  let here := ((← place).skipBlanks true).skipComment
  if here.rest.head?.all (· == '\n') then goTo here else failure

/-! ## Scalars -/

/-- What stands for line breaks between two words of a folded text. -/
def folded (breaks : Nat) : List Char :=
  if breaks = 1 then [' '] else List.replicate (breaks - 1) '\n'

/-- Goes on with a plain scalar. `words` is its text so far, last character first,
`last` the place behind it, and `blanks` and `breaks` are what has been passed over
since. Lines that go on stand at column `column` or further right. -/
def plainFrom (inBrackets : Bool) (column : Nat) :
    (fuel : Nat) → (words : List Char) → (last : Place) → (blanks : List Char) →
      (breaks : Nat) → Place → Option (String × Place)
  | 0, _, _, _, _, _ => none
  | fuel + 1, words, last, blanks, breaks, here =>
    let done : Option (String × Place) := some (String.ofList words.reverse, last)
    match here.rest with
    | [] => done
    | '\n' :: _ => plainFrom inBrackets column fuel words last [] (breaks + 1) here.step
    | character :: rest =>
      if isBlank character then
        if breaks ≠ 0 && character == '\t' && here.column < column then none
        else plainFrom inBrackets column fuel words last
            (if breaks = 0 then character :: blanks else []) breaks here.step
      else if here.isEnd then done
      else if breaks ≠ 0 && !inBrackets && here.column < column then done
      else if character == '#' && !(blanks.isEmpty && breaks = 0) then done
      else if character == ':' && atGap rest then done
      else if inBrackets && character == ':' &&
          rest.head?.any [',', '?', '[', ']', '{', '}'].contains then none
      else if inBrackets && [',', '[', ']', '{', '}'].contains character then done
      else
        let gap := if breaks = 0 then blanks else (folded breaks).reverse
        plainFrom inBrackets column fuel (character :: gap ++ words) here.step [] 0 here.step

/-- A plain scalar. -/
def plain (inBrackets : Bool) (column : Nat) : Reading Yaml := do
  let here ← place
  let (text, last) ← (plainFrom inBrackets column (← size) [] here [] 0 here :
    Option (String × Place))
  goTo last
  return .scalar .unsaid true text

/-- The character with a code point in hexadecimal digits. -/
def codePoint? (digits : List Char) : Option Char := do
  let code ← numberIn? 16 digits
  if code < 0xD800 || (0xDFFF < code && code < 0x110000) then some (Char.ofNat code) else none

/-- An escaped character, from behind the backslash on, and how many characters
its escape takes. -/
def escaped? (text : List Char) : Option (Char × Nat) :=
  let code (width : Nat) : Option (Char × Nat) :=
    let digits := (text.drop 1).take width
    if digits.length < width then none else (codePoint? digits).map (·, width + 1)
  match text.head? with
  | some '0' => some ('\x00', 1)
  | some 'a' => some ('\x07', 1)
  | some 'b' => some ('\x08', 1)
  | some 't' | some '\t' => some ('\t', 1)
  | some 'n' => some ('\n', 1)
  | some 'v' => some ('\x0b', 1)
  | some 'f' => some ('\x0c', 1)
  | some 'r' => some ('\r', 1)
  | some 'e' => some ('\x1b', 1)
  | some ' ' => some (' ', 1)
  | some '"' => some ('"', 1)
  | some '/' => some ('/', 1)
  | some '\\' => some ('\\', 1)
  | some 'N' => some ('\u0085', 1)
  | some '_' => some ('\u00A0', 1)
  | some 'L' => some ('\u2028', 1)
  | some 'P' => some ('\u2029', 1)
  | some 'x' => code 2
  | some 'u' => code 4
  | some 'U' => code 8
  | _ => none

/-- Goes on with a scalar in quotation marks or apostrophes. `blanks` and `breaks`
are what has been passed over since the last character; behind an escaped line
break, `joined` says that nothing stands for it. -/
def quotedFrom (mark : Char) :
    (fuel : Nat) → (text : List Char) → (blanks : List Char) → (breaks : Nat) →
      (joined : Bool) → Place → Option (String × Place)
  | 0, _, _, _, _, _ => none
  | fuel + 1, text, blanks, breaks, joined, here =>
    let gap :=
      if breaks = 0 then blanks
      else if joined then List.replicate (breaks - 1) '\n'
      else (folded breaks).reverse
    let go (character : Char) (count : Nat) : Option (String × Place) :=
      quotedFrom mark fuel (character :: gap ++ text) [] 0 false (here.skip count)
    match here.rest with
    | [] => none
    | '\n' :: _ => quotedFrom mark fuel text [] (breaks + 1) joined here.step
    | character :: rest =>
      if isBlank character then
        quotedFrom mark fuel text (if breaks = 0 then character :: blanks else []) breaks joined
          here.step
      else if here.isEnd then none
      else if character == mark then
        if mark == '\'' && rest.head? == some '\'' then go '\'' 2
        else some (String.ofList (gap ++ text).reverse, here.step)
      else if mark == '"' && character == '\\' then
        if rest.head? == some '\n' then
          quotedFrom mark fuel (gap ++ text) [] 1 true here.step.step
        else
          match escaped? rest with
          | some (value, count) => go value (count + 1)
          | none => none
      else go character 1

/-- A scalar in quotation marks or apostrophes. -/
def quoted (mark : Char) : Reading Yaml := do
  let here ← place
  let (text, last) ← (quotedFrom mark (← size) [] [] 0 false here.step :
    Option (String × Place))
  goTo last
  return .scalar .unsaid false text

/-- What becomes of the line breaks at the end of a block scalar. -/
inductive Chomping where
  | strip
  | clip
  | keep

/-- The sign for what becomes of line breaks at the end. -/
def chomping? (character : Char) : Option Chomping :=
  if character == '-' then some .strip else if character == '+' then some .keep else none

/-- The digit for a given indentation. -/
def indentation? (character : Char) : Option Nat :=
  if '1' ≤ character && character ≤ '9' then some (character.toNat - '0'.toNat) else none

/-- The header of a block scalar, from behind its sign on: the chomping and the
indentation, if it is given, in either order. -/
def blockHeader : Reading (Chomping × Option Nat) := do
  let text ← rest
  let first := text.head?
  let second := text[1]?
  match first.bind chomping?, first.bind indentation? with
  | some chomping, _ =>
    let width := second.bind indentation?
    skip (if width.isSome then 2 else 1)
    return (chomping, width)
  | none, some width =>
    let chomping := second.bind chomping?
    skip (if chomping.isSome then 2 else 1)
    return (chomping.getD .clip, some width)
  | none, none => return (.clip, none)

/-- The column of a block scalar whose indentation is not given: that of its first
line with content, and of the blank lines in front if they reach further. -/
def detectColumn : (fuel : Nat) → (widest : Nat) → List Char → Nat
  | 0, widest, _ => widest
  | fuel + 1, widest, text =>
    let width := (text.takeWhile (· == ' ')).length
    let widest := max widest width
    match text.drop width with
    | '\n' :: rest => detectColumn fuel widest rest
    | _ => widest

/-- The lines of a block scalar, the last one first, each without its indentation,
and the place behind them. Lines that are not blank and start further left end it. An
empty line stands behind the last line break of the text, if the scalar goes so far. -/
def blockLines (column : Nat) :
    (fuel : Nat) → (earlier : List (List Char)) → Place → List (List Char) × Place
  | 0, earlier, here => (earlier, here)
  | fuel + 1, earlier, here =>
    let indent := min (here.rest.takeWhile (· == ' ')).length column
    let content := here.rest.drop indent
    let line := content.takeWhile (· != '\n')
    if indent < column && !line.isEmpty then ([] :: earlier, here)
    else
      let behind := here.skip (indent + line.length)
      if behind.rest.isEmpty then (line :: earlier, behind)
      else blockLines column fuel (line :: earlier) behind.step

/-- Joins the lines of a folded block scalar: a single line break between two lines
that start with a word becomes a blank. `breaks` counts the line breaks since the
last line with content, and `indented` tells whether that line started with a blank. -/
def foldLines : (started indented : Bool) → (breaks : Nat) → List (List Char) → List Char
  | _, _, _, [] => []
  | started, indented, breaks, line :: later =>
    if line.isEmpty then foldLines started indented (breaks + 1) later
    else
      let leads := line.head?.any isBlank
      let gap :=
        if !started then List.replicate breaks '\n'
        else if indented || leads then List.replicate (breaks + 1) '\n'
        else folded (breaks + 1)
      gap ++ line ++ foldLines true leads 0 later

/-- A block scalar, from its sign on, in a collection at column `parent`. -/
def blockScalar (parent : Option Nat) : Reading Yaml := do
  let isFolded := (← rest).head? == some '>'
  skip 1
  let (chomping, width) ← blockHeader
  finishLine
  goTo (← place).step
  let here ← place
  let fuel ← size
  let least := parent.elim 1 (· + 1)
  let column :=
    match width with
    | some width => parent.getD 0 + width
    | none => max least (detectColumn fuel 0 here.rest)
  let (reversed, behind) := blockLines column fuel [] here
  goTo behind
  let content := (reversed.dropWhile List.isEmpty).reverse
  let breaks := (reversed.takeWhile List.isEmpty).length
  let breaks := if content.isEmpty then breaks - 1 else breaks
  let body := if isFolded then foldLines false false 0 content else ['\n'].intercalate content
  let ending :=
    match chomping with
    | .strip => 0
    | .clip => if content.isEmpty then 0 else min breaks 1
    | .keep => breaks
  return .scalar .unsaid false (String.ofList (body ++ List.replicate ending '\n'))

/-! ## Nodes -/

/-- The name behind the sign of an anchor or alias. -/
def anchorName : Reading String := do
  let text ← rest
  let name := text.takeWhile fun character =>
    character.isAlphanum || character == '_' || character == '-'
  let next := (text.drop name.length).head?
  if name.isEmpty then failure
  if !next.all fun character => isBlank character ||
      ['\n', '?', ':', ',', ']', '}', '%', '@', '\x60'].contains character then failure
  skip name.length
  return String.ofList name

/-- What stands in front of the names of standard tags where they are written in
full. -/
def standardTags : String := "tag:yaml.org,2002:"

/-- The tag that a text stands for. Handles other than the two that every document
knows are not known. -/
def tagOf? (text : List Char) : Option Tag :=
  match text with
  | ['!'] => some .unsaid
  | '!' :: '!' :: name =>
    if name.isEmpty || name.contains '!' then none else some (.standard (String.ofList name))
  | '!' :: '<' :: rest =>
    let name := rest.dropLast
    if rest.getLast? != some '>' || name.isEmpty then none
    else if standardTags.toList.isPrefixOf name then
      some (.standard (String.ofList (name.drop standardTags.length)))
    else if name.head? == some '!' then some (.custom (String.ofList name.tail))
    else some (.standard (String.ofList name))
  | '!' :: name => if name.contains '!' then none else some (.custom (String.ofList name))
  | _ => none

/-- The properties of a node. -/
structure Properties where
  anchor : Option String
  tag : Option Tag

namespace Properties

/-- Nothing is said of a node. -/
def none : Properties := ⟨.none, .none⟩

/-- Whether anything is said of a node. -/
def any (properties : Properties) : Bool := properties.anchor.isSome || properties.tag.isSome

/-- Gives a node its properties. -/
def apply (properties : Properties) (node : Yaml) : Reading Yaml := do
  let node :=
    match properties.tag, node with
    | .none, node => node
    | some tag, .scalar _ plain text => .scalar tag plain text
    | some tag, .sequence _ items => .sequence tag items
    | some tag, .mapping _ entries => .mapping tag entries
  match properties.anchor with
  | .none => return node
  | some name =>
    modify fun state => { state with anchors := (name, node) :: state.anchors }
    return node

end Properties

/-- The properties in front of a node: an anchor and a tag at most, in any order. -/
def properties (inBrackets : Bool) : (fuel : Nat) → Properties → Reading Properties
  | 0, found => return found
  | fuel + 1, found => do
    match ← rest with
    | '&' :: _ =>
      if found.anchor.isSome then failure
      skip 1
      let name ← anchorName
      goTo ((← place).skipBlanks true)
      properties inBrackets fuel { found with anchor := some name }
    | '!' :: _ =>
      if found.tag.isSome then failure
      let text := (← rest).takeWhile fun character =>
        !isBlank character && character != '\n' && !(inBrackets && character == ',')
      skip text.length
      goTo ((← place).skipBlanks true)
      match tagOf? text with
      | some tag => properties inBrackets fuel { found with tag := some tag }
      | none => failure
    | _ => return found

/-- Whether a plain scalar can start here. -/
def startsPlain (inBrackets : Bool) (text : List Char) : Bool :=
  match text with
  | [] => false
  | '-' :: rest => !rest.head?.all isBlank && rest.head? != some '\n'
  | '?' :: rest | ':' :: rest => !inBrackets && !atGap rest
  | character :: _ =>
    !(isBlank character || character == '\n' ||
      [',', '[', ']', '{', '}', '#', '&', '*', '!', '|', '>', '\'', '"', '%', '@', '\x60'].contains
        character)

/-- Whether a character ends a node inside brackets. -/
def endsNested (character : Char) : Bool := [',', ']', '}'].contains character

/-- Whether what started at a place and has been read since may be a key: it must
stand on one line and may not be long. -/
def isKey (start here : Place) : Bool :=
  here.line = start.line && here.column ≤ start.column + 1024

mutual

/-- A node that is no block: in brackets, in quotation marks, plain, or an alias. -/
def inlineNode (inBrackets : Bool) (column : Nat) : (fuel : Nat) → Reading Yaml
  | 0 => failure
  | fuel + 1 => do
    match ← rest with
    | '[' :: _ =>
      skip 1
      bracketItems fuel []
    | '{' :: _ =>
      skip 1
      braceEntries fuel []
    | '"' :: _ => quoted '"'
    | '\'' :: _ => quoted '\''
    | '*' :: _ =>
      skip 1
      let name ← anchorName
      match (← get).anchors.lookup name with
      | some node => return node
      | none => failure
    | text => if startsPlain inBrackets text then plain inBrackets column else failure

/-- A node inside brackets. -/
def nestedNode : (fuel : Nat) → Reading Yaml
  | 0 => failure
  | fuel + 1 => do
    let found ← properties true 4 .none
    toContent true true
    let text ← rest
    if found.any then
      if text.head?.any fun character => endsNested character || character == ':' then
        found.apply missing
      else if text.head? == some '*' then failure
      else found.apply (← inlineNode true 0 fuel)
    else inlineNode true 0 fuel

/-- The value behind the key of a pair inside brackets; it may be left out. -/
def nestedValue : (fuel : Nat) → Reading Yaml
  | 0 => failure
  | fuel + 1 => do
    toContent true true
    if (← rest).head? == some ':' then
      skip 1
      toContent true true
      if (← rest).head?.any endsNested then return missing else nestedNode fuel
    else return missing

/-- A node inside brackets, and the value behind it if it is a key. -/
def nestedPair : (fuel : Nat) → Reading (Yaml × Option Yaml)
  | 0 => failure
  | fuel + 1 => do
    let start ← place
    if start.rest.head? == some '?' then
      skip 1
      toContent true true
      let key ←
        if (← rest).head?.any fun character => endsNested character || character == ':' then
          pure missing
        else nestedNode fuel
      return (key, some (← nestedValue fuel))
    else
      let node ← nestedNode fuel
      toContent true true
      let here ← place
      if here.rest.head? == some ':' then
        if isKey start here then return (node, some (← nestedValue fuel)) else failure
      else return (node, none)

/-- The items of a sequence in brackets. A pair among them is a mapping of its own. -/
def bracketItems : (fuel : Nat) → (earlier : List Yaml) → Reading Yaml
  | 0, _ => failure
  | fuel + 1, earlier => do
    toContent true true
    if (← rest).head? == some ']' then
      skip 1
      return .sequence .unsaid earlier.reverse
    let (node, value) ← nestedPair fuel
    let item := value.elim node fun value => .mapping .unsaid [(node, value)]
    toContent true true
    match (← rest).head? with
    | some ',' =>
      skip 1
      bracketItems fuel (item :: earlier)
    | some ']' => bracketItems fuel (item :: earlier)
    | _ => failure

/-- The entries of a mapping in braces. -/
def braceEntries : (fuel : Nat) → (earlier : List (Yaml × Yaml)) → Reading Yaml
  | 0, _ => failure
  | fuel + 1, earlier => do
    toContent true true
    if (← rest).head? == some '}' then
      skip 1
      return .mapping .unsaid earlier.reverse
    let (key, value) ← nestedPair fuel
    toContent true true
    match (← rest).head? with
    | some ',' =>
      skip 1
      braceEntries fuel ((key, value.getD missing) :: earlier)
    | some '}' => braceEntries fuel ((key, value.getD missing) :: earlier)
    | _ => failure

end

/-- Whether the sign of a block entry stands here. -/
def isSign (sign : Char) (text : List Char) : Bool :=
  text.head? == some sign && atGap text.tail

/-- Whether content stands here to the right of column `parent`. -/
def isInside (parent : Option Nat) (here : Place) : Bool :=
  !here.isEnd && parent.all (· < here.column)

/-- A key on one line and the colon behind it. -/
def simpleKey (fuel : Nat) : Reading Yaml := do
  let start ← place
  let found ← properties false 4 .none
  let text ← rest
  let key ←
    if found.any && isSign ':' text then pure missing
    else if found.any && text.head? == some '*' then failure
    else inlineNode false 0 fuel
  let key ← found.apply key
  goTo ((← place).skipBlanks true)
  let here ← place
  if isKey start here && isSign ':' here.rest then
    skip 1
    return key
  else failure

mutual

/-- A node in a collection at column `parent`. A block collection may start here only
where `fresh` says so: at the start of a line or behind the sign of an entry. -/
def blockNode : (fuel : Nat) → (parent : Option Nat) → (fresh : Bool) → Reading Yaml
  | 0, _, _ => failure
  | fuel + 1, parent, fresh => do
    let start ← place
    let text := start.rest
    if isSign '-' text then
      if fresh then blockItems fuel start.column [] else failure
    else if isSign '?' text then
      if fresh then blockEntries fuel start.column [] else failure
    else if fresh && ((simpleKey fuel).run (← get)).isSome then
      blockEntries fuel start.column []
    else
      let found ← properties false 4 .none
      let here ← place
      if found.any && here.rest.head?.all fun character => character == '\n' || character == '#' then
        found.apply (← entryBelow fuel parent)
      else if here.rest.head?.any ['|', '>'].contains then
        let node ← blockScalar parent
        toContent false false
        found.apply node
      else if found.any && here.rest.head? == some '*' then failure
      else
        let node ← inlineNode false (parent.elim 0 (· + 1)) fuel
        finishLine
        toContent false false
        found.apply node

/-- What belongs to properties whose line has come to its end: the content further to
the right on the next lines, if there is any. -/
def entryBelow : (fuel : Nat) → (parent : Option Nat) → Reading Yaml
  | 0, _ => failure
  | fuel + 1, parent => do
    toContent false true
    let here ← place
    if isInside parent here then blockNode fuel parent true else return missing

/-- The value behind the colon of an entry in a mapping at column `column`. A
sequence below it may stand in the same column. -/
def entryValue : (fuel : Nat) → (column : Nat) → (fresh : Bool) → Reading Yaml
  | 0, _, _ => failure
  | fuel + 1, column, fresh => do
    let line := (← place).line
    toContent false !fresh
    let here ← place
    if here.isEnd then return missing
    else if here.line = line then blockNode fuel (some column) fresh
    else if column < here.column then blockNode fuel (some column) true
    else if here.column = column && isSign '-' here.rest then blockItems fuel column []
    else return missing

/-- The entries of a mapping at column `column`. -/
def blockEntries : (fuel : Nat) → (column : Nat) → (earlier : List (Yaml × Yaml)) → Reading Yaml
  | 0, _, _ => failure
  | fuel + 1, column, earlier => do
    let here ← place
    if here.isEnd || here.column < column then return .mapping .unsaid earlier.reverse
    if here.column ≠ column then failure
    if isSign '?' here.rest then
      skip 1
      let key ← entryValue fuel column true
      let behind ← place
      if !behind.isEnd && behind.column = column && isSign ':' behind.rest then
        skip 1
        let value ← entryValue fuel column true
        blockEntries fuel column ((key, value) :: earlier)
      else blockEntries fuel column ((key, missing) :: earlier)
    else
      let key ← simpleKey fuel
      let value ← entryValue fuel column false
      blockEntries fuel column ((key, value) :: earlier)

/-- The items of a sequence at column `column`. -/
def blockItems : (fuel : Nat) → (column : Nat) → (earlier : List Yaml) → Reading Yaml
  | 0, _, _ => failure
  | fuel + 1, column, earlier => do
    let here ← place
    if here.isEnd || here.column < column then return .sequence .unsaid earlier.reverse
    if here.column ≠ column then failure
    if isSign '-' here.rest then
      skip 1
      toContent false false
      let behind ← place
      if isInside (some column) behind then
        let item ← blockNode fuel (some column) true
        blockItems fuel column (item :: earlier)
      else blockItems fuel column (missing :: earlier)
    else return .sequence .unsaid earlier.reverse

end

/-- Passes over the lines of directives in front of a document, and tells whether
there are any. -/
def directives : (fuel : Nat) → (any : Bool) → Reading Bool
  | 0, any => return any
  | fuel + 1, any => do
    toContent false false
    let here ← place
    if here.column = 0 && here.rest.head? == some '%' then
      goTo (here.skip (here.rest.takeWhile (· != '\n')).length)
      directives fuel true
    else return any

/-- The only document of a text. A block collection may not start behind the mark of
a document on its line. -/
def document : Reading Yaml := do
  let fuel := 8 * (← size)
  let directed ← directives fuel false
  let start ← place
  let marked := start.isMark "---"
  if directed && !marked then failure
  if marked then
    skip 3
    toContent false true
  else if start.isEnd then failure
  let here ← place
  let node ←
    if here.isEnd then pure missing
    else blockNode fuel none (!marked || here.line ≠ start.line)
  toContent false false
  if (← place).isMark "..." then
    skip 3
    finishLine
    toContent false false
  if (← rest).isEmpty then return node else failure

end Reading

/-- The node of a text that holds one document. -/
def read (text : String) : Option Yaml :=
  let characters :=
    match text.toList with
    | '\uFEFF' :: rest => rest
    | characters => characters
  if characters.all isAllowed then
    let characters := unifyBreaks characters
    (Reading.document.run ⟨characters.length + 1, ⟨0, 0, characters⟩, []⟩).map (·.1)
  else none

end DebugConsole.Yaml
