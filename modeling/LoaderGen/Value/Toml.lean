import LoaderGen.Value.Toml.Scalar
import LoaderGen.Value.Toml.Table

/-!
# Reading TOML

The grammar of TOML 1.1: keys, texts of four kinds, lists and inline tables that can span lines, and
headers. Each function takes the characters that are left and gives those that follow.
-/

namespace LoaderGen.Toml

/-- How many lists and inline tables may stand inside one another. -/
def maxDepth : Nat := 80

def isSpace (c : Char) : Bool := c = ' ' || c = '\t'

/-- A character that may stand in a comment, and unescaped in a text. -/
def isPlain (c : Char) : Bool := c = '\t' || (0x20 ≤ c.toNat && c.toNat ≠ 0x7F)

def skipSpace (cs : List Char) : List Char := cs.dropWhile isSpace

/-- The end of a line after spaces and a comment, and the next line. -/
def endLine? (inComment : Bool) : List Char → Option (List Char)
  | [] => some []
  | '\n' :: rest => some rest
  | '\r' :: '\n' :: rest => some rest
  | c :: rest =>
    if inComment then if isPlain c then endLine? true rest else none
    else if isSpace c then endLine? false rest
    else if c = '#' then endLine? true rest
    else none

/-- What follows spaces, line ends and comments. -/
def skipTrivia? (inComment : Bool) : List Char → Option (List Char)
  | [] => some []
  | '\n' :: rest => skipTrivia? false rest
  | '\r' :: '\n' :: rest => skipTrivia? false rest
  | c :: rest =>
    if inComment then if isPlain c then skipTrivia? true rest else none
    else if isSpace c then skipTrivia? false rest
    else if c = '#' then skipTrivia? true rest
    else some (c :: rest)

/-- What follows spaces and line ends. -/
def skipLines : List Char → List Char
  | '\n' :: rest => skipLines rest
  | '\r' :: '\n' :: rest => skipLines rest
  | c :: rest => if isSpace c then skipLines rest else c :: rest
  | [] => []

/-- The line end that may follow the opening quotes of a text of several lines. -/
def dropLineEnd : List Char → List Char
  | '\n' :: rest => rest
  | '\r' :: '\n' :: rest => rest
  | cs => cs

def isHexDigit (c : Char) : Bool := c.isDigit || ('a' ≤ c.toLower && c.toLower ≤ 'f')

/-- The character with the code point that hexadecimal digits give. -/
def charOfHex? (ds : List Char) : Option Char := do
  guard (ds.all isHexDigit)
  let n := valueInBase 16 ds
  if h : n.isValidChar then return Char.ofNatAux n h else none

/-- The character that an escape after its backslash stands for, and what follows. -/
def escape? : List Char → Option (Char × List Char)
  | 'x' :: a :: b :: rest => (charOfHex? [a, b]).map (·, rest)
  | 'u' :: a :: b :: c :: d :: rest => (charOfHex? [a, b, c, d]).map (·, rest)
  | 'U' :: a :: b :: c :: d :: e :: f :: g :: h :: rest =>
    (charOfHex? [a, b, c, d, e, f, g, h]).map (·, rest)
  | e :: rest =>
    ([('b', '\x08'), ('t', '\t'), ('n', '\n'), ('f', '\x0c'), ('r', '\r'), ('e', '\x1b'),
      ('"', '"'), ('\\', '\\')].lookup e).map (·, rest)
  | [] => none

/-- A text after its opening quote, on one line; with escapes unless it is literal. -/
def lineText? (quote : Char) (literal : Bool) : Nat → List Char → Option (List Char × List Char)
  | 0, _ => none
  | _, [] => none
  | fuel + 1, c :: rest =>
    if c = quote then some ([], rest)
    else if c = '\\' && !literal then do
      let (e, after) ← escape? rest
      let (more, after) ← lineText? quote literal fuel after
      return (e :: more, after)
    else do
      guard (isPlain c)
      let (more, after) ← lineText? quote literal fuel rest
      return (c :: more, after)

/-- A text of several lines after its opening quotes. Three quotes end it; one or two more before
them belong to it. A backslash at the end of a line joins it to the next word. -/
def linesText? (quote : Char) (literal : Bool) : Nat → List Char → Option (List Char × List Char)
  | 0, _ => none
  | _, [] => none
  | fuel + 1, c :: rest =>
    if c = quote then
      let quotes := ((c :: rest).takeWhile (· == quote)).length
      if 3 ≤ quotes then
        some (List.replicate (min quotes 5 - 3) quote, (c :: rest).drop (min quotes 5))
      else do
        let (more, after) ← linesText? quote literal fuel rest
        return (c :: more, after)
    else if c = '\\' && !literal then
      let afterSpace := skipSpace rest
      if dropLineEnd afterSpace ≠ afterSpace then
        linesText? quote literal fuel (skipLines afterSpace)
      else do
        let (e, after) ← escape? rest
        let (more, after) ← linesText? quote literal fuel after
        return (e :: more, after)
    else do
      guard (isPlain c || c = '\n' || (c = '\r' && rest.head? = some '\n'))
      let (more, after) ← linesText? quote literal fuel rest
      return (c :: more, after)

/-- A text with its quotes, and what follows. -/
def quoted? : List Char → Option (String × List Char)
  | '"' :: '"' :: '"' :: rest =>
    let body := dropLineEnd rest
    (linesText? '"' false (body.length + 1) body).map fun (s, after) => (String.ofList s, after)
  | '\x27' :: '\x27' :: '\x27' :: rest =>
    let body := dropLineEnd rest
    (linesText? '\x27' true (body.length + 1) body).map fun (s, after) => (String.ofList s, after)
  | '"' :: rest =>
    (lineText? '"' false (rest.length + 1) rest).map fun (s, after) => (String.ofList s, after)
  | '\x27' :: rest =>
    (lineText? '\x27' true (rest.length + 1) rest).map fun (s, after) => (String.ofList s, after)
  | _ => none

def isBareKey (c : Char) : Bool := c.isAlphanum || c = '_' || c = '-'

/-- One name of a key, and what follows. -/
def name? (cs : List Char) : Option (String × List Char) :=
  match cs with
  | '"' :: '"' :: '"' :: _ => none
  | '\x27' :: '\x27' :: '\x27' :: _ => none
  | '"' :: _ => quoted? cs
  | '\x27' :: _ => quoted? cs
  | _ => do
    let bare := cs.takeWhile isBareKey
    guard (!bare.isEmpty)
    return (String.ofList bare, cs.dropWhile isBareKey)

/-- How many names a key may have. -/
def maxNames : Nat := 80

/-- Names joined by dots, `room` at most, and what follows them and the spaces after them. -/
def names? (room : Nat) (cs : List Char) : Option (List String × List Char) :=
  match room with
  | 0 => none
  | room + 1 => do
    let (name, rest) ← name? (skipSpace cs)
    match skipSpace rest with
    | '.' :: more =>
      let (names, after) ← names? room more
      return (name :: names, after)
    | after => return ([name], after)

/-- A key, and what follows it and the spaces after it. -/
def key? (cs : List Char) : Option (List String × List Char) := names? maxNames cs

/-- A character of a scalar without quotes; a quote is one when it does not stand first. -/
def isWord (c : Char) : Bool :=
  !(isSpace c || ['=', ',', '[', ']', '\x7b', '\x7d', '#', '\r', '\n'].contains c)

/-- A scalar goes on here after spaces. -/
def goesOn (cs : List Char) : Bool :=
  match cs with
  | c :: _ => isWord c && c != '.' && c != '"' && c != '\x27'
  | [] => false

/-- The scalar without quotes that starts here, and what follows. Spaces before another word are
part of it. -/
def spanWord : List Char → List Char × List Char
  | [] => ([], [])
  | c :: rest =>
    if isWord c || (isSpace c && goesOn (skipSpace rest)) then
      let (word, after) := spanWord rest
      (c :: word, after)
    else ([], c :: rest)

/-- The value of the scalar that starts here, and what follows. -/
def word? (cs : List Char) : Option (Value × List Char) :=
  let (word, after) := spanWord cs
  (scalar? word).map (·, after)

mutual

/-- A value, and what follows; `room` lists and inline tables may still be opened in it. -/
def value? (fuel room : Nat) (cs : List Char) : Option (Value × List Char) :=
  match fuel with
  | 0 => none
  | fuel + 1 =>
    match cs with
    | '"' :: _ => (quoted? cs).map fun (s, after) => (.text s, after)
    | '\x27' :: _ => (quoted? cs).map fun (s, after) => (.text s, after)
    | '[' :: rest => do
      guard (0 < room)
      let (items, after) ← items? fuel (room - 1) rest
      return (.list items, after)
    | '\x7b' :: rest => do
      guard (0 < room)
      let (entries, after) ← members? fuel (room - 1) [] rest
      return (.record (membersToValues entries), after)
    | _ => word? cs

/-- The items of a list up to its bracket. -/
def items? (fuel room : Nat) (cs : List Char) : Option (List Value × List Char) :=
  match fuel with
  | 0 => none
  | fuel + 1 => do
    match ← skipTrivia? false cs with
    | ']' :: after => return ([], after)
    | start =>
      let (item, rest) ← value? fuel room start
      match ← skipTrivia? false rest with
      | ']' :: after => return ([item], after)
      | ',' :: more =>
        let (items, after) ← items? fuel room more
        return (item :: items, after)
      | _ => none

/-- The members of an inline table up to its brace, after those already read. -/
def members? (fuel room : Nat) (entries : Table) (cs : List Char) : Option (Table × List Char) :=
  match fuel with
  | 0 => none
  | fuel + 1 => do
    match ← skipTrivia? false cs with
    | '\x7d' :: after => return (entries, after)
    | start =>
      let (path, afterKey) ← key? start
      match ← skipTrivia? false afterKey with
      | '=' :: rest =>
        let (v, rest) ← value? fuel room (← skipTrivia? false rest)
        let entries ← Table.assign v path entries
        match ← skipTrivia? false rest with
        | '\x7d' :: after => return (entries, after)
        | ',' :: more => members? fuel room entries more
        | _ => none
      | _ => none

end

/-- A document read in part: its tables, and the path of the one that keys are added to. -/
structure Draft where
  root : Table := []
  current : List String := []

/-- Reads one line, or several if a value spans them, and gives what follows. -/
def expression? (draft : Draft) (cs : List Char) : Option (Draft × List Char) := do
  match skipSpace cs with
  | '[' :: '[' :: rest =>
    match ← key? rest with
    | (path, ']' :: ']' :: after) =>
      let root ← Table.within (Table.append (path.getLast?.getD "")) path.dropLast draft.root
      return (⟨root, path⟩, ← endLine? false after)
    | _ => none
  | '[' :: rest =>
    match ← key? rest with
    | (path, ']' :: after) =>
      let root ← Table.within (Table.define (path.getLast?.getD "")) path.dropLast draft.root
      return (⟨root, path⟩, ← endLine? false after)
    | _ => none
  | start =>
    match endLine? false start with
    | some after => return (draft, after)
    | none =>
      match ← key? start with
      | (path, '=' :: rest) =>
        let (v, after) ← value? (2 * rest.length + 2) maxDepth (skipSpace rest)
        let root ← Table.within (Table.assign v path) draft.current draft.root
        return ({ draft with root := root }, ← endLine? false after)
      | _ => none

/-- The tables of a document from the given characters on. -/
def document? : Nat → Draft → List Char → Option Table
  | 0, _, _ => none
  | _, draft, [] => some draft.root
  | fuel + 1, draft, cs => do
    let (draft, rest) ← expression? draft cs
    document? fuel draft rest

/-- A document without a byte order mark before it. -/
def dropMark : List Char → List Char
  | '\ufeff' :: rest => rest
  | cs => cs

/-- The record that a whole document holds. -/
def read? (source : String) : Option Value :=
  let cs := dropMark source.toList
  (document? (cs.length + 1) {} cs).map fun entries => .record (membersToValues entries)

end LoaderGen.Toml
