import CommandBridge.Toml.Number

/-!
# Reading TOML

A document is read line by line. Strings, arrays and inline tables may span lines; a
comment runs to the end of its line.
-/

set_option autoImplicit false

namespace CommandBridge.Toml

abbrev Found (α : Type) := Option (α × List Char)

def isSpace (c : Char) : Bool := c = ' ' || c = '\t'

def skipSpace (cs : List Char) : List Char := cs.dropWhile isSpace

def isControl (c : Char) : Bool := (c.toNat < 0x20 && c ≠ '\t') || c.toNat = 0x7f

def dropBreak : List Char → Option (List Char)
  | '\n' :: rest => some rest
  | '\r' :: '\n' :: rest => some rest
  | _ => none

def dropComment : List Char → Option (List Char)
  | '#' :: rest =>
    let body := rest.takeWhile fun c => c ≠ '\n' && c ≠ '\r'
    if body.any isControl then none else some (rest.drop body.length)
  | rest => some rest

def skipLines : Nat → List Char → Option (List Char)
  | 0, _ => none
  | fuel + 1, cs =>
    match dropComment (skipSpace cs) with
    | none => none
    | some rest =>
      match dropBreak rest with
      | some after => skipLines fuel after
      | none => some rest

def endLine (cs : List Char) : Option (List Char) := do
  let rest ← dropComment (skipSpace cs)
  if rest.isEmpty then some [] else dropBreak rest

def codePoint (n : Nat) (cs : List Char) : Found Char :=
  if (cs.take n).length = n ∧ (cs.take n).all fun c => (digitOf 16 c).isSome then
    (digits 16 (cs.take n)).bind fun v =>
      if v < 0xD800 ∨ (0xDFFF < v ∧ v < 0x110000) then some (Char.ofNat v, cs.drop n) else none
  else none

def escape : List Char → Found Char
  | 'b' :: rest => some ('\x08', rest)
  | 't' :: rest => some ('\t', rest)
  | 'n' :: rest => some ('\n', rest)
  | 'f' :: rest => some ('\x0c', rest)
  | 'r' :: rest => some ('\r', rest)
  | '"' :: rest => some ('"', rest)
  | '\\' :: rest => some ('\\', rest)
  | 'u' :: rest => codePoint 4 rest
  | 'U' :: rest => codePoint 8 rest
  | _ => none

def basicBody : Nat → List Char → Found (List Char)
  | 0, _ => none
  | _, [] => none
  | _, '"' :: rest => some ([], rest)
  | fuel + 1, '\\' :: rest =>
    match escape rest with
    | some (c, rest) => (basicBody fuel rest).map fun r => (c :: r.1, r.2)
    | none => none
  | fuel + 1, c :: rest =>
    if isControl c then none else (basicBody fuel rest).map fun r => (c :: r.1, r.2)

def literalBody (cs : List Char) : Found (List Char) :=
  let body := cs.takeWhile (· ≠ '\'')
  if body.any isControl then none
  else
    match cs.drop body.length with
    | _ :: rest => some (body, rest)
    | [] => none

def closing (quote : Char) (cs : List Char) : Found (List Char) :=
  let run := (cs.takeWhile (· = quote)).length
  if 3 ≤ run ∧ run ≤ 5 then some (List.replicate (run - 3) quote, cs.drop run) else none

def joinLines (cs : List Char) : List Char :=
  cs.dropWhile fun c => isSpace c || c = '\n' || c = '\r'

def longBody (quote : Char) : Nat → List Char → Found (List Char)
  | 0, _ => none
  | _, [] => none
  | fuel + 1, c :: rest =>
    if c = quote then
      match closing quote (c :: rest) with
      | some r => some r
      | none =>
        if 5 < ((c :: rest).takeWhile (· = quote)).length then none
        else (longBody quote fuel rest).map fun r => (c :: r.1, r.2)
    else if c = '\\' ∧ quote = '"' then
      match escape rest with
      | some (e, rest) => (longBody quote fuel rest).map fun r => (e :: r.1, r.2)
      | none =>
        if (dropBreak (skipSpace rest)).isSome then longBody quote fuel (joinLines rest) else none
    else if c = '\n' then (longBody quote fuel rest).map fun r => (c :: r.1, r.2)
    else if c = '\r' then
      match rest with
      | '\n' :: rest => (longBody quote fuel rest).map fun r => ('\n' :: r.1, r.2)
      | _ => none
    else if isControl c then none
    else (longBody quote fuel rest).map fun r => (c :: r.1, r.2)

def afterOpening (cs : List Char) : List Char := (dropBreak cs).getD cs

def stringValue (cs : List Char) : Found (List Char) :=
  let fuel := cs.length + 1
  match cs with
  | '"' :: '"' :: '"' :: rest => longBody '"' fuel (afterOpening rest)
  | '\'' :: '\'' :: '\'' :: rest => longBody '\'' fuel (afterOpening rest)
  | '"' :: rest => basicBody fuel rest
  | '\'' :: rest => literalBody rest
  | _ => none

def isBareKey (c : Char) : Bool := c.isAlphanum || c = '_' || c = '-'

def keyPart (cs : List Char) : Found String :=
  match cs with
  | '"' :: rest => (basicBody (cs.length + 1) rest).map fun r => (String.ofList r.1, r.2)
  | '\'' :: rest => (literalBody rest).map fun r => (String.ofList r.1, r.2)
  | _ =>
    let word := cs.takeWhile isBareKey
    if word.isEmpty then none else some (String.ofList word, cs.drop word.length)

/-- The parts of a dotted key and the blanks around them. -/
def key : Nat → List Char → Found (List String)
  | 0, _ => none
  | fuel + 1, cs =>
    match keyPart (skipSpace cs) with
    | none => none
    | some (part, rest) =>
      match skipSpace rest with
      | '.' :: rest => (key fuel rest).map fun r => (part :: r.1, r.2)
      | rest => some ([part], rest)

def isWordChar (c : Char) : Bool :=
  c.isAlphanum || c = '_' || c = '-' || c = '+' || c = '.' || c = ':'

def wordValue (cs : List Char) : Found Toml :=
  let word := cs.takeWhile isWordChar
  let rest := cs.drop word.length
  let tail := rest.tail.takeWhile isWordChar
  if dropDate word = some [] ∧ rest.head? = some ' ' ∧ ((tail.head?.map Char.isDigit).getD false) then
    (ofWord (word ++ ' ' :: tail)).map fun v => (v, rest.tail.drop tail.length)
  else (ofWord word).map fun v => (v, rest)

mutual
/-- A value. `fuel` bounds the steps. -/
def value : Nat → List Char → Found Toml
  | 0, _ => none
  | fuel + 1, cs =>
    match cs with
    | '"' :: _ | '\'' :: _ => (stringValue cs).map fun r => (.string (String.ofList r.1), r.2)
    | '[' :: rest => (items fuel rest).map fun r => (.array r.1, r.2)
    | '\x7b' :: rest =>
      match skipSpace rest with
      | '\x7d' :: rest => some (.table .inline [], rest)
      | rest => (pairs fuel [] rest).map fun r => (.table .inline r.1, r.2)
    | _ => wordValue cs

/-- The items of an array up to its bracket. -/
def items : Nat → List Char → Found (List Toml)
  | 0, _ => none
  | fuel + 1, cs =>
    match skipLines (cs.length + 1) cs with
    | none => none
    | some (']' :: rest) => some ([], rest)
    | some cs =>
      match value fuel cs with
      | none => none
      | some (v, rest) =>
        match skipLines (rest.length + 1) rest with
        | some (']' :: rest) => some ([v], rest)
        | some (',' :: rest) => (items fuel rest).map fun r => (v :: r.1, r.2)
        | _ => none

def pairs : Nat → Members → List Char → Found Members
  | 0, _, _ => none
  | fuel + 1, ms, cs =>
    match key (cs.length + 1) cs with
    | some (k, '=' :: rest) =>
      match value fuel (skipSpace rest) with
      | none => none
      | some (v, rest) =>
        match assign v k ms, skipSpace rest with
        | some ms, '\x7d' :: rest => some (ms, rest)
        | some ms, ',' :: rest => pairs fuel ms rest
        | _, _ => none
    | _ => none
end

def line (cs : List Char) : Found Line :=
  let fuel := cs.length + 1
  match cs with
  | '[' :: '[' :: rest =>
    match key fuel rest with
    | some (names, ']' :: ']' :: rest) => some (.nextHeader names, rest)
    | _ => none
  | '[' :: rest =>
    match key fuel rest with
    | some (names, ']' :: rest) => some (.header names, rest)
    | _ => none
  | _ =>
    match key fuel cs with
    | some (names, '=' :: rest) =>
      (value (rest.length + 1) (skipSpace rest)).map fun r => (.pair names r.1, r.2)
    | _ => none

/-- All lines of a text. `fuel` bounds their number. -/
def lines : Nat → Document → List Char → Option Document
  | 0, _, _ => none
  | fuel + 1, d, cs =>
    match skipLines (cs.length + 1) cs with
    | none => none
    | some [] => some d
    | some cs =>
      match line cs with
      | none => none
      | some (l, rest) =>
        match d.add l, endLine rest with
        | some d, some rest => lines fuel d rest
        | _, _ => none

def dropMark : List Char → List Char
  | '\ufeff' :: rest => rest
  | rest => rest

/-- The members of a document's text. -/
def parse (text : String) : Option Members :=
  (lines (text.length + 1) .empty (dropMark text.toList)).map Document.members

end CommandBridge.Toml
