import Mathlib.Algebra.Group.Nat.Defs
import Mathlib.Data.List.TakeWhile
import AutoRouteGateway.Library.UpsertTable
import AutoRouteGateway.Runtime.Json
import AutoRouteGateway.Runtime.Text

/-!
Contract: JSON as text.

Owns: `json.dumps` with `ensure_ascii=False`, and `json.loads` with the
exceptions it raises: its own, for a text that is no JSON, and those of the
interpreter, for an integer of too many digits and for values nested too deeply.

A text is a sequence of characters, and half of a surrogate pair is none. Where
an escape outside a pair stands for one, U+FFFD is read in its place; `Paired`
says of a text that this happens nowhere.
-/

namespace AutoRouteGateway.Runtime

open AutoRouteGateway.Library

/-! ## Writing -/

/-- `json.encoder.ESCAPE_DCT`, and the numeric escape of the other control
characters. -/
def escapeChar (char : Char) : List Char :=
  if char = '"' then ['\\', '"']
  else if char = '\\' then ['\\', '\\']
  else if char = '\n' then ['\\', 'n']
  else if char = '\r' then ['\\', 'r']
  else if char = '\t' then ['\\', 't']
  else if char = '\u0008' then ['\\', 'b']
  else if char = '\u000c' then ['\\', 'f']
  else if char.toNat < 32 then
    ['\\', 'u', '0', '0', hexDigit (char.toNat / 16), hexDigit (char.toNat % 16)]
  else [char]

def stringText (text : String) : List Char :=
  '"' :: (text.toList.flatMap escapeChar ++ ['"'])

def intText (value : Int) : List Char :=
  if value < 0 then '-' :: Nat.toDigits 10 value.natAbs else Nat.toDigits 10 value.natAbs

namespace Json

mutual

/-- The text of a value, with the default separators. -/
def text : Json → List Char
  | null => ['n', 'u', 'l', 'l']
  | bool true => ['t', 'r', 'u', 'e']
  | bool false => ['f', 'a', 'l', 's', 'e']
  | int value => intText value
  | float value => floatText value
  | str value => stringText value
  | list items => '[' :: elementsText items
  | dict fields => '{' :: membersText fields

/-- The elements of a list and its closing bracket. -/
def elementsText : List Json → List Char
  | [] => [']']
  | [value] => text value ++ [']']
  | value :: next :: rest => text value ++ ',' :: ' ' :: elementsText (next :: rest)

/-- The members of an object and its closing brace. -/
def membersText : List (String × Json) → List Char
  | [] => ['}']
  | [(name, value)] => stringText name ++ ':' :: ' ' :: (text value ++ ['}'])
  | (name, value) :: next :: rest =>
      stringText name ++ ':' :: ' ' :: (text value ++ ',' :: ' ' :: membersText (next :: rest))

end

end Json

/-- `json.dumps(data, ensure_ascii=False)`. -/
def dumps (data : Json) : String := String.ofList data.text

/-! ## Reading -/

/-- `json.loads` raises its own error on text that is no JSON, and may raise
another exception on text it cannot hold. -/
inductive LoadError where
  | decode
  | other (text : String)

/-- `json.loads`, and `json.dumps` of a decoded value. -/
structure JsonCodec where
  loads : String → Except LoadError Json
  dumps : Json → String

def isJsonSpace (char : Char) : Bool :=
  char == ' ' || char == '\t' || char == '\n' || char == '\r'

def skipSpace (chars : List Char) : List Char := chars.dropWhile isJsonSpace

/-- What follows a word at the front of a text. -/
def afterWord (word chars : List Char) : Option (List Char) :=
  if word.isPrefixOf chars then some (chars.drop word.length) else none

/-! ### Strings -/

def hexValue (char : Char) : Option Nat :=
  if '0' ≤ char ∧ char ≤ '9' then some (char.toNat - '0'.toNat)
  else if 'a' ≤ char ∧ char ≤ 'f' then some (char.toNat - 'a'.toNat + 10)
  else if 'A' ≤ char ∧ char ≤ 'F' then some (char.toNat - 'A'.toNat + 10)
  else none

/-- Four hexadecimal digits. -/
def readHex4 : List Char → Option (Nat × List Char)
  | first :: second :: third :: fourth :: rest =>
      match hexValue first, hexValue second, hexValue third, hexValue fourth with
      | some a, some b, some c, some d => some (((a * 16 + b) * 16 + c) * 16 + d, rest)
      | _, _, _, _ => none
  | _ => none

/-- The second half of a surrogate pair, as an escape. -/
def readLowHalf (chars : List Char) : Option (Nat × List Char) :=
  match afterWord ['\\', 'u'] chars with
  | none => none
  | some rest =>
      match readHex4 rest with
      | none => none
      | some (low, rest) => if 0xdc00 ≤ low ∧ low ≤ 0xdfff then some (low, rest) else none

section Characters

/- What is read for half of a surrogate pair; `none` refuses it. -/
variable (lone : Option Char)

/-- A numeric escape after its `u`. -/
def readUnicode (chars : List Char) : Option (Char × List Char) :=
  match readHex4 chars with
  | none => none
  | some (high, rest) =>
      if 0xd800 ≤ high ∧ high ≤ 0xdbff then
        match readLowHalf rest with
        | none => lone.map fun char => (char, rest)
        | some (low, rest) =>
            some (Char.ofNat (0x10000 + (high - 0xd800) * 0x400 + (low - 0xdc00)), rest)
      else if 0xdc00 ≤ high ∧ high ≤ 0xdfff then lone.map fun char => (char, rest)
      else some (Char.ofNat high, rest)

def simpleEscape (char : Char) : Option Char :=
  if char = '"' then some '"'
  else if char = '\\' then some '\\'
  else if char = '/' then some '/'
  else if char = 'n' then some '\n'
  else if char = 'r' then some '\r'
  else if char = 't' then some '\t'
  else if char = 'b' then some '\u0008'
  else if char = 'f' then some '\u000c'
  else none

/-- An escape after its backslash. -/
def readEscape : List Char → Option (Char × List Char)
  | [] => none
  | char :: rest =>
      if char = 'u' then readUnicode lone rest
      else
        match simpleEscape char with
        | none => none
        | some own => some (own, rest)

/-- The characters of a string up to its closing quote; control characters are
refused. -/
def readChars : Nat → List Char → Option (List Char × List Char)
  | 0, _ => none
  | _ + 1, [] => none
  | fuel + 1, char :: rest =>
      if char = '"' then some ([], rest)
      else if char = '\\' then
        match readEscape lone rest with
        | none => none
        | some (own, rest) =>
            match readChars fuel rest with
            | none => none
            | some (chars, rest) => some (own :: chars, rest)
      else if char.toNat < 32 then none
      else
        match readChars fuel rest with
        | none => none
        | some (chars, rest) => some (char :: chars, rest)

end Characters

/-! ### Numbers -/

/-- A minus sign, and what follows. -/
def readSign : List Char → Bool × List Char
  | [] => (false, [])
  | char :: rest => if char = '-' then (true, rest) else (false, char :: rest)

/-- `0`, or digits that do not start with it. -/
def readInteger : List Char → Option (List Char × List Char)
  | [] => none
  | char :: rest =>
      if char = '0' then some ([char], rest)
      else if char.isDigit then
        some (char :: rest.takeWhile Char.isDigit, rest.dropWhile Char.isDigit)
      else none

/-- The digits after a decimal point, or none of it. -/
def readFraction : List Char → List Char × List Char
  | [] => ([], [])
  | char :: rest =>
      if char = '.' ∧ rest.takeWhile Char.isDigit ≠ [] then
        (rest.takeWhile Char.isDigit, rest.dropWhile Char.isDigit)
      else ([], char :: rest)

/-- The sign of an exponent, and what follows. -/
def readExponentSign : List Char → Bool × List Char
  | [] => (false, [])
  | char :: rest =>
      if char = '-' then (true, rest)
      else if char = '+' then (false, rest)
      else (false, char :: rest)

/-- An exponent, or none of it. -/
def readExponent : List Char → Option Int × List Char
  | [] => (none, [])
  | char :: rest =>
      let signed := readExponentSign rest
      if (char = 'e' ∨ char = 'E') ∧ signed.2.takeWhile Char.isDigit ≠ [] then
        let size := Nat.ofDigitChars 10 (signed.2.takeWhile Char.isDigit) 0
        (some (if signed.1 then -(size : Int) else size), signed.2.dropWhile Char.isDigit)
      else (none, char :: rest)

/-- The numeral at the front of a text. -/
def readNumeral (chars : List Char) : Option (Numeral × List Char) :=
  let signed := readSign chars
  match readInteger signed.2 with
  | none => none
  | some (whole, rest) =>
      let fraction := readFraction rest
      let exponent := readExponent fraction.2
      some (⟨signed.1, whole, fraction.1, exponent.1⟩, exponent.2)

/-- `sys.get_int_max_str_digits()`, as it is unless it is set. -/
def digitLimit : Nat := 4300

def digitLimitText (digits : Nat) : String :=
  "Exceeds the limit (" ++ toString digitLimit ++ " digits) for integer string conversion: " ++
    "value has " ++ toString digits ++
    " digits; use sys.set_int_max_str_digits() to increase the limit"

/-- The value of a numeral: an integer unless it has a fraction or an exponent. -/
def Numeral.value (numeral : Numeral) : Except LoadError Json :=
  if numeral.fraction = [] ∧ numeral.exponent = none then
    if digitLimit < numeral.whole.length then
      .error (.other (digitLimitText numeral.whole.length))
    else
      let size : Int := Nat.ofDigitChars 10 numeral.whole 0
      .ok (.int (if numeral.negative then -size else size))
  else .ok (.float (.ofNumeral numeral))

/-! ### Values -/

/-- The words of the format and of its three constants beyond the format. -/
def words : List (List Char × Json) :=
  [(['n', 'u', 'l', 'l'], .null), (['t', 'r', 'u', 'e'], .bool true),
    (['f', 'a', 'l', 's', 'e'], .bool false), (['N', 'a', 'N'], .float .nan),
    (['I', 'n', 'f', 'i', 'n', 'i', 't', 'y'], .float (.infinity false)),
    (['-', 'I', 'n', 'f', 'i', 'n', 'i', 't', 'y'], .float (.infinity true))]

def readWord (chars : List Char) : List (List Char × Json) → Option (Json × List Char)
  | [] => none
  | (word, value) :: others =>
      match afterWord word chars with
      | some rest => some (value, rest)
      | none => readWord chars others

/-- A value that is neither a string nor a list nor an object. -/
def readScalar (chars : List Char) : Except LoadError (Json × List Char) :=
  match readNumeral chars with
  | some (numeral, rest) =>
      match numeral.value with
      | .error error => .error error
      | .ok value => .ok (value, rest)
  | none =>
      match readWord chars words with
      | none => .error .decode
      | some read => .ok read

/-- `dict(pairs)`: a later value replaces an earlier one of its key. -/
def dictOf (pairs : List (String × Json)) : Dict :=
  pairs.foldl (fun fields pair => upsertRows pair.1 pair.2 fields) []

def recursionText (kind : String) : String :=
  "maximum recursion depth exceeded while decoding a JSON " ++ kind ++ " from a unicode string"

section Values

variable (lone : Option Char)

mutual

/-- The value at the front of a text. Lists and objects may be nested in it
`depth` times. -/
def readValue : Nat → Nat → List Char → Except LoadError (Json × List Char)
  | 0, _, _ => .error .decode
  | _ + 1, _, [] => .error .decode
  | fuel + 1, depth, char :: rest =>
      if char = '"' then
        match readChars lone fuel rest with
        | none => .error .decode
        | some (chars, rest) => .ok (.str (String.ofList chars), rest)
      else if char = '[' then
        match depth with
        | 0 => .error (.other (recursionText "array"))
        | depth + 1 =>
            match afterWord [']'] (skipSpace rest) with
            | some rest => .ok (.list [], rest)
            | none =>
                match readElements fuel depth (skipSpace rest) with
                | .error error => .error error
                | .ok (items, rest) => .ok (.list items, rest)
      else if char = '{' then
        match depth with
        | 0 => .error (.other (recursionText "object"))
        | depth + 1 =>
            match afterWord ['}'] (skipSpace rest) with
            | some rest => .ok (.dict [], rest)
            | none =>
                match readMembers fuel depth (skipSpace rest) with
                | .error error => .error error
                | .ok (pairs, rest) => .ok (.dict (dictOf pairs), rest)
      else readScalar (char :: rest)

/-- The elements of a list from the next one on, and its closing bracket. -/
def readElements : Nat → Nat → List Char → Except LoadError (List Json × List Char)
  | 0, _, _ => .error .decode
  | fuel + 1, depth, chars =>
      match readValue fuel depth chars with
      | .error error => .error error
      | .ok (value, rest) =>
          match afterWord [']'] (skipSpace rest) with
          | some rest => .ok ([value], rest)
          | none =>
              match afterWord [','] (skipSpace rest) with
              | none => .error .decode
              | some rest =>
                  match readElements fuel depth (skipSpace rest) with
                  | .error error => .error error
                  | .ok (items, rest) => .ok (value :: items, rest)

/-- The members of an object from the next one on, and its closing brace. -/
def readMembers : Nat → Nat → List Char → Except LoadError (List (String × Json) × List Char)
  | 0, _, _ => .error .decode
  | fuel + 1, depth, chars =>
      match (afterWord ['"'] chars).bind (readChars lone fuel) with
      | none => .error .decode
      | some (name, rest) =>
          match afterWord [':'] (skipSpace rest) with
          | none => .error .decode
          | some rest =>
              match readValue fuel depth (skipSpace rest) with
              | .error error => .error error
              | .ok (value, rest) =>
                  match afterWord ['}'] (skipSpace rest) with
                  | some rest => .ok ([(String.ofList name, value)], rest)
                  | none =>
                      match afterWord [','] (skipSpace rest) with
                      | none => .error .decode
                      | some rest =>
                          match readMembers fuel depth (skipSpace rest) with
                          | .error error => .error error
                          | .ok (pairs, rest) => .ok ((String.ofList name, value) :: pairs, rest)

end

/-! ### What a reader has read -/

/-- How `readValue` comes to a value. -/
inductive ValueRead (fuel : Nat) : Nat → List Char → Json → List Char → Prop where
  | str {depth : Nat} {tail own rest : List Char}
      (read : readChars lone fuel tail = some (own, rest)) :
      ValueRead fuel depth ('"' :: tail) (.str (String.ofList own)) rest
  | emptyList {depth : Nat} {tail rest : List Char}
      (closed : afterWord [']'] (skipSpace tail) = some rest) :
      ValueRead fuel (depth + 1) ('[' :: tail) (.list []) rest
  | list {depth : Nat} {tail rest : List Char} {items : List Json}
      (read : readElements lone fuel depth (skipSpace tail) = .ok (items, rest)) :
      ValueRead fuel (depth + 1) ('[' :: tail) (.list items) rest
  | emptyDict {depth : Nat} {tail rest : List Char}
      (closed : afterWord ['}'] (skipSpace tail) = some rest) :
      ValueRead fuel (depth + 1) ('{' :: tail) (.dict []) rest
  | dict {depth : Nat} {tail rest : List Char} {pairs : List (String × Json)}
      (read : readMembers lone fuel depth (skipSpace tail) = .ok (pairs, rest)) :
      ValueRead fuel (depth + 1) ('{' :: tail) (.dict (dictOf pairs)) rest
  | scalar {depth : Nat} {chars rest : List Char} {value : Json}
      (read : readScalar chars = .ok (value, rest)) : ValueRead fuel depth chars value rest

/-- How `readElements` comes to the elements of a list. -/
inductive ElementsRead (fuel depth : Nat) : List Char → List Json → List Char → Prop where
  | last {chars after rest : List Char} {value : Json}
      (head : readValue lone fuel depth chars = .ok (value, after))
      (closed : afterWord [']'] (skipSpace after) = some rest) :
      ElementsRead fuel depth chars [value] rest
  | cons {chars after later rest : List Char} {value : Json} {items : List Json}
      (head : readValue lone fuel depth chars = .ok (value, after))
      (comma : afterWord [','] (skipSpace after) = some later)
      (others : readElements lone fuel depth (skipSpace later) = .ok (items, rest)) :
      ElementsRead fuel depth chars (value :: items) rest

/-- How the next member of an object is read. -/
structure MemberRead (fuel depth : Nat) (chars : List Char) (name : List Char) (value : Json)
    (after : List Char) : Prop where
  reads : ∃ source afterName afterColon, afterWord ['"'] chars = some source ∧
    readChars lone fuel source = some (name, afterName) ∧
      afterWord [':'] (skipSpace afterName) = some afterColon ∧
        readValue lone fuel depth (skipSpace afterColon) = .ok (value, after)

/-- How `readMembers` comes to the members of an object. -/
inductive MembersRead (fuel depth : Nat) :
    List Char → List (String × Json) → List Char → Prop where
  | last {chars name after rest : List Char} {value : Json}
      (head : MemberRead lone fuel depth chars name value after)
      (closed : afterWord ['}'] (skipSpace after) = some rest) :
      MembersRead fuel depth chars [(String.ofList name, value)] rest
  | cons {chars name after later rest : List Char} {value : Json} {pairs : List (String × Json)}
      (head : MemberRead lone fuel depth chars name value after)
      (comma : afterWord [','] (skipSpace after) = some later)
      (others : readMembers lone fuel depth (skipSpace later) = .ok (pairs, rest)) :
      MembersRead fuel depth chars ((String.ofList name, value) :: pairs) rest

variable {lone} {fuel depth : Nat} {chars rest : List Char}

theorem valueRead_of_readValue {value : Json}
    (read : readValue lone (fuel + 1) depth chars = .ok (value, rest)) :
    ValueRead lone fuel depth chars value rest := by
  cases chars with
  | nil =>
      rw [readValue] at read
      cases read
  | cons char tail =>
      rw [readValue.eq_def] at read
      dsimp only at read
      split_ifs at read with quote bracket brace
      · subst quote
        split at read
        · cases read
        · rename_i own after isOwn
          cases read
          exact .str isOwn
      · subst bracket
        split at read
        · cases read
        · split at read
          · rename_i after isClosed
            cases read
            exact .emptyList isClosed
          · split at read
            · cases read
            · rename_i items after isItems
              cases read
              exact .list isItems
      · subst brace
        split at read
        · cases read
        · split at read
          · rename_i after isClosed
            cases read
            exact .emptyDict isClosed
          · split at read
            · cases read
            · rename_i pairs after isPairs
              cases read
              exact .dict isPairs
      · exact .scalar read

theorem elementsRead_of_readElements {items : List Json}
    (read : readElements lone (fuel + 1) depth chars = .ok (items, rest)) :
    ElementsRead lone fuel depth chars items rest := by
  rw [readElements] at read
  split at read
  · cases read
  · rename_i value after isValue
    split at read
    · rename_i closed isClosed
      cases read
      exact .last isValue isClosed
    · split at read
      · cases read
      · rename_i later isComma
        split at read
        · cases read
        · rename_i others end' isOthers
          cases read
          exact .cons isValue isComma isOthers

theorem membersRead_of_readMembers {pairs : List (String × Json)}
    (read : readMembers lone (fuel + 1) depth chars = .ok (pairs, rest)) :
    MembersRead lone fuel depth chars pairs rest := by
  rw [readMembers] at read
  split at read
  · cases read
  · rename_i name afterName isName
    obtain ⟨source, opened, isOwn⟩ := Option.bind_eq_some_iff.mp isName
    split at read
    · cases read
    · rename_i afterColon isColon
      split at read
      · cases read
      · rename_i value after isValue
        have head : MemberRead lone fuel depth chars name value after :=
          ⟨source, afterName, afterColon, opened, isOwn, isColon, isValue⟩
        split at read
        · rename_i closed isClosed
          cases read
          exact .last head isClosed
        · split at read
          · cases read
          · rename_i later isComma
            split at read
            · cases read
            · rename_i others end' isOthers
              cases read
              exact .cons head isComma isOthers

variable (lone)

/-- The value of a whole text. No value needs more fuel than twice its text. -/
def readWhole (depth : Nat) (source : String) : Except LoadError Json :=
  let chars := skipSpace source.toList
  match readValue lone (2 * chars.length) depth chars with
  | .error error => .error error
  | .ok (value, rest) => if skipSpace rest = [] then .ok value else .error .decode

end Values

/-- `json.loads`, where the interpreter lets values nest `depth` times. -/
def loads (depth : Nat) (source : String) : Except LoadError Json :=
  readWhole (some '\ufffd') depth source

/-- No escape of the text that is read stands for half of a surrogate pair: to
refuse such escapes makes no difference. -/
def Paired (depth : Nat) (source : String) : Prop :=
  readWhole none depth source = loads depth source

/-- `json.loads` and `json.dumps` of the interpreter. -/
def jsonCodec (depth : Nat) : JsonCodec := ⟨loads depth, dumps⟩

end AutoRouteGateway.Runtime
