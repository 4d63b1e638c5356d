import LogTriage.Json
import LogTriage.Number.Numeral
import LogTriage.Text.Quoted

/-! # Reading JSON

The strict grammar: no comments, no trailing commas, no leading zeros or plus signs, and nothing but
the four plain blanks between tokens. Of two fields with one key the later counts.
-/

namespace LogTriage.Json

namespace Reader

set_option autoImplicit false

open Text (isDigit charOf)

def isSpace (u : CodeUnit) : Bool := u == 0x20 || u == 0x09 || u == 0x0A || u == 0x0D

def skipSpace (t : Text) : Text := t.dropWhile isSpace

/-- What a backslash and one letter stand for. -/
def escaped (c : Char) : Option CodeUnit :=
  match c with
  | '"' => some 0x22
  | '\\' => some 0x5C
  | '/' => some 0x2F
  | 'b' => some 0x08
  | 'f' => some 0x0C
  | 'n' => some 0x0A
  | 'r' => some 0x0D
  | 't' => some 0x09
  | _ => none

def hexUnit (a b c d : CodeUnit) : Option CodeUnit :=
  match Text.hexValue? a, Text.hexValue? b, Text.hexValue? c, Text.hexValue? d with
  | some a, some b, some c, some d => some (((a * 16 + b) * 16 + c) * 16 + d).toUInt16
  | _, _, _, _ => none

/-- The units of a quoted text up to its closing quote, and what follows the quote. -/
def quoted : Text → Option (Text × Text)
  | [] => none
  | u :: rest =>
    if u == Text.Quoted.quote then some ([], rest)
    else if u == Text.Quoted.backslash then
      match rest with
      | [] => none
      | e :: rest =>
        if charOf e == 'u' then
          match rest with
          | a :: b :: c :: d :: rest =>
            match hexUnit a b c d with
            | some w => (quoted rest).map fun r => (w :: r.1, r.2)
            | none => none
          | _ => none
        else
          match escaped (charOf e) with
          | some w => (quoted rest).map fun r => (w :: r.1, r.2)
          | none => none
    else if u < 0x20 then none
    else (quoted rest).map fun r => (u :: r.1, r.2)

/-- The fraction of a numeral; a point needs a digit after it. -/
def fraction (t : Text) : Option (Text × Text) :=
  match t with
  | u :: rest =>
    if charOf u == '.' then
      match rest.takeWhile isDigit with
      | [] => none
      | digits => some (digits, rest.dropWhile isDigit)
    else some ([], t)
  | [] => some ([], t)

def unsigned (negative : Bool) (t : Text) : Option (Json × Text) :=
  match t.takeWhile isDigit with
  | [] => none
  | d :: more =>
    if charOf d == '0' && !more.isEmpty then none
    else do
      let (part, rest) ← fraction (t.dropWhile isDigit)
      let (e, rest) ← Number.Numeral.exponent rest
      let parts : Number.Numeral.Parts := ⟨d :: more, part, e⟩
      return (.number (parts.number negative), rest)

def number (t : Text) : Option (Json × Text) :=
  match t with
  | u :: rest => if charOf u == '-' then unsigned true rest else unsigned false t
  | [] => none

def scalar (t : Text) : Option (Json × Text) :=
  match Text.dropToken (Text.ofString "true") t with
  | some rest => some (.bool true, rest)
  | none => match Text.dropToken (Text.ofString "false") t with
    | some rest => some (.bool false, rest)
    | none => match Text.dropToken (Text.ofString "null") t with
      | some rest => some (.null, rest)
      | none => number t

/-- The unit at the head of `t` after blanks, if it is the one asked for. -/
def skipMark (mark : Char) (t : Text) : Option Text :=
  match skipSpace t with
  | u :: rest => if charOf u == mark then some rest else none
  | [] => none

mutual

/-- Every call but the one from a list or object to its first value leaves fewer units to read, so
twice the length of the text is fuel enough. -/
def value : Nat → Text → Option (Json × Text)
  | 0, _ => none
  | fuel + 1, t =>
    match skipSpace t with
    | [] => none
    | u :: rest =>
      match charOf u with
      | '"' => (quoted rest).map fun r => (.text r.1, r.2)
      | '[' => match skipMark ']' rest with
        | some rest => some (.list [], rest)
        | none => items fuel [] rest
      | '{' => match skipMark '}' rest with
        | some rest => some (.object [], rest)
        | none => members fuel [] rest
      | _ => scalar (u :: rest)

/-- The values of a list; those before are in `done`, last one first. -/
def items : Nat → List Json → Text → Option (Json × Text)
  | 0, _, _ => none
  | fuel + 1, done, t =>
    match value fuel t with
    | none => none
    | some (item, rest) =>
      match skipMark ',' rest with
      | some rest => items fuel (item :: done) rest
      | none => (skipMark ']' rest).map fun rest => (.list (item :: done).reverse, rest)

def members : Nat → Fields → Text → Option (Json × Text)
  | 0, _, _ => none
  | fuel + 1, done, t =>
    match (skipMark '"' t).bind quoted with
    | none => none
    | some (key, rest) =>
      match (skipMark ':' rest).bind (value fuel) with
      | none => none
      | some (item, rest) =>
        let done := done.put key item
        match skipMark ',' rest with
        | some rest => members fuel done rest
        | none => (skipMark '}' rest).map fun rest => (.object done, rest)

end

end Reader

def parse? (t : Text) : Option Json :=
  match Reader.value (2 * t.length + 2) t with
  | some (j, rest) => if Reader.skipSpace rest = [] then some j else none
  | none => none

end LogTriage.Json
