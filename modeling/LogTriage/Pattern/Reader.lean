import LogTriage.Pattern.Tree
import LogTriage.Text
import LogTriage.Unicode.Category

/-! # Reading patterns

The grammar of pattern sources. Without the `u` flag it is lenient: a bracket or an escape that means
nothing stands for itself. With it the source is read by code points, and whatever is not defined is
refused. The first fault from the left is reported; a reference to a name that no group bears is found
only when everything else is in order.
-/

namespace LogTriage.Pattern

set_option autoImplicit false

open Text (charOf isDigit)

inductive Fault where
  | unterminatedGroup
  | unmatchedParenthesis
  | unterminatedClass
  | escapeAtEnd
  | nothingToRepeat
  | invalidGroup
  | countsOutOfOrder
  | spanOutOfOrder
  | invalidClass
  | invalidGroupName
  | duplicateGroupName
  | invalidReference
  | unknownReference
  | invalidQuantifier
  | loneBracket
  | incompleteQuantifier
  | invalidEscape
  | invalidDecimalEscape
  | invalidClassEscape
  | invalidUnicodeEscape
  | invalidProperty
  | invalidClassProperty
  deriving DecidableEq, Repr

namespace Fault

def reason : Fault → String
  | unterminatedGroup => "Unterminated group"
  | unmatchedParenthesis => "Unmatched ')'"
  | unterminatedClass => "Unterminated character class"
  | escapeAtEnd => "\\ at end of pattern"
  | nothingToRepeat => "Nothing to repeat"
  | invalidGroup => "Invalid group"
  | countsOutOfOrder => "numbers out of order in \x7b\x7d quantifier"
  | spanOutOfOrder => "Range out of order in character class"
  | invalidClass => "Invalid character class"
  | invalidGroupName => "Invalid capture group name"
  | duplicateGroupName => "Duplicate capture group name"
  | invalidReference => "Invalid named reference"
  | unknownReference => "Invalid named capture referenced"
  | invalidQuantifier => "Invalid quantifier"
  | loneBracket => "Lone quantifier brackets"
  | incompleteQuantifier => "Incomplete quantifier"
  | invalidEscape => "Invalid escape"
  | invalidDecimalEscape => "Invalid decimal escape"
  | invalidClassEscape => "Invalid class escape"
  | invalidUnicodeEscape => "Invalid Unicode escape"
  | invalidProperty => "Invalid property name"
  | invalidClassProperty => "Invalid property name in character class"

end Fault

namespace Reader

/-- The next character: a code point where pairs are read as one, a unit otherwise. -/
def nextChar (wide : Bool) : Text → Option (Nat × Text)
  | [] => none
  | [u] => some (u.toNat, [])
  | u :: v :: rest =>
    if wide && Text.isHigh u && Text.isLow v then some (Text.joinPair u v, rest)
    else some (u.toNat, v :: rest)

def skip (mark : Char) : Text → Option Text
  | u :: rest => if charOf u == mark then some rest else none
  | [] => none

def digitsEnd (t : Text) : Text := t.dropWhile isDigit

/-! ## Escapes -/

def hexNumber : Nat → Nat → Text → Option (Nat × Text)
  | 0, n, t => some (n, t)
  | count + 1, n, u :: rest =>
    match Text.hexValue? u with
    | some d => hexNumber count (16 * n + d) rest
    | none => none
  | _ + 1, _, [] => none

/-- A code point between braces, of any number of digits. -/
def bracedCodePoint (t : Text) : Option (Nat × Text) :=
  let digits := t.takeWhile fun u => (Text.hexValue? u).isSome
  match digits, skip '}' (t.drop digits.length) with
  | [], _ => none
  | _, none => none
  | _, some rest =>
    let n := digits.foldl (fun n u => 16 * n + (Text.hexValue? u).getD 0) 0
    if n ≤ 0x10FFFF then some (n, rest) else none

/-- What follows `\u`. Read by code points, two escaped halves of a pair are one character. -/
def unicodeEscape (wide : Bool) (t : Text) : Option (Nat × Text) :=
  match wide, skip '{' t with
  | true, some rest => bracedCodePoint rest
  | _, _ =>
    match hexNumber 4 0 t with
    | none => none
    | some (n, rest) =>
      let high := n.toUInt16
      if wide && Text.isHigh high then
        match (skip '\\' rest).bind (skip 'u') with
        | some after =>
          match hexNumber 4 0 after with
          | some (m, after) =>
            if Text.isLow m.toUInt16 then some (Text.joinPair high m.toUInt16, after)
            else some (n, rest)
          | none => some (n, rest)
        | none => some (n, rest)
      else some (n, rest)

def octalDigit? : Text → Option (Nat × Text)
  | u :: rest => if 0x30 ≤ u && u ≤ 0x37 then some (u.toNat - 0x30, rest) else none
  | [] => none

/-- Up to three octal digits with a value below 256. -/
def octalNumber (t : Text) : Nat × Text :=
  match octalDigit? t with
  | none => (0, t)
  | some (a, t) =>
    match octalDigit? t with
    | none => (a, t)
    | some (b, t) =>
      let n := 8 * a + b
      if n < 32 then
        match octalDigit? t with
        | none => (n, t)
        | some (c, t) => (8 * n + c, t)
      else (n, t)

def isSyntaxChar (c : Char) : Bool :=
  ['^', '$', '\\', '.', '*', '+', '?', '(', ')', '[', ']', '\x7b', '\x7d', '|', '/'].contains c

def isLetter (c : Char) : Bool := c.isUpper || c.isLower

structure Context where
  unicode : Bool
  /-- The groups of the source in order, each with its name. -/
  groups : List (Option Text)

def Context.hasNames (ctx : Context) : Bool := ctx.groups.any (·.isSome)

/-- A control character named after `\c`, or the backslash alone. -/
def controlEscape (ctx : Context) (inClass : Bool) (mark : CodeUnit) (t : Text) :
    Except Fault (Nat × Text) :=
  let alone : Except Fault (Nat × Text) :=
    if ctx.unicode then .error .invalidUnicodeEscape else .ok (0x5C, mark :: t)
  match t with
  | [] => alone
  | u :: rest =>
    let c := charOf u
    if isLetter c || (inClass && !ctx.unicode && (isDigit u || c == '_')) then
      .ok (u.toNat % 0x20, rest)
    else alone

/-- The character that an escape stands for; `t` begins after the backslash. -/
def charEscape (ctx : Context) (inClass : Bool) (t : Text) : Except Fault (Nat × Text) :=
  match t with
  | [] => .error .escapeAtEnd
  | u :: rest =>
    match charOf u with
    | 'f' => .ok (0x0C, rest)
    | 'n' => .ok (0x0A, rest)
    | 'r' => .ok (0x0D, rest)
    | 't' => .ok (0x09, rest)
    | 'v' => .ok (0x0B, rest)
    | 'c' => controlEscape ctx inClass u rest
    | '0' =>
      if (rest.head?.map isDigit).getD false then
        if ctx.unicode then .error .invalidClassEscape else .ok (octalNumber t)
      else .ok (0, rest)
    | '1' | '2' | '3' | '4' | '5' | '6' | '7' =>
      if ctx.unicode then .error .invalidClassEscape else .ok (octalNumber t)
    | 'x' =>
      match hexNumber 2 0 rest with
      | some found => .ok found
      | none => if ctx.unicode then .error .invalidEscape else .ok (u.toNat, rest)
    | 'u' =>
      match unicodeEscape ctx.unicode rest with
      | some found => .ok found
      | none => if ctx.unicode then .error .invalidUnicodeEscape else .ok (u.toNat, rest)
    | c =>
      if ctx.unicode then
        if isSyntaxChar c || (inClass && c == '-') then .ok (u.toNat, rest)
        else .error .invalidEscape
      else if c == 'k' && ctx.hasNames then .error .invalidEscape
      else .ok (u.toNat, rest)

def shorthand? (c : Char) : Option ClassItem :=
  match c with
  | 'd' => some (.shorthand .digit false)
  | 'D' => some (.shorthand .digit true)
  | 's' => some (.shorthand .space false)
  | 'S' => some (.shorthand .space true)
  | 'w' => some (.shorthand .word false)
  | 'W' => some (.shorthand .word true)
  | _ => none

def generalCategories : List (String × Property) :=
  [("L", .letter), ("Letter", .letter), ("Lu", .uppercase), ("Uppercase_Letter", .uppercase),
    ("Ll", .lowercase), ("Lowercase_Letter", .lowercase), ("Nd", .decimalDigit),
    ("Decimal_Number", .decimalDigit), ("digit", .decimalDigit)]

def binaryProperties : List (String × Property) := [("Any", .any), ("ASCII", .ascii)]

/-- General categories may be named alone or as values of their property. -/
def property : Text → Option Property :=
  let named (mark : String) (entries : List (String × Property)) :=
    entries.map fun entry => (Text.ofString (mark ++ entry.1), entry.2)
  let table := named "" binaryProperties ++ named "" generalCategories ++
    named "gc=" generalCategories ++ named "General_Category=" generalCategories
  fun name => table.lookup name

def property? (t : Text) : Option (Property × Text) :=
  match skip '{' t with
  | none => none
  | some rest =>
    let name := rest.takeWhile fun u => charOf u != '}'
    match property name, skip '}' (rest.drop name.length) with
    | some p, some rest => some (p, rest)
    | _, _ => none

/-! ## Group names -/

def isNameStart (c : Nat) : Bool :=
  c == 0x24 || c == 0x5F || Unicode.Category.isNameStart c

def isNamePart (c : Nat) : Bool :=
  c == 0x24 || c == 0x5F || c == 0x200C || c == 0x200D || Unicode.Category.isNamePart c

/-- One character of a name, which may be escaped. Names are read by code points always. -/
def nameChar (t : Text) : Except Fault (Nat × Text) :=
  match (skip '\\' t).bind (skip 'u') with
  | some rest =>
    match unicodeEscape true rest with
    | some (c, rest) => if c == 0x5C then .error .invalidGroupName else .ok (c, rest)
    | none => .error .invalidUnicodeEscape
  | none =>
    match nextChar true t with
    | some (c, rest) => if c == 0x5C then .error .invalidGroupName else .ok (c, rest)
    | none => .error .invalidGroupName

/-- The rest of a name up to its closing bracket; `fuel` is at least the length of the text. -/
def nameRest : Nat → Text → Text → Except Fault (Text × Text)
  | 0, _, _ => .error .invalidGroupName
  | fuel + 1, name, t =>
    match nameChar t with
    | .error fault => .error fault
    | .ok (c, rest) =>
      if c == 0x3E then .ok (name, rest)
      else if isNamePart c then nameRest fuel (name ++ Text.ofCodePoint c) rest
      else .error .invalidGroupName

def groupName (t : Text) : Except Fault (Text × Text) :=
  match nameChar t with
  | .error fault => .error fault
  | .ok (c, rest) =>
    if isNameStart c then nameRest t.length (Text.ofCodePoint c) rest
    else .error .invalidGroupName

/-- Whether a parenthesis opens a group, judged by what follows it, and the group's name. -/
def groupAhead (t : Text) : Option (Option Text) :=
  match skip '?' t with
  | none => some none
  | some rest =>
    match skip '<' rest with
    | none => none
    | some rest =>
      if (skip '=' rest).isSome || (skip '!' rest).isSome then none
      else match groupName rest with
        | .ok (name, _) => some (some name)
        | .error _ => some none

/-- All groups of a source, in order, found without reading it in full. -/
def groupsAhead : Bool → Text → List (Option Text)
  | _, [] => []
  | inClass, u :: rest =>
    match charOf u with
    | '\\' =>
      match rest with
      | [] => []
      | _ :: rest => groupsAhead inClass rest
    | '[' => groupsAhead true rest
    | ']' => groupsAhead false rest
    | '(' =>
      if inClass then groupsAhead inClass rest
      else match groupAhead rest with
        | some name => name :: groupsAhead inClass rest
        | none => groupsAhead inClass rest
    | _ => groupsAhead inClass rest

/-! ## Character classes -/

/-- A member of a class is one character or a set. -/
inductive ClassAtom where
  | one (c : Nat)
  | set (item : ClassItem)

def ClassAtom.item : ClassAtom → ClassItem
  | .one c => .span c c
  | .set item => item

/-- An escape within a class; `t` begins after the backslash. -/
def classEscape (ctx : Context) (t : Text) : Except Fault (ClassAtom × Text) :=
  match t with
  | [] => .error .escapeAtEnd
  | u :: rest =>
    let c := charOf u
    match shorthand? c with
    | some item => .ok (.set item, rest)
    | none =>
      if c == 'b' then .ok (.one 0x08, rest)
      else if ctx.unicode && (c == 'p' || c == 'P') then
        match property? rest with
        | some (p, rest) => .ok (.set (.property p (c == 'P')), rest)
        | none => .error .invalidClassProperty
      else (charEscape ctx true t).map fun found => (.one found.1, found.2)

def classAtom (ctx : Context) (t : Text) : Except Fault (ClassAtom × Text) :=
  match skip '\\' t with
  | some rest => classEscape ctx rest
  | none =>
    match nextChar ctx.unicode t with
    | some (c, rest) => .ok (.one c, rest)
    | none => .error .unterminatedClass

def hyphen : ClassItem := .span 0x2D 0x2D

/-- The items that two members with a hyphen between them add: a span, or all three as they stand
where one of the members is a set. -/
def spanItems (ctx : Context) : ClassAtom → ClassAtom → Except Fault (List ClassItem)
  | .one low, .one high => if high < low then .error .spanOutOfOrder else .ok [.span low high]
  | a, b => if ctx.unicode then .error .invalidClass else .ok [a.item, hyphen, b.item]

/-- The items up to the closing bracket; `fuel` is more than the length of the text. -/
def classItems (ctx : Context) : Nat → List ClassItem → Text →
    Except Fault (List ClassItem × Text)
  | 0, _, _ => .error .unterminatedClass
  | fuel + 1, items, t =>
    match skip ']' t with
    | some rest => .ok (items, rest)
    | none => do
      let (a, rest) ← classAtom ctx t
      match skip '-' rest with
      | none => classItems ctx fuel (items ++ [a.item]) rest
      | some after =>
        match skip ']' after with
        | some rest => .ok (items ++ [a.item, hyphen], rest)
        | none => do
          let (b, rest) ← classAtom ctx after
          let added ← spanItems ctx a b
          classItems ctx fuel (items ++ added) rest

def charClass (ctx : Context) (t : Text) : Except Fault (CharTest × Text) :=
  let (negated, t) := match skip '^' t with
    | some rest => (true, rest)
    | none => (false, t)
  (classItems ctx (t.length + 1) [] t).map fun found => (.oneOf negated found.1, found.2)

/-! ## Quantifiers -/

/-- Counts beyond this one are as good as infinite. -/
def endless : Nat := 2147483647

def count (digits : Text) : Nat := min (Text.decimalValue digits) endless

def bound (n : Nat) : Option Nat := if n = endless then none else some n

def counts? (t : Text) : Option (Nat × Nat × Text) :=
  match t.takeWhile isDigit with
  | [] => none
  | digits =>
    let least := count digits
    let rest := digitsEnd t
    match skip '}' rest with
    | some rest => some (least, least, rest)
    | none =>
      match skip ',' rest with
      | none => none
      | some rest =>
        match skip '}' rest with
        | some rest => some (least, endless, rest)
        | none =>
          (skip '}' (digitsEnd rest)).map fun after => (least, count (rest.takeWhile isDigit), after)

def quantifier? (ctx : Context) (t : Text) : Except Fault (Option (Nat × Option Nat × Text)) :=
  match t with
  | [] => .ok none
  | u :: rest =>
    match charOf u with
    | '*' => .ok (some (0, none, rest))
    | '+' => .ok (some (1, none, rest))
    | '?' => .ok (some (0, some 1, rest))
    | '{' =>
      match counts? rest with
      | some (least, most, rest) =>
        if most < least then .error .countsOutOfOrder else .ok (some (least, bound most, rest))
      | none => if ctx.unicode then .error .incompleteQuantifier else .ok none
    | _ => .ok none

/-- `piece` with the quantifier that follows it. A piece that reads nothing is not repeated: it holds
once or is left out. -/
def quantified (ctx : Context) (fixed : Bool) (inner : GroupSpan) (piece : Tree) (t : Text) :
    Except Fault (Tree × Text) := do
  match ← quantifier? ctx t with
  | none => return (piece, t)
  | some (least, most, rest) =>
    let (greedy, rest) := match skip '?' rest with
      | some rest => (false, rest)
      | none => (true, rest)
    if fixed then throw .invalidQuantifier
    if piece.isZeroWidth then return (if least = 0 then .empty else piece, rest)
    return (.repeated piece least most greedy inner, rest)

/-! ## Pieces -/

inductive Opening where
  | capture (name : Option Text)
  | plain
  | look (ahead negated : Bool)

/-- `t` begins after the parenthesis. -/
def opening (t : Text) : Except Fault (Opening × Text) :=
  match skip '?' t with
  | none => .ok (.capture none, t)
  | some rest =>
    match rest with
    | [] => .error .invalidGroup
    | u :: rest =>
      match charOf u with
      | ':' => .ok (.plain, rest)
      | '=' => .ok (.look true false, rest)
      | '!' => .ok (.look true true, rest)
      | '<' =>
        match skip '=' rest with
        | some rest => .ok (.look false false, rest)
        | none =>
          match skip '!' rest with
          | some rest => .ok (.look false true, rest)
          | none => (groupName rest).map fun found => (.capture (some found.1), found.2)
      | _ => .error .invalidGroup

/-- How far the reader has come: groups opened, names of the groups that are closed, and whether a
name was asked for that no group bears. -/
structure Progress where
  opened : Nat := 0
  names : List Text := []
  dangling : Bool := false

/-- Alternatives and pieces read so far, the last one first. -/
structure Draft where
  alternatives : List Tree := []
  pieces : List Tree := []

def Draft.add (d : Draft) (piece : Tree) : Draft := { d with pieces := piece :: d.pieces }

def Draft.close (d : Draft) : Draft :=
  { alternatives := Tree.ofPieces d.pieces.reverse :: d.alternatives, pieces := [] }

def Draft.tree (d : Draft) : Tree := Tree.ofAlternatives d.close.alternatives.reverse

def closeGroup (kind : Opening) (index : Nat) (body : Tree) (p : Progress) :
    Except Fault (Tree × Progress) :=
  match kind with
  | .capture none => .ok (.group index body, p)
  | .capture (some name) =>
    if p.names.contains name then .error .duplicateGroupName
    else .ok (.group index body, { p with names := name :: p.names })
  | .plain => .ok (body, p)
  | .look ahead negated => .ok (.look ahead negated body, p)

/-- The group that a number after a backslash refers to. -/
def numbered? (ctx : Context) (t : Text) : Option (Nat × Text) :=
  let n := Text.decimalValue (t.takeWhile isDigit)
  if 1 ≤ n ∧ n ≤ ctx.groups.length then some (n - 1, digitsEnd t) else none

def namedReference (ctx : Context) (p : Progress) (t : Text) :
    Except Fault (Tree × Progress × Text) :=
  match skip '<' t with
  | none => .error .invalidReference
  | some rest => do
    let (name, rest) ← groupName rest
    match ctx.groups.idxOf? (some name) with
    | some index => return (.reference index, p, rest)
    | none => return (.empty, { p with dangling := true }, rest)

/-- An escape outside a class; `t` begins after the backslash. The flag tells whether the piece may
be quantified. -/
def escape (ctx : Context) (p : Progress) (t : Text) :
    Except Fault (Tree × Bool × Progress × Text) :=
  let character : Except Fault (Tree × Bool × Progress × Text) := do
    let (c, rest) ← charEscape ctx false t
    return (.char (.literal c), true, p, rest)
  match t with
  | [] => .error .escapeAtEnd
  | u :: rest =>
    let c := charOf u
    match shorthand? c with
    | some item => .ok (.char (.oneOf false [item]), true, p, rest)
    | none =>
      if c == 'b' || c == 'B' then .ok (.assertion (.boundary (c == 'B')), false, p, rest)
      else if c == '0' then
        if ctx.unicode && (rest.head?.map isDigit).getD false then .error .invalidDecimalEscape
        else character
      else if isDigit u then
        match numbered? ctx t with
        | some (index, rest) => .ok (.reference index, true, p, rest)
        | none => if ctx.unicode then .error .invalidEscape else character
      else if ctx.unicode && (c == 'p' || c == 'P') then
        match property? rest with
        | some (kind, rest) =>
          .ok (.char (.oneOf false [.property kind (c == 'P')]), true, p, rest)
        | none => .error .invalidProperty
      else if c == 'k' && (ctx.unicode || ctx.hasNames) then do
        let (tree, p, rest) ← namedReference ctx p rest
        return (tree, true, p, rest)
      else character

/-- A character that stands for itself; the brackets do so only without the `u` flag. -/
def plainChar (ctx : Context) (t : Text) : Except Fault (Tree × Text) :=
  match t with
  | [] => .error .nothingToRepeat
  | u :: rest =>
    let c := charOf u
    if c == '{' && (counts? rest).isSome then .error .nothingToRepeat
    else if ctx.unicode && (c == '{' || c == '}' || c == ']') then .error .loneBracket
    else match nextChar ctx.unicode t with
      | some (c, rest) => .ok (.char (.literal c), rest)
      | none => .error .nothingToRepeat

/-- Pieces and alternatives up to the end of the group they stand in, or of the source. `fuel` is more
than the length of the text. -/
def pieces (ctx : Context) : Nat → Bool → Draft → Progress → Text →
    Except Fault (Tree × Progress × Text)
  | 0, _, _, _, _ => .error .nothingToRepeat
  | fuel + 1, nested, draft, p, t =>
    match t with
    | [] => if nested then .error .unterminatedGroup else .ok (draft.tree, p, [])
    | u :: rest =>
      match charOf u with
      | ')' => if nested then .ok (draft.tree, p, rest) else .error .unmatchedParenthesis
      | '|' => pieces ctx fuel nested draft.close p rest
      | '*' | '+' | '?' => .error .nothingToRepeat
      | '^' => pieces ctx fuel nested (draft.add (.assertion .start)) p rest
      | '$' => pieces ctx fuel nested (draft.add (.assertion .stop)) p rest
      | '(' => do
        let (kind, rest) ← opening rest
        let index := p.opened
        let opened := match kind with
          | .capture _ => index + 1
          | _ => index
        let (body, q, rest) ← pieces ctx fuel true {} { p with opened := opened } rest
        let (piece, q) ← closeGroup kind index body q
        let fixed := match kind with
          | .look ahead _ => ctx.unicode || !ahead
          | _ => false
        let (piece, rest) ← quantified ctx fixed ⟨index, q.opened - index⟩ piece rest
        pieces ctx fuel nested (draft.add piece) q rest
      | '[' => do
        let (test, rest) ← charClass ctx rest
        let (piece, rest) ← quantified ctx false ⟨p.opened, 0⟩ (.char test) rest
        pieces ctx fuel nested (draft.add piece) p rest
      | '.' => do
        let (piece, rest) ← quantified ctx false ⟨p.opened, 0⟩ (.char .anyChar) rest
        pieces ctx fuel nested (draft.add piece) p rest
      | '\\' => do
        let (piece, quantifiable, p, rest) ← escape ctx p rest
        if quantifiable then
          let (piece, rest) ← quantified ctx false ⟨p.opened, 0⟩ piece rest
          pieces ctx fuel nested (draft.add piece) p rest
        else pieces ctx fuel nested (draft.add piece) p rest
      | _ => do
        let (piece, rest) ← plainChar ctx t
        let (piece, rest) ← quantified ctx false ⟨p.opened, 0⟩ piece rest
        pieces ctx fuel nested (draft.add piece) p rest

def read (unicode : Bool) (source : Text) : Except Fault (Tree × Nat) := do
  let ctx : Context := ⟨unicode, groupsAhead false source⟩
  let (tree, p, _) ← pieces ctx (source.length + 1) false {} {} source
  if p.dangling then throw .unknownReference
  return (tree, p.opened)

end Reader
end LogTriage.Pattern
