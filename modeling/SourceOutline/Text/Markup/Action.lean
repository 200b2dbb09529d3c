import SourceOutline.Text.Blank
import SourceOutline.Text.Printable
import SourceOutline.Text.Quoted
import SourceOutline.Text.Split
import SourceOutline.Text.Word

/-!
# Actions of tags

A tag whose name begins with `@` names a handler and may give it values between
parentheses, as in `[@click=open('readme', 2)]`.  The values are constants:
numbers, texts, the three constant names, and groups of them.  They are read
when the tag is closed.  A text is divided into tokens first, and a fault of a
token goes before a fault of their order, wherever it stands.

The order of the tokens is checked from left to right, with the brackets that
are open at hand: at every place either an operand or an operator may stand.
Keywords make expressions that are no constants, so they are not read at all.
-/

namespace SourceOutline
namespace Markup
namespace Action

inductive Fault where
  | invalid
  | forgottenComma
  | assignedName
  | assignedConstant
  | neverClosed (bracket : Char)
  | unmatched (bracket : Char)
  | mismatched (closing opening : Char)
  | endlessText (line : Nat)
  | endlessBlock (line : Nat)
  /-- A number of a kind does not end where it should. -/
  | badNumber (kind : String)
  | badDigit (digit : Char) (kind : String)
  | leadingZeros
  | mixedTexts
  | foreignBytes
  | strayBackslash
  | badCharacter (c : Char)
  | hiddenCharacter (c : Char)
  /-- The values can be read, but they are no constants. -/
  | notConstant
  deriving DecidableEq, Repr

def codePoint (c : Char) : String :=
  "U+" ++ (String.ofList (Text.hexDigits 4 c.toNat)).toUpper

namespace Fault

def message : Fault → String
  | invalid => "invalid syntax"
  | forgottenComma => "invalid syntax. Perhaps you forgot a comma?"
  | assignedName => "invalid syntax. Maybe you meant '==' or ':=' instead of '='?"
  | assignedConstant => "cannot assign to literal here. Maybe you meant '==' instead of '='?"
  | neverClosed bracket => "'" ++ bracket.toString ++ "' was never closed"
  | unmatched bracket => "unmatched '" ++ bracket.toString ++ "'"
  | mismatched closing opening =>
      "closing parenthesis '" ++ closing.toString ++ "' does not match opening parenthesis '" ++
        opening.toString ++ "'"
  | endlessText line =>
      "unterminated string literal (detected at line " ++ toString line ++ ")"
  | endlessBlock line =>
      "unterminated triple-quoted string literal (detected at line " ++ toString line ++ ")"
  | badNumber kind => "invalid " ++ kind ++ " literal"
  | badDigit digit kind => "invalid digit '" ++ digit.toString ++ "' in " ++ kind ++ " literal"
  | leadingZeros =>
      "leading zeros in decimal integer literals are not permitted; " ++
        "use an 0o prefix for octal integers"
  | mixedTexts => "cannot mix bytes and nonbytes literals"
  | foreignBytes => "bytes can only contain ASCII literal characters"
  | strayBackslash => "unexpected character after line continuation character"
  | badCharacter c => "invalid character '" ++ c.toString ++ "' (" ++ codePoint c ++ ")"
  | hiddenCharacter c => "invalid non-printable character " ++ codePoint c
  | notConstant => "malformed node or string on line 1"

end Fault

/-! ### Tokens -/

inductive Token where
  | number (imaginary : Bool)
  | text (isBytes isAscii : Bool)
  | name (constant : Bool)
  | keyword
  /-- A backslash, behind which nothing is read. -/
  | backslash
  | symbol (text : List Char)
  | opening (bracket : Char)
  | closing (bracket : Char)
  deriving DecidableEq, Repr

/-- The beginning of a text: a token, unless it is left out, and how many
characters it has beyond the first. -/
structure Beginning where
  token : Option Token := none
  more : Nat := 0

def constantNames : List String := ["True", "False", "None"]

def keywords : List String :=
  ["and", "as", "assert", "async", "await", "break", "class", "continue", "def", "del", "elif",
    "else", "except", "finally", "for", "from", "global", "if", "import", "in", "is", "lambda",
    "nonlocal", "not", "or", "pass", "raise", "return", "try", "while", "with", "yield"]

def textMarks : List String := ["r", "u", "b", "br", "rb"]

def symbols : List (List Char) :=
  ["...", "**", "//", "<<", ">>", "<=", ">=", "==", "!=", "->", ":="].map String.toList

def oneCharSymbols : List Char := "+-*/%&|^~<>.,:=@;$?!\n\x60".toList

/-- How many characters a text has up to its closing quote and with it. -/
def textLength (quote : Char) : List Char → Option Nat
  | [] => none
  | '\\' :: _ :: rest => (textLength quote rest).map (· + 2)
  | c :: rest =>
      if c = quote then some 1 else if c = '\n' then none else (textLength quote rest).map (· + 1)

def blockLength (quote : Char) : List Char → Option Nat
  | [] => none
  | '\\' :: _ :: rest => (blockLength quote rest).map (· + 2)
  | c :: rest =>
      if [quote, quote, quote].isPrefixOf (c :: rest) then some 3
      else (blockLength quote rest).map (· + 1)

/-- The line of the first character that belongs to neither a text nor what is
read of it. -/
def lineAfter (before text : List Char) : Nat :=
  (before ++ text.takeWhile (· ≠ '\n')).count '\n' + 1

/-- A text behind its opening quote.  `before` is what stands before it. -/
def textBeginning (before : List Char) (isBytes : Bool) (quote : Char) (rest : List Char) :
    Except Fault Beginning :=
  let beginning (length : Nat) : Beginning :=
    ⟨some (.text isBytes ((rest.take length).all (·.toNat < 128))), length⟩
  if [quote, quote].isPrefixOf rest then
    match blockLength quote (rest.drop 2) with
    | some length => .ok (beginning (length + 2))
    | none => .error (.endlessBlock ((before ++ rest).count '\n' + 1))
  else
    match textLength quote rest with
    | some length => .ok (beginning length)
    | none => .error (.endlessText (lineAfter before rest))

/-- What follows digits, with single underscores before them.  The error is what
stands in the place of a digit behind an underscore. -/
def afterDigits (isDigit : Char → Bool) : List Char → Except (Option Char) (List Char)
  | [] => .ok []
  | '_' :: [] => .error none
  | '_' :: c :: rest => if isDigit c then afterDigits isDigit rest else .error (some c)
  | c :: rest => if isDigit c then afterDigits isDigit rest else .ok (c :: rest)

def afterDecimals (text : List Char) : Except Fault (List Char) :=
  match afterDigits Char.isDigit text with
  | .ok rest => .ok rest
  | .error _ => .error (.badNumber "decimal")

/-- Words that may follow a number without a blank. -/
def wordsBehindNumbers : List String := ["and", "else", "for", "if", "in", "is", "or", "not"]

/-- Whether a number of a kind may end before a text. -/
def checkEnd (kind : String) (rest : List Char) : Except Fault Unit :=
  let goesOn := rest.head?.elim false fun c => c.isAlphanum || c = '_' || 128 ≤ c.toNat
  if goesOn && !(wordsBehindNumbers.any fun word => word.toList.isPrefixOf rest) then
    .error (.badNumber kind)
  else .ok ()

/-- A kind of numbers that are marked by a letter behind a zero. -/
structure Radix where
  mark : Char
  kind : String
  isDigit : Char → Bool

def radices : List Radix :=
  [⟨'x', "hexadecimal", fun c => c.isDigit || ('a' ≤ c.toLower && c.toLower ≤ 'f')⟩,
    ⟨'o', "octal", fun c => '0' ≤ c && c ≤ '7'⟩, ⟨'b', "binary", fun c => c = '0' || c = '1'⟩]

namespace Radix

/-- The fault of a character that is no digit. -/
def wrong (radix : Radix) (c : Option Char) : Fault :=
  match c with
  | some c => if c.isDigit then .badDigit c radix.kind else .badNumber radix.kind
  | none => .badNumber radix.kind

/-- What follows a number behind its mark. -/
def rest (radix : Radix) (text : List Char) : Except Fault (List Char) :=
  let first := text.head?
  if first.elim false fun c => c = '_' || radix.isDigit c then
    match afterDigits radix.isDigit text with
    | .error c => .error (radix.wrong c)
    | .ok rest =>
        if rest.head?.elim false Char.isDigit then .error (radix.wrong rest.head?)
        else (checkEnd radix.kind rest).map fun _ => rest
  else .error (radix.wrong first)

end Radix

/-- What follows a number behind the digits of its fraction, and whether the
number is imaginary. -/
def afterFraction (text : List Char) : Except Fault (Bool × List Char) := do
  let marked := text.head?.elim false fun c => c = 'e' || c = 'E'
  let sign := marked && ((text.drop 1).head?.elim false fun c => c = '+' || c = '-')
  let exponent := text.drop (if sign then 2 else 1)
  let hasDigits := exponent.head?.elim false Char.isDigit
  if sign && !hasDigits then .error (.badNumber "decimal")
  else
    let rest ← if marked && hasDigits then afterDecimals exponent else .ok text
    if rest.head?.elim false fun c => c = 'j' || c = 'J' then
      checkEnd "imaginary" (rest.drop 1)
      return (true, rest.drop 1)
    else
      checkEnd "decimal" rest
      return (false, rest)

/-- What follows a number behind the digits before its point, and whether the
number is imaginary. -/
def afterWhole (text : List Char) : Except Fault (Bool × List Char) :=
  match text with
  | '.' :: c :: rest =>
      if c.isDigit then do afterFraction (← afterDecimals rest) else afterFraction (c :: rest)
  | '.' :: [] => .ok (false, [])
  | text => afterFraction text

/-- What follows the number at the front of a text, and whether it is imaginary. -/
def afterNumber (text : List Char) : Except Fault (Bool × List Char) :=
  let marked := radices.find? fun radix =>
    text.head? == some '0' && ((text.drop 1).head?.elim false (·.toLower = radix.mark))
  match marked with
  | some radix => (radix.rest (text.drop 2)).map fun rest => (false, rest)
  | none => do
      if text.head? == some '.' then afterWhole text
      else
        let rest ← afterDecimals text
        let digits := text.take (text.length - rest.length)
        let isWhole := !(rest.head?.elim false fun c => ".eEjJ".toList.contains c)
        if isWhole && digits.head? == some '0' && digits.any fun c => c ≠ '0' && c ≠ '_' then
          .error .leadingZeros
        else afterWhole rest

/-- The beginning of a text; `before` is what stands before it. -/
def Beginning.ofText (before : List Char) (c : Char) (rest : List Char) :
    Except Fault Beginning :=
  if [' ', '\t', '\x0C'].contains c then .ok {}
  else if c = '#' then .ok { more := (rest.takeWhile (· ≠ '\n')).length }
  else if c = Text.singleQuote || c = Text.doubleQuote then textBeginning before false c rest
  else if "([\x7b".toList.contains c then .ok { token := some (.opening c) }
  else if ")]\x7d".toList.contains c then .ok { token := some (.closing c) }
  else if c.isDigit || (c = '.' && rest.head?.elim false Char.isDigit) then
    (afterNumber (c :: rest)).map fun (imaginary, behind) =>
      ⟨some (.number imaginary), rest.length - behind.length⟩
  else if Text.isWord c then
    let letters := c :: rest.takeWhile Text.isWord
    let word := String.ofList letters
    let token : Token :=
      if keywords.contains word then .keyword else .name (constantNames.contains word)
    match rest.drop (letters.length - 1) with
    | quote :: more =>
        if (quote = Text.singleQuote || quote = Text.doubleQuote) &&
            textMarks.contains word.toLower then
          let isBytes := word.toLower.contains 'b'
          (textBeginning before isBytes quote more).map fun beginning =>
            { beginning with more := beginning.more + letters.length }
        else .ok ⟨some token, letters.length - 1⟩
    | [] => .ok ⟨some token, letters.length - 1⟩
  else
    match symbols.find? (·.isPrefixOf (c :: rest)) with
    | some symbol => .ok ⟨some (.symbol symbol), symbol.length - 1⟩
    | none =>
        if oneCharSymbols.contains c then .ok { token := some (.symbol [c]) }
        else if c = '\\' then .ok ⟨some .backslash, rest.length⟩
        else if Text.isPrintable c then .error (.badCharacter c)
        else .error (.hiddenCharacter c)

def partner (opening : Char) : Char :=
  if opening = '(' then ')' else if opening = '[' then ']' else '\x7d'

/-- The brackets that are open behind a token, the innermost one first. -/
def openBehind (opened : List Char) : Token → Except Fault (List Char)
  | .opening bracket => .ok (bracket :: opened)
  | .closing bracket =>
      match opened with
      | [] => .error (.unmatched bracket)
      | innermost :: outer =>
          if partner innermost = bracket then .ok outer
          else .error (.mismatched bracket innermost)
  | _ => .ok opened

/-- The tokens of a text and the brackets that are open at its end.  `before` is
what stands before it, the last character first. -/
def tokensFrom (before opened : List Char) (text : List Char) :
    Except Fault (List Token × List Char) :=
  match text with
  | [] => .ok ([], opened)
  | c :: rest => do
      let first ← Beginning.ofText before.reverse c rest
      let opened ← first.token.elim (.ok opened) (openBehind opened)
      let read := (c :: rest.take first.more).reverse
      let (tokens, opened) ← tokensFrom (read ++ before) opened (rest.drop first.more)
      return (first.token.toList ++ tokens, opened)
termination_by text.length
decreasing_by
  simp only [List.length_drop, List.length_cons]
  omega

/-! ### The order of tokens -/

/-- What may stand at a place. -/
inductive Place where
  | operand
  /-- An operand, or else the end of the group. -/
  | operandOrEnd
  /-- Behind an operand, which ends with a token. -/
  | behind (operand : Token)
  deriving DecidableEq, Repr

/-- What is known behind some tokens: the brackets that are open, what may come,
whether all operands are constants, whether a sum needs an imaginary part, and
whether the last name belongs to what stands before a point. -/
structure Reading where
  opened : List Char := []
  place : Place := .operand
  constant : Bool := true
  inSum : Bool := false
  isMember : Bool := false

def operators : List (List Char) :=
  ["+", "-", "*", "/", "%", "&", "|", "^", "<", ">", "**", "//", "<<", ">>", "<=", ">=", "==",
    "!=", "@", "."].map String.toList

namespace Reading

def operand (reading : Reading) (token : Token) (constant : Bool) : Reading :=
  { reading with place := .behind token, constant := reading.constant && constant, inSum := false }

/-- What is wrong with an operand behind another one; `next` tells whether more
tokens follow. -/
def adjacent (reading : Reading) (next : Bool) : Fault :=
  match reading.opened with
  | [] => .invalid
  | bracket :: _ => if next then .forgottenComma else .neverClosed bracket

def add (reading : Reading) (token : Token) (next : Bool) : Except Fault Reading :=
  match token, reading.place with
  | .keyword, _ => .error .invalid
  | .backslash, _ => .error .strayBackslash
  | .text true false, _ => .error .foreignBytes
  | .text isBytes _, .behind (.text areBytes _) =>
      if isBytes == areBytes then .ok reading else .error .mixedTexts
  | .text _ _, .behind (.name false) =>
      .error (if reading.isMember then reading.adjacent next else .invalid)
  | .text _ _, .behind _ => .error (reading.adjacent next)
  | .number _, .behind _ => .error (reading.adjacent next)
  | .name _, .behind _ => .error (reading.adjacent next)
  | .text _ _, _ => .ok (reading.operand token true)
  | .number imaginary, _ => .ok (reading.operand token (!reading.inSum || imaginary))
  | .name constant, _ => .ok (reading.operand token constant)
  | .opening bracket, place =>
      let called := match place with
        | .behind _ => true
        | _ => false
      if called && bracket = '\x7b' then .error (reading.adjacent next)
      else
        .ok { opened := bracket :: reading.opened, place := .operandOrEnd,
              constant := reading.constant && !called }
  | .closing _, .operand => .error .invalid
  | .closing bracket, _ =>
      .ok { reading with opened := reading.opened.tail, place := .behind (.closing bracket),
                         isMember := false }
  | .symbol symbol, .behind operand =>
      if symbol = [','] then
        .ok { reading with place := .operandOrEnd, inSum := false, isMember := false }
      else if symbol = [':'] && reading.opened.head? == some '\x7b' then
        .ok { reading with place := .operand, inSum := false, isMember := false }
      else if symbol = ['='] && !reading.opened.isEmpty then
        match operand with
        | .name false => .error .assignedName
        | .number _ => .error .assignedConstant
        | .text _ _ => .error .assignedConstant
        | _ => .error .invalid
      else if operators.contains symbol then
        let isSum := symbol = ['+'] || symbol = ['-']
        .ok { reading with place := .operand, inSum := isSum,
                           constant := reading.constant && isSum, isMember := symbol = ['.'] }
      else .error .invalid
  | .symbol symbol, _ =>
      if symbol = ['+'] || symbol = ['-'] then .ok { reading with place := .operand }
      else if symbol = ['~'] then .ok { reading with place := .operand, constant := false }
      else if symbol = "...".toList then .ok (reading.operand token true)
      else .error .invalid

/-- Whether the tokens may end here. -/
def finish (reading : Reading) : Except Fault Unit :=
  match reading.opened, reading.place with
  | bracket :: _, _ => .error (.neverClosed bracket)
  | [], .operand => .error .invalid
  | [], _ => if reading.constant then .ok () else .error .notConstant

/-- Checks the order of tokens. -/
def check (reading : Reading) : List Token → Except Fault Unit
  | [] => reading.finish
  | token :: rest => do
      let reading ← reading.add token (!rest.isEmpty)
      reading.check rest

end Reading

def checkValues (text : List Char) : Except Fault Unit := do
  let (tokens, _) ← tokensFrom [] [] text
  ({} : Reading).check tokens

/-- The values behind the name of a handler, if a text is a handler with or
without values. -/
def values? (text : List Char) : Option (List Char) :=
  let behind := text.dropWhile fun c => Text.isWord c || c = '.'
  if behind.isEmpty then some "()".toList
  else if behind.head? == some '(' && behind.length ≥ 2 && behind.getLast? == some ')' &&
      !behind.contains '\n' then some behind
  else none

/-- What is wrong with the parameters of an action. -/
def fault? (parameters : List Char) : Option String :=
  let trimmed := Text.trim parameters
  let values := (values? trimmed).getD trimmed
  let shown (text : List Char) := String.ofList (Text.quoted text)
  match checkValues values with
  | .ok () => none
  | .error .notConstant =>
      some ("error parsing " ++ shown parameters ++ "; " ++ Fault.notConstant.message)
  | .error fault =>
      some ("error parsing " ++ shown values ++ " in " ++ shown parameters ++ "; " ++ fault.message)

end Action
end Markup
end SourceOutline
