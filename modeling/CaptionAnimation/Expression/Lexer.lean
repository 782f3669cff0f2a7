import CaptionAnimation.Expression.Failure

/-! # Splitting a source into tokens

Blanks separate tokens. At every other place the longest token is taken, except that `?.` before a digit is a
question mark and the beginning of a number. -/
namespace CaptionAnimation.Expression

open Text (isAsciiDigit isBlank)

/-- Numbers may be written with at most this many characters. -/
def maxNumberLength : Nat := 100

def isNameStart (c : Char) : Bool :=
  ('a' ≤ c && c ≤ 'z') || ('A' ≤ c && c ≤ 'Z') || c == '_' || c == '$'

def isNamePart (c : Char) : Bool := isNameStart c || isAsciiDigit c

/-- The length of the digits at the head. -/
def digitsLength (cs : List Char) : Nat := (cs.takeWhile isAsciiDigit).length

/-- The length of an exponent at the head; an exponent without digits is none. -/
def exponentLength : List Char → Nat
  | c :: rest =>
    if c == 'e' || c == 'E' then
      let signLength := match rest with
        | s :: _ => if s == '+' || s == '-' then 1 else 0
        | [] => 0
      let n := digitsLength (rest.drop signLength)
      if n = 0 then 0 else 1 + signLength + n
    else 0
  | [] => 0

/-- The length of the number at the head: digits with an optional point and fraction, or a point and digits,
then an optional exponent. -/
def numberLength (cs : List Char) : Nat :=
  let whole := digitsLength cs
  let mantissa := match cs.drop whole with
    | '.' :: rest => whole + 1 + digitsLength rest
    | _ => whole
  mantissa + exponentLength (cs.drop mantissa)

/-- The number that a lexeme stands for: a double when it has a point or an exponent. -/
def numberOf (cs : List Char) : Number :=
  if cs.any fun c => c == '.' || c == 'e' || c == 'E' then .float ((Numeral.decimal? false cs).getD 0.0)
  else .int (Numeral.natOf cs)

/-- The character that a backslash and `c` stand for. -/
def unescape (c : Char) : Char :=
  match c with
  | 'n' => '\n'
  | 't' => '\t'
  | 'r' => '\r'
  | '0' => '\x00'
  | other => other

/-- The content of a quoted text up to its closing quote, and the number of characters read. -/
def quotedText (quote : Char) : List Char → Option (List Char × Nat)
  | [] => none
  | ['\\'] => none
  | '\\' :: c :: rest => do
    let (cs, n) ← quotedText quote rest
    return (unescape c :: cs, n + 2)
  | c :: rest =>
    if c == quote then some ([], 1)
    else do
      let (cs, n) ← quotedText quote rest
      return (c :: cs, n + 1)

/-- Whether the operator stands at the head. -/
def Operator.matchesHead (o : Operator) (cs : List Char) : Bool :=
  o.spelling.toList.isPrefixOf cs && !(o == .guardedDot && (cs[2]?).any isAsciiDigit)

/-- The token at `c :: rest`, where `c` is no blank, and the number of characters that it takes from `rest`. -/
def lexeme (c : Char) (rest : List Char) : Except SyntaxError.Cause (Lexeme × Nat) :=
  if isAsciiDigit c || (c == '.' && rest.head?.any isAsciiDigit) then
    let n := numberLength (c :: rest)
    if n > maxNumberLength then .error .numberTooLong
    else .ok (.number (numberOf ((c :: rest).take n)), n - 1)
  else if c == '\'' || c == '"' then
    match quotedText c rest with
    | some (cs, n) => .ok (.text (String.ofList cs), n)
    | none => .error .unterminatedText
  else if isNameStart c then
    let more := rest.takeWhile isNamePart
    .ok (.name (String.ofList (c :: more)), more.length)
  else
    match Operator.all.find? (·.matchesHead (c :: rest)) with
    | some o => .ok (.op o, o.spelling.length - 1)
    | none => .error (.unexpectedCharacter c)

/-- The tokens of `cs`, which begins at offset `pos`; or the cause and offset of the failure. -/
def tokensFrom (pos : Nat) : List Char → Except (SyntaxError.Cause × Nat) (List Token)
  | [] => .ok []
  | c :: rest =>
    if isBlank c then tokensFrom (pos + 1) rest
    else
      match lexeme c rest with
      | .error cause => .error (cause, pos)
      | .ok (l, n) =>
        match tokensFrom (pos + 1 + n) (rest.drop n) with
        | .error e => .error e
        | .ok ts => .ok (⟨l, pos⟩ :: ts)
termination_by cs => cs.length
decreasing_by
  · simp only [List.length_cons]; omega
  · simp only [List.length_drop, List.length_cons]; omega

theorem tokensFrom_nil (pos : Nat) : tokensFrom pos [] = .ok [] := by
  rw [tokensFrom.eq_def]

theorem tokensFrom_cons (pos : Nat) (c : Char) (rest : List Char) :
    tokensFrom pos (c :: rest) =
      if isBlank c then tokensFrom (pos + 1) rest
      else
        match lexeme c rest with
        | .error cause => .error (cause, pos)
        | .ok (l, n) =>
          match tokensFrom (pos + 1 + n) (rest.drop n) with
          | .error e => .error e
          | .ok ts => .ok (⟨l, pos⟩ :: ts) := by
  rw [tokensFrom.eq_def]

/-- The tokens of a source, without the mark of its end. -/
def scan (source : String) : Except SyntaxError (List Token) :=
  match tokensFrom 0 source.toList with
  | .ok ts => .ok ts
  | .error (cause, pos) => .error ⟨cause, source, pos⟩

/-- The tokens of a source, the last of which marks its end. -/
def tokenize (source : String) : Except SyntaxError (List Token) := do
  return (← scan source) ++ [⟨.stop, source.length⟩]

end CaptionAnimation.Expression
