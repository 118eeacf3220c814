import Stencil.Value.Basic
import Stencil.Text.Position

/-!
Reading values from the data format. The reader takes characters from the front of the text and
hands on the rest; a failure knows how much text was left, which gives its line and column. Nesting
is limited, and a value that is no function comes back from what `Value.write` writes.
-/
namespace Stencil.Value

open Text

/-- What is wrong with a text in the data format. -/
inductive ReadFault where
  | endInList
  | endInObject
  | endInString
  | endInValue
  | expectedColon
  | expectedCommaOrBracket
  | expectedCommaOrBrace
  | expectedWord
  | expectedValue
  | invalidEscape
  | invalidNumber
  | numberOutOfRange
  | controlCharacter
  | nameNotString
  | loneSurrogate
  | unfinishedSurrogate
  | trailingComma
  | trailingText
  | tooDeep
  deriving DecidableEq, Repr

def ReadFault.message : ReadFault → String
  | .endInList => "EOF while parsing a list"
  | .endInObject => "EOF while parsing an object"
  | .endInString => "EOF while parsing a string"
  | .endInValue => "EOF while parsing a value"
  | .expectedColon => "expected `:`"
  | .expectedCommaOrBracket => "expected `,` or `]`"
  | .expectedCommaOrBrace => "expected `,` or `\x7d`"
  | .expectedWord => "expected ident"
  | .expectedValue => "expected value"
  | .invalidEscape => "invalid escape"
  | .invalidNumber => "invalid number"
  | .numberOutOfRange => "number out of range"
  | .controlCharacter => "control character (\\u0000-\\u001F) found while parsing a string"
  | .nameNotString => "key must be a string"
  | .loneSurrogate => "lone leading surrogate in hex escape"
  | .unfinishedSurrogate => "unexpected end of hex escape"
  | .trailingComma => "trailing comma"
  | .trailingText => "trailing characters"
  | .tooDeep => "recursion limit exceeded"

/-- A fault and the number of bytes from its place to the end of the text. -/
structure ReadFailure where
  fault : ReadFault
  left : Nat
  deriving DecidableEq, Repr

/-- A reader of something at the front of a text. -/
abbrev Reader (α : Type) := List Char → Except ReadFailure (α × List Char)

/-- A fault at the front of `s`. -/
def failAt {α : Type} (fault : ReadFault) (s : List Char) : Except ReadFailure α :=
  .error ⟨fault, byteSize s⟩

/-- A fault of the first byte of `s`, whose place is behind that byte. -/
def failOn {α : Type} (fault : ReadFault) (s : List Char) : Except ReadFailure α :=
  .error ⟨fault, byteSize s - 1⟩

def isFormatBlank (c : Char) : Bool := c == ' ' || c == '\n' || c == '\t' || c == '\r'

def skipBlanks (s : List Char) : List Char := s.dropWhile isFormatBlank

/-- Reads the rest of a word. -/
def readWord : List Char → List Char → Except ReadFailure (List Char)
  | [], s => .ok s
  | _ :: _, [] => failAt .endInValue []
  | c :: word, d :: s =>
    if c == d then readWord word s else .error ⟨.expectedWord, byteSize (d :: s) - 1⟩

def hexValue? (c : Char) : Option Nat :=
  if '0' ≤ c && c ≤ '9' then some (c.toNat - '0'.toNat)
  else if 'a' ≤ c && c ≤ 'f' then some (c.toNat - 'a'.toNat + 10)
  else if 'A' ≤ c && c ≤ 'F' then some (c.toNat - 'A'.toNat + 10)
  else none

/-- The failure of an escape without four hexadecimal digits. Four bytes are looked at, whatever
characters they belong to. -/
def badHex {α : Type} (s : List Char) : Except ReadFailure α :=
  if 4 ≤ byteSize s then .error ⟨.invalidEscape, byteSize s - 4⟩ else failAt .endInString []

/-- Reads four hexadecimal digits. -/
def readHex : List Char → Except ReadFailure (Nat × List Char)
  | a :: b :: c :: d :: rest =>
    match hexValue? a, hexValue? b, hexValue? c, hexValue? d with
    | some i, some j, some k, some l => .ok (((i * 16 + j) * 16 + k) * 16 + l, rest)
    | _, _, _, _ => badHex (a :: b :: c :: d :: rest)
  | s => badHex s

def isHighSurrogate (n : Nat) : Bool := 0xd800 ≤ n && n < 0xdc00

def isLowSurrogate (n : Nat) : Bool := 0xdc00 ≤ n && n < 0xe000

/-- Reads one expected character of a surrogate pair. -/
def readPairMark (mark : Char) : List Char → Except ReadFailure (List Char)
  | [] => failAt .endInString []
  | c :: s => if c == mark then .ok s else .error ⟨.unfinishedSurrogate, byteSize (c :: s) - 1⟩

/-- Reads what follows the backslash and the `u` of an escape. -/
def readUnicode (s : List Char) : Except ReadFailure (Char × List Char) := do
  let (n, s) ← readHex s
  if isLowSurrogate n then failAt .loneSurrogate s
  else if isHighSurrogate n then do
    let s ← readPairMark '\\' s
    let s ← readPairMark 'u' s
    let (m, s) ← readHex s
    if isLowSurrogate m then .ok (Char.ofNat (0x10000 + (n - 0xd800) * 0x400 + (m - 0xdc00)), s)
    else failAt .loneSurrogate s
  else .ok (Char.ofNat n, s)

/-- Reads what follows the backslash of an escape. -/
def readEscape : List Char → Except ReadFailure (Char × List Char)
  | [] => failAt .endInString []
  | c :: s =>
    match c with
    | '"' => .ok ('"', s)
    | '\\' => .ok ('\\', s)
    | '/' => .ok ('/', s)
    | 'b' => .ok ('\x08', s)
    | 'f' => .ok ('\x0c', s)
    | 'n' => .ok ('\n', s)
    | 'r' => .ok ('\r', s)
    | 't' => .ok ('\t', s)
    | 'u' => readUnicode s
    | c => .error ⟨.invalidEscape, byteSize (c :: s) - 1⟩

theorem badHex_ne_ok {α : Type} {s : List Char} {x : α} : badHex s ≠ .ok x := by
  unfold badHex failAt
  split <;> simp

theorem length_le_of_readHex {s rest : List Char} {n : Nat} (h : readHex s = .ok (n, rest)) :
    rest.length ≤ s.length := by
  unfold readHex at h
  split at h
  · split at h
    · simp only [Except.ok.injEq, Prod.mk.injEq] at h
      simp only [← h.2, List.length_cons]
      omega
    · exact absurd h badHex_ne_ok
  · exact absurd h badHex_ne_ok

theorem length_le_of_readPairMark {mark : Char} {s rest : List Char}
    (h : readPairMark mark s = .ok rest) : rest.length ≤ s.length := by
  cases s with
  | nil => simp [readPairMark, failAt] at h
  | cons c s =>
    simp only [readPairMark] at h
    split at h
    · simp only [Except.ok.injEq] at h
      simp [← h]
    · simp at h

theorem length_le_of_readUnicode {s rest : List Char} {c : Char}
    (h : readUnicode s = .ok (c, rest)) : rest.length ≤ s.length := by
  unfold readUnicode failAt at h
  cases h1 : readHex s with
  | error e => simp [h1, bind, Except.bind] at h
  | ok p =>
    obtain ⟨n, s1⟩ := p
    have l1 := length_le_of_readHex h1
    simp only [h1, bind, Except.bind] at h
    split at h
    · simp at h
    · split at h
      · cases h2 : readPairMark '\\' s1 with
        | error e => simp [h2] at h
        | ok s2 =>
          have l2 := length_le_of_readPairMark h2
          simp only [h2] at h
          cases h3 : readPairMark 'u' s2 with
          | error e => simp [h3] at h
          | ok s3 =>
            have l3 := length_le_of_readPairMark h3
            simp only [h3] at h
            cases h4 : readHex s3 with
            | error e => simp [h4] at h
            | ok q =>
              obtain ⟨m, s4⟩ := q
              have l4 := length_le_of_readHex h4
              simp only [h4] at h
              split at h
              · simp only [Except.ok.injEq, Prod.mk.injEq] at h
                rw [← h.2]
                omega
              · simp at h
      · simp only [Except.ok.injEq, Prod.mk.injEq] at h
        rw [← h.2]
        omega

theorem length_le_of_readEscape {s rest : List Char} {c : Char}
    (h : readEscape s = .ok (c, rest)) : rest.length ≤ s.length := by
  cases s with
  | nil => simp [readEscape, failAt] at h
  | cons d s =>
    simp only [readEscape] at h
    split at h
    case h_9 => exact Nat.le_succ_of_le (length_le_of_readUnicode h)
    case h_10 => simp at h
    all_goals
      simp only [Except.ok.injEq, Prod.mk.injEq] at h
      simp [← h.2]

/-- Reads a string behind its opening quote, with the characters so far, last first. -/
def readString (done : List Char) : Reader (List Char)
  | [] => failAt .endInString []
  | c :: s =>
    if c == '"' then .ok (done.reverse, s)
    else if c == '\\' then
      match _h : readEscape s with
      | .ok (d, rest) => readString (d :: done) rest
      | .error e => .error e
    else if c.toNat < 0x20 then failAt .controlCharacter s
    else readString (c :: done) s
termination_by s => s.length
decreasing_by
  · exact Nat.lt_succ_of_le (length_le_of_readEscape (by assumption))
  · exact Nat.lt_succ_self _

/-- The greatest significand that is kept exactly. -/
def significandLimit : Nat := Nat.pow 2 64

/-- Takes digits while the significand stays below the limit; the rest may start with a digit. -/
def takeDigits (n taken : Nat) : List Char → Nat × Nat × List Char
  | [] => (n, taken, [])
  | c :: s =>
    if isAsciiDigit c && 10 * n + Decimal.digitValue c < significandLimit then
      takeDigits (10 * n + Decimal.digitValue c) (taken + 1) s
    else (n, taken, c :: s)

def startsWithDigit : List Char → Bool
  | [] => false
  | c :: _ => isAsciiDigit c

/-- Significands are scaled in steps of at most this power of ten. -/
def scaleStep : Nat := 308

/-- The power of ten of a scaling step. -/
def powerOfTen (n : Nat) : Float := Float.ofScientific 1 false n

/-- Scales down by `n` powers of ten, the largest steps first. -/
def scaleDown (x : Float) (n : Nat) : Float :=
  if x == 0.0 then x
  else if n ≤ scaleStep then x / powerOfTen n
  else scaleDown (x / powerOfTen scaleStep) (n - scaleStep)
termination_by n
decreasing_by all_goals simp_all [scaleStep]; omega

/-- A significand times a power of ten, by floating-point scaling of the significand; none where
that leaves the range. -/
def scale? (significand : Nat) (power : Int) : Option Float :=
  let x := Float.ofNat significand
  if power < 0 then some (scaleDown x (-power).toNat)
  else if power.toNat ≤ scaleStep then
    let y := x * powerOfTen power.toNat
    if y.isInf then none else some y
  else if significand = 0 then some x
  else none

/-- Exponents beyond this bound are not computed. -/
def exponentLimit : Nat := Nat.pow 2 31

/-- Takes the digits of an exponent; none when it passes the limit, with the rest at that place. -/
def takeExponent (n : Nat) : List Char → Option Nat × List Char
  | [] => (some n, [])
  | c :: s =>
    if isAsciiDigit c then
      if exponentLimit ≤ 10 * n + Decimal.digitValue c then (none, s)
      else takeExponent (10 * n + Decimal.digitValue c) s
    else (some n, c :: s)

/-- The float of the parts of a number that ends in front of `s`. -/
def finishFloat (negative : Bool) (significand : Nat) (power : Int) (s : List Char) :
    Except ReadFailure (Number × List Char) :=
  match scale? significand power with
  | some x => .ok (.float (if negative then -x else x), s)
  | none => failAt .numberOutOfRange s

/-- Reads an exponent behind its letter. -/
def readExponent (negative : Bool) (significand : Nat) (power : Int) (s : List Char) :
    Except ReadFailure (Number × List Char) :=
  let (down, s) :=
    match s with
    | '+' :: rest => (false, rest)
    | '-' :: rest => (true, rest)
    | s => (false, s)
  match s with
  | [] => failAt .endInValue []
  | c :: rest =>
    if !isAsciiDigit c then .error ⟨.invalidNumber, byteSize (c :: rest) - 1⟩
    else
      match takeExponent (Decimal.digitValue c) rest with
      | (some n, rest) =>
        finishFloat negative significand (if down then power - n else power + n) rest
      | (none, rest) =>
        if significand ≠ 0 && !down then failAt .numberOutOfRange rest
        else .ok (.float (if negative then -0.0 else 0.0), rest.dropWhile isAsciiDigit)

/-- Reads an exponent if there is one. -/
def readExponent? (negative : Bool) (significand : Nat) (power : Int) (s : List Char) :
    Except ReadFailure (Number × List Char) :=
  match s with
  | 'e' :: rest => readExponent negative significand power rest
  | 'E' :: rest => readExponent negative significand power rest
  | s => finishFloat negative significand power s

/-- Reads the digits behind the point. Digits that the significand has no room for are skipped. -/
def readFraction (negative : Bool) (significand : Nat) (power : Int) (s : List Char) :
    Except ReadFailure (Number × List Char) :=
  let (significand, taken, rest) := takeDigits significand 0 s
  if startsWithDigit rest then
    readExponent? negative significand (power - taken) (rest.dropWhile isAsciiDigit)
  else if taken = 0 then
    match rest with
    | [] => failAt .endInValue []
    | _ => failOn .invalidNumber rest
  else readExponent? negative significand (power - taken) rest

/-- An integer, or a float where a negative zero or a large number is meant. -/
def integer (negative : Bool) (significand : Nat) : Number :=
  if negative then
    if significand = 0 then .float (-0.0) else .ofInt (-(significand : Int))
  else .ofNat significand

/-- Reads what follows the whole part of a number. -/
def readNumberTail (negative : Bool) (significand : Nat) (s : List Char) :
    Except ReadFailure (Number × List Char) :=
  match s with
  | '.' :: rest => readFraction negative significand 0 rest
  | 'e' :: rest => readExponent negative significand 0 rest
  | 'E' :: rest => readExponent negative significand 0 rest
  | s => .ok (integer negative significand, s)

/-- Reads a number behind its sign. -/
def readNumber (negative : Bool) : List Char → Except ReadFailure (Number × List Char)
  | [] => failAt .endInValue []
  | '0' :: s => if startsWithDigit s then failOn .invalidNumber s else readNumberTail negative 0 s
  | c :: s =>
    if !isAsciiDigit c then .error ⟨.invalidNumber, byteSize (c :: s) - 1⟩
    else
      let (significand, _, rest) := takeDigits (Decimal.digitValue c) 0 s
      if startsWithDigit rest then
        let skipped := (rest.takeWhile isAsciiDigit).length
        match rest.dropWhile isAsciiDigit with
        | '.' :: rest => readFraction negative significand skipped rest
        | rest => readExponent? negative significand skipped rest
      else readNumberTail negative significand rest

/-- Reads the items after the first one; there are at most `n` of them. -/
def readItems (item : Reader Value) (done : List Value) : Nat → Reader (List Value)
  | 0, s => failAt .endInList s
  | n + 1, s =>
    match skipBlanks s with
    | [] => failAt .endInList []
    | ']' :: rest => .ok (done.reverse, rest)
    | ',' :: rest =>
      match skipBlanks rest with
      | [] => failAt .endInValue []
      | ']' :: rest => failOn .trailingComma (']' :: rest)
      | rest => do
        let (v, rest) ← item rest
        readItems item (v :: done) n rest
    | rest => failOn .expectedCommaOrBracket rest

/-- Reads a sequence behind its opening bracket. A sequence has at most `bound` items behind the
first one. -/
def readSeq (item : Reader Value) (bound : Nat) : Reader Value := fun s =>
  match skipBlanks s with
  | [] => failAt .endInList []
  | ']' :: rest => .ok (.seq [], rest)
  | rest => do
    let (v, rest) ← item rest
    let (items, rest) ← readItems item [v] bound rest
    .ok (.seq items, rest)

/-- Reads an entry behind the opening quote of its name. -/
def readEntry (item : Reader Value) : Reader (String × Value) := fun s => do
  let (name, s) ← readString [] s
  match skipBlanks s with
  | [] => failAt .endInObject []
  | ':' :: rest =>
    let (v, rest) ← item rest
    .ok ((String.ofList name, v), rest)
  | rest => failOn .expectedColon rest

/-- Reads the entries after the first one; there are at most `n` of them. -/
def readEntries (item : Reader Value) (done : List (String × Value)) :
    Nat → Reader (List (String × Value))
  | 0, s => failAt .endInObject s
  | n + 1, s =>
    match skipBlanks s with
    | [] => failAt .endInObject []
    | '\x7d' :: rest => .ok (done.reverse, rest)
    | ',' :: rest =>
      match skipBlanks rest with
      | [] => failAt .endInValue []
      | '"' :: rest => do
        let (e, rest) ← readEntry item rest
        readEntries item (e :: done) n rest
      | '\x7d' :: rest => failOn .trailingComma ('\x7d' :: rest)
      | rest => failOn .nameNotString rest
    | rest => failOn .expectedCommaOrBrace rest

/-- Reads a map behind its opening brace. A name that is repeated keeps its first place and takes
its last value. A map has at most `bound` entries behind the first one. -/
def readMap (item : Reader Value) (bound : Nat) : Reader Value := fun s =>
  match skipBlanks s with
  | [] => failAt .endInObject []
  | '\x7d' :: rest => .ok (.map [], rest)
  | '"' :: rest => do
    let (e, rest) ← readEntry item rest
    let (entries, rest) ← readEntries item [e] bound rest
    .ok (.map (Record.ofList entries), rest)
  | rest => failOn .nameNotString rest

/-- Reads a value whose sequences and maps nest at most `depth` deep. The length of the text is a
bound on what they hold. -/
def readValue (bound : Nat) : Nat → Reader Value
  | depth, s =>
    match skipBlanks s with
    | [] => failAt .endInValue []
    | 'n' :: rest => do .ok (.null, ← readWord "ull".toList rest)
    | 't' :: rest => do .ok (.bool true, ← readWord "rue".toList rest)
    | 'f' :: rest => do .ok (.bool false, ← readWord "alse".toList rest)
    | '"' :: rest => do
      let (cs, rest) ← readString [] rest
      .ok (ofChars cs, rest)
    | '-' :: rest => do
      let (n, rest) ← readNumber true rest
      .ok (.number n, rest)
    | '[' :: rest =>
      match depth with
      | 0 => failOn .tooDeep ('[' :: rest)
      | depth + 1 => readSeq (readValue bound depth) bound rest
    | '\x7b' :: rest =>
      match depth with
      | 0 => failOn .tooDeep ('\x7b' :: rest)
      | depth + 1 => readMap (readValue bound depth) bound rest
    | c :: rest =>
      if isAsciiDigit c then do
        let (n, rest) ← readNumber false (c :: rest)
        .ok (.number n, rest)
      else failOn .expectedValue (c :: rest)

/-- Sequences and maps may nest this deep. -/
def depthLimit : Nat := 127

/-- Reads a text that holds one value and nothing else. -/
def readText (s : List Char) : Except ReadFailure Value := do
  let (v, rest) ← readValue s.length depthLimit s
  match skipBlanks rest with
  | [] => .ok v
  | rest => failOn .trailingText rest

/-- A fault with its place in a text. -/
structure ReadError where
  fault : ReadFault
  position : Position
  deriving DecidableEq, Repr

def ReadError.message (e : ReadError) : String :=
  s!"{e.fault.message} at line {e.position.line} column {e.position.column}"

/-- The value that a text in the data format describes. -/
def ofJson (text : String) : Except ReadError Value :=
  let s := text.toList
  (readText s).mapError fun e => ⟨e.fault, positionAt s (byteSize s - e.left)⟩

end Stencil.Value
