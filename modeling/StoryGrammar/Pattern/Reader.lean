import StoryGrammar.Pattern.Size

set_option autoImplicit false

/-!
# Reading patterns

The written form of patterns: literal characters, `.`, classes in brackets with nesting and set
operators, escapes, groups, flags, alternatives and the repetitions `?`, `*` and `+`. A pattern
ends at its first plain closing brace wherever patterns are written, so counted repetitions and
names in braces could never be closed and are refused.

The reader keeps the groups that are open as a list. Every round consumes some characters, so the
length of the text bounds the number of rounds.
-/

namespace StoryGrammar.Pattern

/-! ## Flags -/

structure Flags where
  ignoreCase : Bool
  multiLine : Bool
  dotMatchesLineFeed : Bool
  unicode : Bool
  carriageReturns : Bool
  ignoreBlanks : Bool
  deriving DecidableEq, Repr

def Flags.initial : Flags where
  ignoreCase := false
  multiLine := false
  dotMatchesLineFeed := false
  unicode := true
  carriageReturns := false
  ignoreBlanks := false

/-- The setting of one flag. The flag for short matches is known but changes nothing. -/
def Flags.set? (flags : Flags) (flag : Char) (value : Bool) : Option Flags :=
  match flag with
  | 'i' => some { flags with ignoreCase := value }
  | 'm' => some { flags with multiLine := value }
  | 's' => some { flags with dotMatchesLineFeed := value }
  | 'u' => some { flags with unicode := value }
  | 'R' => some { flags with carriageReturns := value }
  | 'x' => some { flags with ignoreBlanks := value }
  | 'U' => some flags
  | _ => none

/-- The flags up to `:` or `)`, the mark that ends them and what follows it. No flag may be written
twice, the flags after the one `-` are switched off, and that `-` may not be last. -/
def readFlags (flags : Flags) (seen : List Char) :
    List Char → Option (Flags × List Char × Char × List Char)
  | [] => none
  | character :: rest =>
      if character = ':' ∨ character = ')' then
        if seen.head? = some '-' then none else some (flags, seen, character, rest)
      else if seen.contains character then none
      else if character = '-' then readFlags flags (character :: seen) rest
      else
        match flags.set? character (!seen.contains '-') with
        | some flags => readFlags flags (character :: seen) rest
        | none => none

/-! ## Insignificant characters -/

/-- What is left after blanks and comments, which run from `#` to the end of the line. -/
def dropInsignificant (inComment : Bool) : List Char → List Char
  | [] => []
  | character :: rest =>
      if inComment then dropInsignificant (character != '\n') rest
      else if Unicode.isBlank character then dropInsignificant false rest
      else if character = '#' then dropInsignificant true rest
      else character :: rest

def skip (flags : Flags) (characters : List Char) : List Char :=
  if flags.ignoreBlanks then dropInsignificant false characters else characters

/-- The character that decides whether a hyphen makes a range. Where blanks are insignificant, they
and one number sign are looked past. -/
def characterAhead (flags : Flags) (characters : List Char) : Option Char :=
  if flags.ignoreBlanks then
    match characters.dropWhile Unicode.isBlank with
    | '#' :: rest => (rest.dropWhile Unicode.isBlank).head?
    | others => others.head?
  else characters.head?

/-! ## Escapes -/

inductive Primitive where
  | literal (character : Char)
  | set (set : CharacterSet)
  | assertion (assertion : Assertion)
  deriving DecidableEq, Repr

def hexadecimalDigit? (character : Char) : Option Nat :=
  if '0' ≤ character ∧ character ≤ '9' then some (character.toNat - '0'.toNat)
  else if 'a' ≤ character ∧ character ≤ 'f' then some (character.toNat - 'a'.toNat + 10)
  else if 'A' ≤ character ∧ character ≤ 'F' then some (character.toNat - 'A'.toNat + 10)
  else none

def readHexadecimal (flags : Flags) : (count value : Nat) → List Char → Option (Nat × List Char)
  | 0, value, characters => some (value, skip flags characters)
  | count + 1, value, characters =>
      match skip flags characters with
      | [] => none
      | character :: rest =>
          match hexadecimalDigit? character with
          | some digit => readHexadecimal flags count (value * 16 + digit) rest
          | none => none

def characterOfCode? (code : Nat) : Option Char :=
  if code.isValidChar then some (Char.ofNat code) else none

def plainDigits : CharacterSet :=
  .range '0' '9'

def plainBlanks : CharacterSet :=
  .ofRanges [('\t', '\r'), (' ', ' ')]

def plainWords : CharacterSet :=
  .ofRanges [('0', '9'), ('A', 'Z'), ('_', '_'), ('a', 'z')]

def wordSet (flags : Flags) : CharacterSet :=
  if flags.unicode then .word else plainWords

/-- The complement of a set, which only exists where every character is meant. -/
def negate? (flags : Flags) (set : CharacterSet) : Option CharacterSet :=
  if flags.unicode then some (.complement set) else none

def fold (flags : Flags) (set : CharacterSet) : CharacterSet :=
  if flags.ignoreCase then
    if flags.unicode then .ignoringCase set else .ignoringLatinCase set
  else set

def escapedSet? (flags : Flags) (letter : Char) : Option CharacterSet :=
  match letter with
  | 'd' => some (if flags.unicode then .decimalDigit else plainDigits)
  | 's' => some (if flags.unicode then .blank else plainBlanks)
  | 'w' => some (wordSet flags)
  | 'D' => negate? flags .decimalDigit
  | 'S' => negate? flags .blank
  | 'W' => negate? flags .word
  | _ => none

/-- Whether a backslash may stand before a character that it does not change: any of the first 128
characters but letters, digits and angle brackets. -/
def isEscapable (character : Char) : Bool :=
  character.toNat < 128 && !character.isAlphanum && character != '<' && character != '>'

def escapedPrimitive? (flags : Flags) (letter : Char) : Option Primitive :=
  match letter with
  | 'a' => some (.literal '\x07')
  | 'f' => some (.literal '\x0c')
  | 't' => some (.literal '\t')
  | 'n' => some (.literal '\n')
  | 'r' => some (.literal '\r')
  | 'v' => some (.literal '\x0b')
  | 'A' => some (.assertion .textStart)
  | 'z' => some (.assertion .textEnd)
  | 'b' => some (.assertion (.wordBoundary (wordSet flags)))
  | 'B' => some (.assertion (.notWordBoundary (wordSet flags)))
  | '<' => some (.assertion (.wordStart (wordSet flags)))
  | '>' => some (.assertion (.wordEnd (wordSet flags)))
  | _ => if isEscapable letter then some (.literal letter) else none

def readCategory (flags : Flags) (negated : Bool) (characters : List Char) :
    Option (Primitive × List Char) := do
  let letter :: rest := skip flags characters | none
  let category ← Unicode.MajorCategory.ofLetter? letter
  if !flags.unicode then none
  let set := fold flags (.category category)
  return (.set (if negated then .complement set else set), skip flags rest)

/-- The character with the code that the given count of digits spells. Where only the first 128
characters are meant, two digits may spell no other. -/
def readCode (flags : Flags) (count : Nat) (characters : List Char) :
    Option (Primitive × List Char) := do
  let (code, rest) ← readHexadecimal flags count 0 characters
  if count = 2 ∧ 128 ≤ code ∧ !flags.unicode then none
  let character ← characterOfCode? code
  return (.literal character, rest)

def readEscape (flags : Flags) : List Char → Option (Primitive × List Char)
  | [] => none
  | 'x' :: rest => readCode flags 2 rest
  | 'u' :: rest => readCode flags 4 rest
  | 'U' :: rest => readCode flags 8 rest
  | 'p' :: rest => readCategory flags false rest
  | 'P' :: rest => readCategory flags true rest
  | letter :: rest =>
      if ['d', 's', 'w', 'D', 'S', 'W'].contains letter then
        (escapedSet? flags letter).map fun set => (.set set, rest)
      else (escapedPrimitive? flags letter).map fun primitive => (primitive, rest)

/-! ## Classes -/

/-- A set read so far, and how deep classes and set operators nest in it. Every member is read with
the case variants that the flags ask for, and no set operation separates a letter from its
variants. -/
structure ClassPart where
  set : CharacterSet
  height : Nat
  deriving DecidableEq, Repr

inductive SetOperator where
  | intersection
  | difference
  | symmetricDifference
  deriving DecidableEq, Repr

/-- A class whose closing bracket is still to come: whether nothing but hyphens was read, the
operand and operator before the present union, and the union's parts, newest first. -/
structure OpenClass where
  negated : Bool
  atStart : Bool
  operand : Option (ClassPart × SetOperator)
  parts : List ClassPart
  deriving DecidableEq, Repr

def unionOfParts (parts : List ClassPart) : ClassPart :=
  match parts with
  | [] => ⟨.nothing, 0⟩
  | [part] => part
  | part :: more =>
      ⟨more.foldl (fun set other => .union other.set set) part.set,
        1 + more.foldl (fun height other => max height other.height) part.height⟩

def SetOperator.apply (operator : SetOperator) (left right : ClassPart) : ClassPart :=
  let set :=
    match operator with
    | .intersection => .intersection left.set right.set
    | .difference => .difference left.set right.set
    | .symmetricDifference => .symmetricDifference left.set right.set
  ⟨set, 1 + max left.height right.height⟩

/-- What an open class holds so far. Operators associate to the left. -/
def OpenClass.content (opened : OpenClass) : ClassPart :=
  match opened.operand with
  | none => unionOfParts opened.parts
  | some (left, operator) => operator.apply left (unionOfParts opened.parts)

def OpenClass.close? (flags : Flags) (opened : OpenClass) : Option ClassPart := do
  let content := opened.content
  let set ← if opened.negated then negate? flags content.set else some content.set
  return ⟨set, content.height + 1⟩

def OpenClass.add (opened : OpenClass) (set : CharacterSet) (height : Nat) : OpenClass :=
  { opened with atStart := false, parts := ⟨set, height⟩ :: opened.parts }

/-- The class after a literal member that its start admits: any hyphen, and a closing bracket that
is its very first member. -/
def OpenClass.addAtStart? (opened : OpenClass) (character : Char) : Option OpenClass :=
  if !opened.atStart then none
  else if character = '-' then some { opened.add (.single '-') 0 with atStart := true }
  else if character = ']' ∧ opened.parts = [] then some (opened.add (.single ']') 0)
  else none

def OpenClass.operate (opened : OpenClass) (operator : SetOperator) : OpenClass :=
  { opened with atStart := false, operand := some (opened.content, operator), parts := [] }

/-- The class that an opening bracket, already consumed, begins. It may be negated. -/
def readClassStart (flags : Flags) (characters : List Char) : OpenClass × List Char :=
  match skip flags characters with
  | '^' :: rest => (⟨true, true, none, []⟩, rest)
  | rest => (⟨false, true, none, []⟩, rest)

def namedRanges? (name : String) : Option (List (Char × Char)) :=
  match name with
  | "alnum" => some [('0', '9'), ('A', 'Z'), ('a', 'z')]
  | "alpha" => some [('A', 'Z'), ('a', 'z')]
  | "ascii" => some [('\x00', '\x7f')]
  | "blank" => some [('\t', '\t'), (' ', ' ')]
  | "cntrl" => some [('\x00', '\x1f'), ('\x7f', '\x7f')]
  | "digit" => some [('0', '9')]
  | "graph" => some [('!', '~')]
  | "lower" => some [('a', 'z')]
  | "print" => some [(' ', '~')]
  | "punct" => some [('!', '/'), (':', '@'), ('[', '`'), ('{', '~')]
  | "space" => some [('\t', '\r'), (' ', ' ')]
  | "upper" => some [('A', 'Z')]
  | "word" => some [('0', '9'), ('A', 'Z'), ('_', '_'), ('a', 'z')]
  | "xdigit" => some [('0', '9'), ('A', 'F'), ('a', 'f')]
  | _ => none

/-- The named class after an opening bracket, such as `:alpha:]` or `:^alpha:]`. The outer result
is `none` where there is no such class and the bracket begins an ordinary class; the inner one is
`none` where the class exists but its complement does not. -/
def readNamedClass (flags : Flags) (characters : List Char) :
    Option (Option CharacterSet × List Char) := do
  let ':' :: rest := characters | none
  let (negated, rest) :=
    match rest with
    | '^' :: rest => (true, rest)
    | _ => (false, rest)
  let name := rest.takeWhile (· != ':')
  let ':' :: ']' :: rest := rest.dropWhile (· != ':') | none
  let ranges ← namedRanges? (String.ofList name)
  let set := fold flags (.ofRanges ranges)
  return (if negated then negate? flags set else some set, rest)

def readClassPrimitive (flags : Flags) : List Char → Option (Primitive × List Char)
  | [] => none
  | '\\' :: rest => readEscape flags rest
  | character :: rest => some (.literal character, rest)

/-- The character that a member of a class is, which must be one of the first 128 where only those
are meant. -/
def classLiteral? (flags : Flags) : Primitive → Option Char
  | .literal character =>
      if flags.unicode ∨ character.toNat < 128 then some character else none
  | _ => none

def readClassMember (flags : Flags) (characters : List Char) :
    Option (CharacterSet × List Char) := do
  let (primitive, rest) ← readClassPrimitive flags characters
  let single : Option CharacterSet :=
    match primitive with
    | .set set => some set
    | other => (classLiteral? flags other).map .single
  match skip flags rest with
  | [] => none
  | '-' :: more =>
      let ahead := characterAhead flags more
      if ahead = some ']' ∨ ahead = some '-' then
        return (← single, '-' :: more)
      else
        let (primitive', rest) ← readClassPrimitive flags (skip flags more)
        let first ← classLiteral? flags primitive
        let last ← classLiteral? flags primitive'
        if last < first then none
        return (.range first last, rest)
  | more => return (← single, more)

/-- The steps that reading the next characters of a class can take. -/
inductive ClassStep where
  | more (opened : OpenClass) (rest : List Char)
  | enter (inner : OpenClass) (rest : List Char)
  | finish (part : ClassPart) (rest : List Char)

def OpenClass.next? (flags : Flags) (opened : OpenClass) : List Char → Option ClassStep
  | [] => none
  | character :: rest =>
      match opened.addAtStart? character with
      | some opened => some (.more opened rest)
      | none =>
          match character, rest with
          | '[', _ =>
              match readNamedClass flags rest with
              | some (set, rest) => set.map fun set => .more (opened.add set 0) rest
              | none =>
                  let (inner, rest) := readClassStart flags rest
                  some (.enter inner rest)
          | ']', _ => (opened.close? flags).map fun part => .finish part rest
          | '&', '&' :: rest => some (.more (opened.operate .intersection) rest)
          | '-', '-' :: rest => some (.more (opened.operate .difference) rest)
          | '~', '~' :: rest => some (.more (opened.operate .symmetricDifference) rest)
          | _, _ =>
              (readClassMember flags (character :: rest)).map fun (set, rest) =>
                .more (opened.add (fold flags set) 0) rest

/-- The class whose opening bracket was consumed last, within the classes still open around it,
innermost first. -/
def readClass (flags : Flags) :
    (rounds : Nat) → OpenClass → List OpenClass → List Char → Option (ClassPart × List Char)
  | 0, _, _, _ => none
  | rounds + 1, opened, outer, characters =>
      match opened.next? flags (skip flags characters) with
      | none => none
      | some (.more opened rest) => readClass flags rounds opened outer rest
      | some (.enter inner rest) => readClass flags rounds inner (opened :: outer) rest
      | some (.finish part rest) =>
          match outer with
          | [] => some (part, rest)
          | parent :: outer =>
              readClass flags rounds (parent.add part.set part.height) outer rest

/-! ## Groups and alternatives -/

/-- A finished part of a pattern, how deep it nests, and whether it may be repeated, which a change
of flags may not. -/
structure Part where
  pattern : Pattern
  height : Nat
  repeatable : Bool
  deriving DecidableEq, Repr

/-- The alternatives of a group and the parts of the present one, both newest first. -/
structure Level where
  alternatives : List Part
  parts : List Part
  deriving DecidableEq, Repr

def inRow (parts : List Part) : Part :=
  match parts with
  | [] => ⟨.empty, 0, false⟩
  | [part] => part
  | part :: more =>
      ⟨more.foldl (fun pattern earlier => .concatenation earlier.pattern pattern) part.pattern,
        1 + more.foldl (fun height earlier => max height earlier.height) part.height, true⟩

def Level.close (level : Level) : Part :=
  let last := inRow level.parts
  match level.alternatives with
  | [] => last
  | alternatives =>
      ⟨alternatives.foldl (fun pattern earlier => .alternation earlier.pattern pattern)
          last.pattern,
        1 + alternatives.foldl (fun height earlier => max height earlier.height) last.height, true⟩

def Level.add (level : Level) (pattern : Pattern) (height : Nat) (repeatable : Bool) : Level :=
  { level with parts := ⟨pattern, height, repeatable⟩ :: level.parts }

def Level.repeatLast? (level : Level) (repeated : Pattern → Pattern) : Option Level :=
  match level.parts with
  | ⟨pattern, height, true⟩ :: parts =>
      some { level with parts := ⟨repeated pattern, height + 1, true⟩ :: parts }
  | _ => none

def repeated? (mark : Char) : Option (Pattern → Pattern) :=
  match mark with
  | '?' => some fun pattern => .alternation pattern .empty
  | '*' => some fun pattern => .alternation (.repetition pattern) .empty
  | '+' => some .repetition
  | _ => none

def isNameCharacter (first : Bool) (character : Char) : Bool :=
  if first then character == '_' || Unicode.isAlphabetic character
  else
    character == '_' || character == '.' || character == '[' || character == ']' ||
      Unicode.isAlphanumeric character

def readName (characters : List Char) : Option (List Char × List Char) :=
  let name := characters.takeWhile (· != '>')
  match name, characters.dropWhile (· != '>') with
  | first :: others, '>' :: rest =>
      if isNameCharacter true first ∧ others.all (isNameCharacter false) then some (name, rest)
      else none
  | _, _ => none

inductive GroupStart where
  | group (flags : Flags) (name : Option (List Char))
  | directive (flags : Flags)
  deriving DecidableEq, Repr

def readGroupStart (flags : Flags) (characters : List Char) : Option (GroupStart × List Char) :=
  match skip flags characters with
  | '?' :: 'P' :: '<' :: rest =>
      (readName rest).map fun (name, rest) => (.group flags (some name), rest)
  | '?' :: '<' :: rest =>
      (readName rest).map fun (name, rest) => (.group flags (some name), rest)
  | '?' :: rest =>
      match readFlags flags [] rest with
      | some (inner, seen, mark, rest) =>
          if mark = ':' then some (.group inner none, rest)
          else if seen.isEmpty then none
          else some (.directive inner, rest)
      | none => none
  | others => some (.group flags none, others)

def partOfPrimitive (flags : Flags) : Primitive → Pattern
  | .literal character =>
      .oneOf (if flags.unicode ∨ character.toNat < 128 then fold flags (.single character)
        else .single character)
  | .set set => .oneOf set
  | .assertion assertion => .holds assertion

def dot? (flags : Flags) : Option CharacterSet :=
  if !flags.unicode then none
  else if flags.dotMatchesLineFeed then some (.complement .nothing)
  else if flags.carriageReturns then some (.complement (.ofRanges [('\n', '\n'), ('\r', '\r')]))
  else some (.complement (.single '\n'))

def startAssertion (flags : Flags) : Assertion :=
  if flags.multiLine then .lineStart flags.carriageReturns else .textStart

def endAssertion (flags : Flags) : Assertion :=
  if flags.multiLine then .lineEnd flags.carriageReturns else .textEnd

/-- A reading under way: the settings, the names of groups so far, the innermost group and the
groups around it, each with the settings that hold again after the group within it. -/
structure Reading where
  flags : Flags
  names : List (List Char)
  level : Level
  outer : List (Level × Flags)
  deriving DecidableEq, Repr

def Reading.add (reading : Reading) (pattern : Pattern) (height : Nat) : Reading :=
  { reading with level := reading.level.add pattern height true }

def Reading.openGroup? (reading : Reading) : GroupStart → Option Reading
  | .directive flags =>
      some { reading with flags := flags, level := reading.level.add .empty 0 false }
  | .group flags name =>
      let inner : Reading :=
        { reading with
          flags
          level := ⟨[], []⟩
          outer := (reading.level, reading.flags) :: reading.outer }
      match name with
      | none => some inner
      | some name =>
          if reading.names.contains name then none
          else some { inner with names := name :: reading.names }

/-- The reading after a closing parenthesis, which some group must be open for. -/
def Reading.closeGroup? (reading : Reading) : Option Reading :=
  match reading.outer with
  | [] => none
  | (level, flags) :: outer =>
      let inner := reading.level.close
      some { reading with flags, level := level.add inner.pattern (inner.height + 1) true, outer }

def Reading.alternative (reading : Reading) : Reading :=
  { reading with level := ⟨inRow reading.level.parts :: reading.level.alternatives, []⟩ }

def Reading.finish? (reading : Reading) : Option Part :=
  match reading.outer with
  | [] => some reading.level.close
  | _ => none

def Reading.next? (reading : Reading) : List Char → Option (Reading × List Char)
  | [] => none
  | '(' :: rest => do
      let (start, rest) ← readGroupStart reading.flags rest
      return (← reading.openGroup? start, rest)
  | ')' :: rest => reading.closeGroup?.map (·, rest)
  | '|' :: rest => some (reading.alternative, rest)
  | '[' :: rest => do
      let (opened, rest) := readClassStart reading.flags rest
      let (part, rest) ← readClass reading.flags (rest.length + 1) opened [] rest
      return (reading.add (.oneOf part.set) part.height, rest)
  | '{' :: _ => none
  | '.' :: rest => (dot? reading.flags).map fun set => (reading.add (.oneOf set) 0, rest)
  | '^' :: rest => some (reading.add (.holds (startAssertion reading.flags)) 0, rest)
  | '$' :: rest => some (reading.add (.holds (endAssertion reading.flags)) 0, rest)
  | '\\' :: rest => do
      let (primitive, rest) ← readEscape reading.flags rest
      return (reading.add (partOfPrimitive reading.flags primitive) 0, rest)
  | character :: rest =>
      match repeated? character with
      | some repeated => do
          let level ← reading.level.repeatLast? repeated
          let rest := match rest with
            | '?' :: rest => rest
            | _ => rest
          return ({ reading with level }, rest)
      | none => some (reading.add (partOfPrimitive reading.flags (.literal character)) 0, rest)

def Reading.run (reading : Reading) : (rounds : Nat) → List Char → Option Part
  | 0, _ => none
  | rounds + 1, characters =>
      match skip reading.flags characters with
      | [] => reading.finish?
      | others =>
          match reading.next? others with
          | some (reading, rest) => reading.run rounds rest
          | none => none

/-- How deep groups, classes, repetitions, rows and alternatives may nest. -/
def heightLimit : Nat :=
  250

/-- The pattern that a text spells, if it spells one that is neither too deep nor too large. -/
def parse? (text : String) : Option Pattern :=
  let characters := text.toList
  let start : Reading := ⟨.initial, [], ⟨[], []⟩, []⟩
  match start.run (characters.length + 1) characters with
  | some part =>
      if part.height ≤ heightLimit ∧ part.pattern.size ≤ sizeLimit then some part.pattern else none
  | none => none

end StoryGrammar.Pattern
