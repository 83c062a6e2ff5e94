import StoryGrammar.Grammar

set_option autoImplicit false

/-!
# Command line

What the arguments of the program ask for, and what the program prints for them. Texts are printed
as they are generated, so those that precede a failure stay printed. Log records, which the
environment can ask for on the error stream, are left out of what is printed.
-/

namespace StoryGrammar.CommandLine

/-! ## Arguments -/

structure Invocation where
  file : Option String
  symbol : String
  count : Nat
  seed : Option UInt64
  maxDepth : UInt64
  deriving DecidableEq, Repr

inductive Command where
  | version
  | help
  | listModifiers
  | generate (invocation : Invocation)
  deriving DecidableEq, Repr

structure Given where
  file : Option String
  symbol : Option String
  count : Option Nat
  seed : Option UInt64
  maxDepth : Option UInt64
  deriving DecidableEq, Repr

namespace Given

def nothing : Given :=
  ⟨none, none, none, none, none⟩

/-- Adds the next argument that is not an option: the file, the symbol, and then the count. -/
def addPositional? (given : Given) (argument : String) : Option Given :=
  match given.file, given.symbol, given.count with
  | none, _, _ => if argument.isEmpty then none else some { given with file := some argument }
  | some _, none, _ => some { given with symbol := some argument }
  | some _, some _, none =>
      (Text.natural? UInt64.size argument).map fun count => { given with count := some count }
  | some _, some _, some _ => none

/-- Sets an option, which must be known, not set before, and in its range. -/
def setOption? (given : Given) (name value : String) : Option Given := do
  let number ← Text.natural? UInt64.size value
  match name, given.seed, given.maxDepth with
  | "seed", none, _ => some { given with seed := some (UInt64.ofNat number) }
  | "max-depth", _, none =>
      if 1 ≤ number ∧ number ≤ greatestDepthLimit then
        some { given with maxDepth := some (UInt64.ofNat number) }
      else none
  | _, _, _ => none

def invocation (given : Given) : Invocation where
  file := given.file
  symbol := given.symbol.getD Config.default.startSymbol
  count := given.count.getD 1
  seed := given.seed
  maxDepth := given.maxDepth.getD Config.default.maxDepth

end Given

def readPositionals (given : Given) : List String → Option Command
  | [] => some (.generate given.invocation)
  | argument :: rest => do readPositionals (← given.addPositional? argument) rest

inductive Argument where
  /-- Ends the options. -/
  | endOfOptions
  /-- An option by its long name, perhaps with a value after an equals sign. -/
  | long (name : String) (value : Option String)
  /-- Options by their short names, the first of which decides. -/
  | short (name : Char)
  | positional
  deriving DecidableEq, Repr

def Argument.classify (argument : String) : Argument :=
  match argument.toList with
  | ['-', '-'] => .endOfOptions
  | '-' :: '-' :: characters =>
      let name := String.ofList (characters.takeWhile (· != '='))
      match characters.dropWhile (· != '=') with
      | [] => .long name none
      | _ :: value => .long name (some (String.ofList value))
  | '-' :: character :: _ => .short character
  | _ => .positional

/-- The command that the word for listing modifiers makes with what follows it. -/
def readListing (rest : List String) : Option Command :=
  if rest = [] ∨ rest = ["--"] then some .listModifiers
  else if rest.head? = some "--help" ∨ rest.head? = some "-h" then some .help
  else none

/-- The command that the word for help makes with what follows it: the name of a command, if
anything. -/
def readHelp (rest : List String) : Option Command :=
  if rest = [] ∨ rest = ["modifiers"] ∨ rest = ["help"] then some .help else none

def readArguments (given : Given) : List String → Option Command
  | [] => some (.generate given.invocation)
  | argument :: rest =>
      match Argument.classify argument with
      | .endOfOptions => readPositionals given rest
      | .long "version" none => some .version
      | .long "help" none => some .help
      | .long name (some value) => do readArguments (← given.setOption? name value) rest
      | .long name none =>
          match rest with
          | [] => none
          | value :: rest =>
              if Argument.classify value = .positional then do
                readArguments (← given.setOption? name value) rest
              else none
      | .short 'V' => some .version
      | .short 'h' => some .help
      | .short _ => none
      | .positional =>
          if argument = "modifiers" then readListing rest
          else if argument = "help" then readHelp rest
          else do readArguments (← given.addPositional? argument) rest

def parse (arguments : List String) : Option Command :=
  readArguments .nothing arguments

/-! ## Output -/

/-- The texts that are worded by the libraries the program is built on. -/
structure Wording where
  /-- What is said of a text that is no regular expression. -/
  refusals : String → String
  /-- What is printed for arguments that ask for help. -/
  help : List String → String
  /-- What is printed for arguments that make no sense. -/
  misuse : List String → String

/-- Short texts that stand in for those of the libraries. -/
def Wording.brief : Wording :=
  let usage := "Usage: tracery-gen [OPTIONS] [GRAMMAR_FILE] [SYMBOL] [COUNT] [COMMAND]\n"
  ⟨Pattern.briefRefusal, fun _ => usage, fun _ => usage⟩

/-- What the program leaves behind: its exit code and what it printed. -/
structure Outcome where
  code : UInt8
  output : String
  error : String
  deriving DecidableEq, Repr

/-- Why there are no contents of a file, with the number the system has for the error and its
wording of it. -/
inductive FileError where
  | unopened (code : Nat) (kind message : String)
  | unreadable (code : Nat) (message : String)
  deriving DecidableEq, Repr

namespace FileError

def notFound : FileError :=
  .unopened 2 "NotFound" "No such file or directory"

def permissionDenied : FileError :=
  .unopened 13 "PermissionDenied" "Permission denied"

def notDirectory : FileError :=
  .unopened 20 "NotADirectory" "Not a directory"

/-- The error for a name, or a whole path, of more bytes than the system allows. -/
def nameTooLong : FileError :=
  .unopened 36 "InvalidFilename" "File name too long"

/-- The error for a directory, which is opened but holds no bytes. -/
def isDirectory : FileError :=
  .unreadable 21 "Is a directory"

/-- The detailed form of an error. One that comes up while a grammar is read is reported as a
malformed grammar. -/
def detailed : FileError → String
  | .unopened code kind message =>
      detailedRecord "Os"
        [("code", toString code), ("kind", kind), ("message", Text.quoted message)]
  | .unreadable code message =>
      "InvalidGrammar(" ++
        Text.quoted ("malformed JSON: " ++ message ++ " (os error " ++ toString code ++ ")") ++ ")"

end FileError

def lines (texts : List String) : String :=
  String.join (texts.map (· ++ "\n"))

/-- The outcome of a run that printed some texts, then perhaps failed with an error whose detailed
form is given. -/
def Outcome.ofTexts (texts : List String) (error : Option String) : Outcome :=
  match error with
  | none => ⟨0, lines texts, ""⟩
  | some error => ⟨1, lines texts, "Error: " ++ error ++ "\n"⟩

/-- The texts of up to `count` generations, and the error of the first that fails. -/
def generateTexts : (count : Nat) → Grammar → Option (List String × Option GrammarError)
  | 0, _ => some ([], none)
  | count + 1, grammar =>
      match grammar.generate with
      | none => none
      | some (.error error, _) => some ([], some error)
      | some (.ok text, grammar) =>
          (generateTexts count grammar).map fun (texts, error) => (text :: texts, error)

/-- The grammar that an invocation generates from, before its file is loaded. A seed that was not
given is drawn elsewhere. -/
def Invocation.grammar (invocation : Invocation) (drawnSeed : UInt64) : Grammar :=
  (Grammar.ofSeed (invocation.seed.getD drawnSeed)).setConfig
    ⟨invocation.symbol, invocation.maxDepth⟩

/-- Runs an invocation on the contents of its file. There is no outcome where a draw never ends. -/
def Invocation.run (invocation : Invocation) (drawnSeed : UInt64)
    (contents : String → Except FileError (List UInt8)) (refusals : String → String) :
    Option Outcome :=
  match invocation.file with
  | none => some (.ofTexts [] (some (Text.quoted "Grammar file path required")))
  | some file =>
      match contents file with
      | .error error => some (.ofTexts [] (some error.detailed))
      | .ok bytes =>
          match (invocation.grammar drawnSeed).loadBytes bytes with
          | (.error error, _) => some (.ofTexts [] (some (error.detailed refusals)))
          | (.ok (), grammar) =>
              (generateTexts invocation.count grammar).map fun (texts, error) =>
                .ofTexts texts (error.map (·.detailed refusals))

/-- Runs the program. Arguments that make no sense give the exit code two. -/
def run (arguments : List String) (drawnSeed : UInt64)
    (contents : String → Except FileError (List UInt8)) (wording : Wording := .brief) :
    Option Outcome :=
  match parse arguments with
  | none => some ⟨2, "", wording.misuse arguments⟩
  | some .version => some ⟨0, "tracery-gen 0.1.0\n", ""⟩
  | some .help => some ⟨0, wording.help arguments, ""⟩
  | some .listModifiers => some (.ofTexts ModifierTable.builtIn.names none)
  | some (.generate invocation) => invocation.run drawnSeed contents wording.refusals

end StoryGrammar.CommandLine
