import StoryGrammar.CommandLine

set_option autoImplicit false

/-!
# Program

Reads the grammar file and prints what the command line makes of it.
-/

namespace StoryGrammar.CommandLine

/-- The contents of the file that the arguments name, if they name one. -/
def readContents (arguments : List String) : IO (Except FileError (List UInt8)) := do
  match parse arguments with
  | some (.generate ⟨some file, _, _, _, _⟩) =>
      try
        return .ok (← IO.FS.readBinFile file).toList
      catch error =>
        match error with
        | .permissionDenied .. => return .error .permissionDenied
        | .inappropriateType _ 21 _ => return .error .isDirectory
        | .inappropriateType .. => return .error .notDirectory
        | .invalidArgument .. => return .error .nameTooLong
        | _ => return .error .notFound
  | _ => return .error .notFound

def drawSeed : IO UInt64 := do
  let bytes ← IO.getRandomBytes 8
  return bytes.toList.foldl (fun seed byte => seed * 256 + byte.toUInt64) 0

end StoryGrammar.CommandLine

open StoryGrammar.CommandLine in
def main (arguments : List String) : IO UInt32 := do
  let contents ← readContents arguments
  match run arguments (← drawSeed) fun _ => contents with
  | none => return 1
  | some outcome =>
      IO.print outcome.output
      IO.eprint outcome.error
      return outcome.code.toUInt32
