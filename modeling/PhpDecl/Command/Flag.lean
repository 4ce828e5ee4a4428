import PhpDecl.Text.Quoted

/-!
# Flags on a command line

A flag has a long name behind two dashes and perhaps a letter behind one dash. Letters can stand
together, the value of a flag follows it in the same word or in the next one, and the last value
counts.

* `UsageError`, `UsageError.message`: what is wrong with a command line;
* `Flag`, `Flag.set`: flags, and values for them;
* `Word`, `readWord`: the meaning of one word;
* `Parsed`, `parseFlags`: the flags and the arguments of a command line;
* `splitCommand`: the first word that is neither a flag nor the value of one.
-/

namespace PhpDecl

/-! ## Errors -/

/-- What is wrong with a command line. -/
inductive UsageError where
  | unknownCommand (name path : String) (similar : List String)
  | badFlag (word : String)
  | unknownFlag (name : String)
  | unknownLetter (letter : Char) (letters : String)
  | flagWithoutValue (name : String)
  | letterWithoutValue (letter : Char) (letters : String)
  | badSwitch (value flag : String)
  deriving DecidableEq, Repr

namespace UsageError

/-- A letter as a message shows it: its first byte between single quotes. -/
def letterText (c : Char) : String :=
  let byte := ((String.utf8EncodeChar c).head?.map UInt8.toNat).getD 0
  let c := Char.ofNat byte
  let inner :=
    if c = '\'' then ['\\', c] else if c = '"' then [c] else Text.escapeChar c
  String.ofList ('\'' :: inner ++ ['\''])

/-- Names that were perhaps meant. -/
def similarText : List String → String
  | [] => ""
  | names => "\n\nDid you mean this?\n" ++ String.join (names.map fun n => "\t" ++ n ++ "\n")

/-- The wording of an error. -/
def message : UsageError → String
  | .unknownCommand name path similar =>
    "unknown command " ++ Text.quoted name ++ " for " ++ Text.quoted path ++ similarText similar
  | .badFlag word => "bad flag syntax: " ++ word
  | .unknownFlag name => "unknown flag: --" ++ name
  | .unknownLetter c letters =>
    "unknown shorthand flag: " ++ letterText c ++ " in -" ++ letters
  | .flagWithoutValue name => "flag needs an argument: --" ++ name
  | .letterWithoutValue c letters =>
    "flag needs an argument: " ++ letterText c ++ " in -" ++ letters
  | .badSwitch value flag =>
    "invalid argument " ++ Text.quoted value ++ " for " ++ Text.quoted flag ++
      " flag: strconv.ParseBool: parsing " ++ Text.quoted value ++ ": invalid syntax"

end UsageError

/-! ## Flags -/

/-- A flag. A switch needs no value. -/
structure Flag where
  name : String
  letter : Option Char := none
  isSwitch : Bool := false
  deriving DecidableEq, Repr

/-- The value of a flag of some name. -/
abbrev Setting := String × String

namespace Flag

/-- The flag as a message shows it. -/
def title (f : Flag) : String :=
  match f.letter with
  | some c => String.ofList ['-', c] ++ ", --" ++ f.name
  | none => "--" ++ f.name

/-- The switch turned on. -/
def on (f : Flag) : Setting := (f.name, "true")

/-- A word for on or off. -/
def switchValue? (value : String) : Option Bool :=
  if ["1", "t", "T", "true", "TRUE", "True"].contains value then some true
  else if ["0", "f", "F", "false", "FALSE", "False"].contains value then some false
  else none

/-- The flag with a value. -/
def set (f : Flag) (value : String) : Except UsageError Setting :=
  if f.isSwitch then
    match switchValue? value with
    | some true => .ok f.on
    | some false => .ok (f.name, "false")
    | none => .error (.badSwitch value f.title)
  else .ok (f.name, value)

end Flag

/-! ## Words -/

/-- The flags set by a word, and a flag that takes the next word as its value, with the error for
when there is none. -/
structure FlagWord where
  settings : List Setting := []
  pending : Option (String × UsageError) := none

/-- The meaning of a word. -/
inductive Word where
  | argument
  /-- No flags come after this word. -/
  | stop
  | flags (w : FlagWord)

/-- The flag with a long name. -/
def findFlag (flags : List Flag) (name : String) : Option Flag :=
  flags.find? fun f => f.name = name

/-- The flag with a letter. -/
def findLetter (flags : List Flag) (c : Char) : Option Flag :=
  flags.find? fun f => f.letter = some c

/-- The flags of letters behind one dash. -/
def readLetters (flags : List Flag) : List Char → Except UsageError FlagWord
  | [] => .ok {}
  | c :: rest =>
    match findLetter flags c with
    | none => .error (.unknownLetter c (String.ofList (c :: rest)))
    | some f =>
      match rest with
      | '=' :: v :: value => do
        let s ← f.set (String.ofList (v :: value))
        return { settings := [s] }
      | _ =>
        if f.isSwitch then do
          let w ← readLetters flags rest
          return { w with settings := f.on :: w.settings }
        else if rest.isEmpty then
          .ok { pending := some (f.name, .letterWithoutValue c (String.ofList [c])) }
        else .ok { settings := [(f.name, String.ofList rest)] }

/-- The flag of a word behind two dashes. -/
def readLong (flags : List Flag) (cs : List Char) : Except UsageError FlagWord :=
  match cs with
  | [] => .error (.badFlag "--")
  | c :: _ =>
    if c = '-' || c = '=' then .error (.badFlag (String.ofList ('-' :: '-' :: cs)))
    else
      let name := String.ofList (cs.takeWhile (· ≠ '='))
      match findFlag flags name, cs.dropWhile (· ≠ '=') with
      | none, _ => .error (.unknownFlag name)
      | some f, _ :: value => do
        let s ← f.set (String.ofList value)
        return { settings := [s] }
      | some f, [] =>
        if f.isSwitch then .ok { settings := [f.on] }
        else .ok { pending := some (f.name, .flagWithoutValue name) }

/-- The meaning of a word. -/
def readWord (flags : List Flag) (word : String) : Except UsageError Word :=
  match word.toList with
  | ['-', '-'] => .ok .stop
  | '-' :: '-' :: cs => (readLong flags cs).map .flags
  | '-' :: c :: cs => (readLetters flags (c :: cs)).map .flags
  | _ => .ok .argument

/-! ## Command lines -/

/-- The flags and the arguments of a command line, in order. -/
structure Parsed where
  settings : List Setting := []
  arguments : List String := []

namespace Parsed

/-- The last value of a flag, empty if it was not set. -/
def text (p : Parsed) (name : String) : String := (p.settings.reverse.lookup name).getD ""

/-- The switch was turned on last. -/
def isOn (p : Parsed) (name : String) : Bool := p.text name = "true"

/-- With settings in front. -/
def addSettings (p : Parsed) (s : List Setting) : Parsed := { p with settings := s ++ p.settings }

/-- With an argument in front. -/
def addArgument (p : Parsed) (a : String) : Parsed := { p with arguments := a :: p.arguments }

end Parsed

/-- The flags and the arguments of a command line. -/
def parseFlags (flags : List Flag) : List String → Except UsageError Parsed
  | [] => .ok {}
  | word :: rest => do
    match ← readWord flags word with
    | .argument => return (← parseFlags flags rest).addArgument word
    | .stop => return { arguments := rest }
    | .flags { settings, pending := none } => return (← parseFlags flags rest).addSettings settings
    | .flags { settings, pending := some (name, missing) } =>
      match rest with
      | value :: rest =>
        return (← parseFlags flags rest).addSettings (settings ++ [(name, value)])
      | [] => throw missing

/-- The word is taken for a flag whose value is the next word. -/
def takesNext (flags : List Flag) (word : String) : Bool :=
  !word.toList.contains '=' &&
    match word.toList with
    | '-' :: '-' :: name => !(findFlag flags (String.ofList name)).any (·.isSwitch)
    | ['-', c] => c.toNat < 0x80 && !(findLetter flags c).any (·.isSwitch)
    | _ => false

/-- The first word that is neither a flag nor the value of one, and the other words. A flag that
takes the last word is the end of the search. -/
def splitCommand (flags : List Flag) : List String → Option (String × List String)
  | [] => none
  | word :: rest =>
    if word = "--" then none
    else if takesNext flags word then
      match rest with
      | value :: next :: more =>
        (splitCommand flags (next :: more)).map fun r => (r.1, word :: value :: r.2)
      | _ => none
    else if word ≠ "" && word.toList.head? ≠ some '-' then some (word, rest)
    else (splitCommand flags rest).map fun r => (r.1, word :: r.2)

end PhpDecl
