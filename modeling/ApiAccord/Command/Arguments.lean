import ApiAccord.Text.Basic

/-!
# Arguments

The words of a command line are options and operands.  A `Switch` is an option that a command knows,
with all its spellings; `Arguments.read` tells options from operands.  A long option can carry its
value after an equals sign, a short one right after its letter; letters of short options without
values can stand together; two hyphens alone end the options.
-/

namespace ApiAccord

/-- Why the words of a command line make no sense. -/
inductive UsageFault where
  | noCommand
  | unknownCommand (name : String)
  | unknownOption (name : String)
  /-- An option at the end lacks its value. -/
  | missingValue (name : String)
  /-- An option without values was given one. -/
  | unwantedValue (name : String)
  | missingOption (name : String)
  | missingOperand (name : String)
  | surplusOperand (text : String)
deriving DecidableEq, Repr

def UsageFault.message : UsageFault → String
  | .noCommand => "Missing command."
  | .unknownCommand name => "No such command '" ++ name ++ "'."
  | .unknownOption name => "No such option: " ++ name
  | .missingValue name => "Option '" ++ name ++ "' requires an argument."
  | .unwantedValue name => "Option '" ++ name ++ "' does not take a value."
  | .missingOption name => "Missing option '" ++ name ++ "'."
  | .missingOperand name => "Missing argument '" ++ name ++ "'."
  | .surplusOperand text => "Got unexpected extra argument (" ++ text ++ ")"

/-- An option that a command knows. -/
structure Switch where
  /-- The spelling by which the option is looked up. -/
  name : String
  /-- The other spellings. -/
  aliases : List String
  /-- Whether a value belongs to it. -/
  valued : Bool
deriving DecidableEq, Repr

namespace Switch

/-- An option that is there or not. -/
def flag (name : String) (aliases : List String) : Switch := ⟨name, aliases, false⟩

/-- An option with a value. -/
def value (name : String) (aliases : List String) : Switch := ⟨name, aliases, true⟩

def spelled (spelling : String) (s : Switch) : Bool :=
  s.name == spelling || s.aliases.contains spelling

end Switch

/-- The options and operands that were given. -/
structure Arguments where
  /-- The options by name with their values, in order; a flag has an empty one. -/
  options : List (String × String)
  operands : List String
deriving DecidableEq, Repr

namespace Arguments

/-! ### Looking options up -/

def has (name : String) (a : Arguments) : Bool := a.options.any (·.1 == name)

/-- All values of an option. -/
def values (name : String) (a : Arguments) : List String :=
  (a.options.filter (·.1 == name)).map (·.2)

/-- The last value of an option. -/
def value? (name : String) (a : Arguments) : Option String := (a.values name).getLast?

/-- The value of an option without which there is no command. -/
def required (name : String) (a : Arguments) : Except UsageFault String :=
  (a.value? name).elim (.error (.missingOption name)) .ok

/-! ### Reading -/

/-- What one word gives: options, and the name of one that the next word is the value of. -/
structure Piece where
  options : List (String × String)
  wanting : Option String

/-- Reads the letters after a single hyphen. -/
def ofLetters (switches : List Switch) : List Char → Except UsageFault Piece
  | [] => .ok ⟨[], none⟩
  | c :: rest =>
    let spelling := String.ofList ['-', c]
    match switches.find? (Switch.spelled spelling) with
    | none => .error (.unknownOption spelling)
    | some s =>
      if s.valued then
        if rest.isEmpty then .ok ⟨[], some s.name⟩
        else .ok ⟨[(s.name, String.ofList rest)], none⟩
      else do
        let p ← ofLetters switches rest
        return { p with options := (s.name, "") :: p.options }

/-- Reads a word that begins with two hyphens. -/
def ofLong (switches : List Switch) (word : String) : Except UsageFault Piece :=
  let (head, tail) := Text.Chars.splitAt? '=' word.toList
  let spelling := String.ofList head
  match switches.find? (Switch.spelled spelling), tail.map String.ofList with
  | none, _ => .error (.unknownOption spelling)
  | some s, some v =>
    if s.valued then .ok ⟨[(s.name, v)], none⟩ else .error (.unwantedValue spelling)
  | some s, none => .ok (if s.valued then ⟨[], some s.name⟩ else ⟨[(s.name, "")], none⟩)

/-- Reads a word that is an option. -/
def ofWord (switches : List Switch) (word : String) : Except UsageFault Piece :=
  if Text.startsWith "--" word then ofLong switches word
  else ofLetters switches (word.toList.drop 1)

/-- Whether a word is an option: a hyphen with something after it. -/
def isOption (word : String) : Bool := Text.startsWith "-" word && word != "-"

/-- Puts options before all others. -/
def prepend (options : List (String × String)) (a : Arguments) : Arguments :=
  { a with options := options ++ a.options }

/-- Reads the words of a command line.  Options stand before the operands, or, if `mixed`, among
them. -/
def read (switches : List Switch) (mixed : Bool) : List String → Except UsageFault Arguments
  | [] => .ok ⟨[], []⟩
  | word :: rest =>
    if word == "--" then .ok ⟨[], rest⟩
    else if isOption word then
      match ofWord switches word, rest with
      | .error f, _ => .error f
      | .ok ⟨options, none⟩, rest => (read switches mixed rest).map (prepend options)
      | .ok ⟨_, some name⟩, [] => .error (.missingValue name)
      | .ok ⟨options, some name⟩, value :: rest =>
        (read switches mixed rest).map (prepend (options ++ [(name, value)]))
    else if mixed then do
      let a ← read switches mixed rest
      return { a with operands := word :: a.operands }
    else .ok ⟨[], word :: rest⟩

/-- The operands, if they are as many as they have names. -/
def operandsFor (a : Arguments) (names : List String) : Except UsageFault (List String) :=
  match names.drop a.operands.length, a.operands.drop names.length with
  | name :: _, _ => .error (.missingOperand name)
  | [], text :: _ => .error (.surplusOperand text)
  | [], [] => .ok a.operands

end Arguments

end ApiAccord
