/-!
# Command-line arguments

A command takes options, flags and positional arguments, or goes on with a
subcommand. Options and flags have a long name after two hyphens and may have a
letter after one. The value of an option is the next argument, or follows an
equals sign, or directly follows the letter. After two hyphens alone everything
is positional. A single hyphen is a value like any other.

A value that begins with a hyphen is never taken from the next argument. Options
and flags are given at most once at each level; of an option that is given at
several levels, the deepest counts.

`Grammar.read` is what arguments say, or why they say nothing.
-/

namespace Harbor.Command

/-- An option or a flag. -/
structure Parameter where
  name : String
  letter? : Option Char
  /-- The values that an option accepts. A flag takes none. -/
  accepts? : Option (String → Bool)

/-- What a command understands. -/
structure Level where
  parameters : List Parameter
  /-- The values that each positional argument accepts. All of them are needed. -/
  positionals : List (String → Bool)
  /-- Parameters that must be given. -/
  required : List String
  /-- Parameters that exclude each other. -/
  conflicts : List (String × String)

/-- A command and its subcommands. -/
inductive Grammar where
  | command (level : Level) (subcommands : List (String × Grammar))

/-- Why nothing is to be done with the arguments. -/
inductive Stop where
  /-- They ask for help. -/
  | help
  /-- They ask for the version. -/
  | version
  /-- They are not understood. -/
  | misuse
  deriving Repr, DecidableEq

/-- What arguments say. -/
structure Reading where
  /-- Names of the subcommands, outermost first. -/
  path : List String
  /-- Flags and options that are given, outermost first. A flag has the empty value. -/
  given : List (String × String)
  positionals : List String
  deriving Repr, DecidableEq

namespace Reading

/-- Is a flag given? -/
def has (r : Reading) (name : String) : Bool := r.given.any fun p => p.1 == name

/-- The value of an option, the deepest if there are several. -/
def value? (r : Reading) (name : String) : Option String := r.given.reverse.lookup name

end Reading

/-! ## One level -/

/-- An option or positional argument whose value has not been looked at yet. -/
structure Pending where
  /-- The name of an option. A positional argument has none. -/
  name? : Option String
  accepts : String → Bool
  /-- The value, once it is there. -/
  value? : Option String

/-- How far a level has been read. -/
structure Progress where
  given : List (String × String)
  positionals : List String
  pending? : Option Pending
  /-- Have two hyphens alone been met? -/
  trailing : Bool

namespace Progress

/-- Nothing has been read. -/
def new : Progress := ⟨[], [], none, false⟩

/-- Is an option waiting for its value? -/
def awaitsValue (p : Progress) : Bool := p.pending?.any fun q => q.value?.isNone

/-- Accepts what is pending. -/
def resolve (p : Progress) : Except Stop Progress :=
  match p.pending? with
  | none => .ok p
  | some ⟨_, _, none⟩ => .error .misuse
  | some ⟨name?, accepts, some value⟩ =>
    if !accepts value then .error .misuse
    else
      match name? with
      | none => .ok { p with positionals := p.positionals ++ [value], pending? := none }
      | some name =>
        if p.given.any fun g => g.1 == name then .error .misuse
        else .ok { p with given := p.given ++ [(name, value)], pending? := none }

/-- Begins an option, with its value if that is attached. -/
def beginOption (p : Progress) (name : String) (accepts : String → Bool) (value? : Option String) :
    Except Stop Progress := do
  return { ← p.resolve with pending? := some ⟨some name, accepts, value?⟩ }

/-- Takes a flag. -/
def takeFlag (p : Progress) (name : String) : Except Stop Progress := do
  let p ← p.resolve
  if p.given.any fun g => g.1 == name then .error .misuse
  else return { p with given := p.given ++ [(name, "")] }

/-- Takes an argument that is neither an option nor a flag. -/
def takeValue (p : Progress) (level : Level) (value : String) : Except Stop Progress := do
  match p.pending?, p.awaitsValue && !p.trailing with
  | some q, true => return { p with pending? := some { q with value? := some value } }
  | _, _ =>
    let p ← p.resolve
    match level.positionals[p.positionals.length]? with
    | some accepts => return { p with pending? := some ⟨none, accepts, some value⟩ }
    | none => .error .misuse

/-- Ends the reading with an answer to what the arguments ask for. -/
def stop (p : Progress) (answer : Stop) : Except Stop Progress := do
  discard p.resolve
  .error answer

end Progress

namespace Level

/-- Takes an argument with two hyphens in front. -/
def takeLong (level : Level) (isTop : Bool) (p : Progress) (text : List Char) :
    Except Stop Progress :=
  let name := String.ofList (text.takeWhile (· != '='))
  let attached? := match text.dropWhile (· != '=') with
    | _ :: value => some (String.ofList value)
    | [] => none
  match level.parameters.find? fun q => q.name == name with
  | some q =>
    match q.accepts?, attached? with
    | some accepts, _ => p.beginOption name accepts attached?
    | none, none => p.takeFlag name
    | none, some _ => .error .misuse
  | none =>
    if attached?.isSome then .error .misuse
    else if name = "help" then p.stop .help
    else if isTop && name = "version" then p.stop .version
    else .error .misuse

/-- Takes letters with one hyphen in front. -/
def takeLetters (level : Level) (isTop : Bool) (p : Progress) : List Char → Except Stop Progress
  | [] => .ok p
  | c :: rest =>
    match level.parameters.find? fun q => q.letter? == some c with
    | some q =>
      match q.accepts? with
      | some accepts =>
        let attached? := match rest with
          | [] => none
          | '=' :: value => some (String.ofList value)
          | value => some (String.ofList value)
        p.beginOption q.name accepts attached?
      | none => do level.takeLetters isTop (← p.takeFlag q.name) rest
    | none =>
      if c = 'h' then p.stop .help
      else if isTop && c = 'V' then p.stop .version
      else .error .misuse

/-- Takes one argument. -/
def take (level : Level) (isTop : Bool) (p : Progress) (argument : String) :
    Except Stop Progress :=
  if p.trailing then p.takeValue level argument
  else
    match argument.toList with
    | ['-', '-'] => .ok { p with trailing := true }
    | '-' :: '-' :: text => level.takeLong isTop p text
    | ['-'] => p.takeValue level argument
    | '-' :: letters => level.takeLetters isTop p letters
    | _ => p.takeValue level argument

/-- Ends a level that no subcommand follows. -/
def finish (level : Level) (p : Progress) : Except Stop Reading := do
  let p ← p.resolve
  let has (name : String) : Bool := p.given.any fun g => g.1 == name
  if p.positionals.length < level.positionals.length then .error .misuse
  else if !level.required.all has then .error .misuse
  else if level.conflicts.any fun (a, b) => has a && has b then .error .misuse
  else return ⟨[], p.given, p.positionals⟩

end Level

/-! ## All levels -/

namespace Grammar

/-- The options and flags of a command. -/
def level : Grammar → Level
  | command level _ => level

/-- The subcommands of a command. -/
def subcommands : Grammar → List (String × Grammar)
  | command _ subcommands => subcommands

/-- What is said about help on a subcommand. -/
def readHelp (g : Grammar) : List String → Stop
  | [] => .help
  | name :: rest =>
    if g.subcommands.isEmpty then .misuse
    else if name = "help" then (if rest.isEmpty then .help else .misuse)
    else
      match g.subcommands.lookup name with
      | some sub => sub.readHelp rest
      | none => .misuse

/-- Goes on reading a level. -/
def readFrom (g : Grammar) (isTop : Bool) (p : Progress) : List String → Except Stop Reading
  | [] => if g.subcommands.isEmpty then g.level.finish p else .error .misuse
  | argument :: rest =>
    let isName := !p.trailing && !p.awaitsValue && !g.subcommands.isEmpty
    if isName && argument == "help" then .error (g.readHelp rest)
    else
      match if isName then g.subcommands.lookup argument else none with
      | some sub => do
        let inner ← sub.readFrom false .new rest
        let p ← p.resolve
        return ⟨argument :: inner.path, p.given ++ inner.given, inner.positionals⟩
      | none => do g.readFrom isTop (← g.level.take isTop p argument) rest

/-- What arguments say. -/
def read (g : Grammar) (arguments : List String) : Except Stop Reading :=
  g.readFrom true .new arguments

end Grammar

end Harbor.Command
