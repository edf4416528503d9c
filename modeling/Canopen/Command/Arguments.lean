/-!
# Arguments

Options may stand anywhere among the other arguments.  A long name takes its value after an equals
sign or from the next argument; short names may be written together behind one dash, and what
follows one that takes a value is the value.  Two dashes end the options.
-/

namespace Canopen.Command

/-- Why arguments cannot be read. -/
inductive ArgumentError where
  | unknownOption (name : String)
  | valueMissing (name : String)
  | valueNotTaken (name : String)
deriving DecidableEq, Repr

/-- An option: its long name, its letter if it has one, and whether it takes a value. -/
structure OptionRule where
  name : String
  letter : Option Char := none
  takesValue : Bool := false
deriving DecidableEq, Repr

/-- Arguments that have been read: the options by name, with their values, and all others. -/
structure Arguments where
  options : List (String × String) := []
  others : List String := []
deriving DecidableEq, Repr

namespace Arguments

/-- The option was given. -/
def has (arguments : Arguments) (name : String) : Bool :=
  arguments.options.any (·.1 == name)

/-- The value of an option; the last one holds. -/
def value? (arguments : Arguments) (name : String) : Option String :=
  arguments.options.reverse.lookup name

end Arguments

/-- What one argument says: options that are complete, and perhaps one whose value comes next. -/
structure OptionGroup where
  complete : List (String × String) := []
  awaiting : Option String := none

/-- The options behind one dash. -/
def readLetters (rules : List OptionRule) : List Char → Except ArgumentError OptionGroup
  | [] => .ok {}
  | letter :: rest =>
      match rules.find? (·.letter == some letter) with
      | none => .error (.unknownOption (String.ofList ['-', letter]))
      | some rule =>
          if rule.takesValue then
            if rest.isEmpty then .ok { awaiting := some rule.name }
            else .ok { complete := [(rule.name, String.ofList rest)] }
          else
            (readLetters rules rest).map fun group =>
              { group with complete := (rule.name, "") :: group.complete }

/-- The option behind two dashes. -/
def readName (rules : List OptionRule) (written : List Char) : Except ArgumentError OptionGroup :=
  let name := String.ofList (written.takeWhile (· != '='))
  match rules.find? (·.name == name), written.dropWhile (· != '=') with
  | none, _ => .error (.unknownOption ("--" ++ name))
  | some rule, [] => .ok (if rule.takesValue then { awaiting := some name }
      else { complete := [(name, "")] })
  | some rule, _ :: value =>
      if rule.takesValue then .ok { complete := [(name, String.ofList value)] }
      else .error (.valueNotTaken ("--" ++ name))

/-- The options in one argument; none if it is no option. -/
def readOption (rules : List OptionRule) (argument : String) :
    Except ArgumentError (Option OptionGroup) :=
  match argument.toList with
  | '-' :: '-' :: written => (readName rules written).map some
  | '-' :: letter :: rest => (readLetters rules (letter :: rest)).map some
  | _ => .ok none

/-- All arguments of a command. -/
def readArguments (rules : List OptionRule) : List String → Except ArgumentError Arguments
  | [] => .ok {}
  | argument :: rest =>
      if argument = "--" then .ok { others := rest }
      else
        match readOption rules argument, rest with
        | .error error, _ => .error error
        | .ok none, rest =>
            (readArguments rules rest).map fun read =>
              { read with others := argument :: read.others }
        | .ok (some ⟨complete, none⟩), rest =>
            (readArguments rules rest).map fun read =>
              { read with options := complete ++ read.options }
        | .ok (some ⟨_, some name⟩), [] => .error (.valueMissing name)
        | .ok (some ⟨complete, some name⟩), value :: rest =>
            (readArguments rules rest).map fun read =>
              { read with options := complete ++ (name, value) :: read.options }

/-- The options in front of the first other argument, and what is left from there on. -/
def readLeading (rules : List OptionRule) :
    List String → Except ArgumentError (Arguments × List String)
  | [] => .ok ({}, [])
  | argument :: rest =>
      if argument = "--" then .ok ({}, rest)
      else
        match readOption rules argument with
        | .error error => .error error
        | .ok none => .ok ({}, argument :: rest)
        | .ok (some group) =>
            match group.awaiting with
            | some name => .error (.valueMissing name)
            | none =>
                (readLeading rules rest).map fun (read, left) =>
                  ({ read with options := group.complete ++ read.options }, left)

end Canopen.Command
