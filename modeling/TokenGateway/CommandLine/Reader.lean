import TokenGateway.CommandLine.Settings

/-!
An option and its value are one argument with an equals sign or two arguments; a value in an argument
of its own does not begin with a hyphen. The command line goes before the environment, and the
environment before the defaults. A value is read when the next option turns up, or at the end.
-/

namespace TokenGateway.CommandLine

inductive Name
  | setting (option : Opt)
  | help
  | version
  deriving Repr, DecidableEq

def Name.ofLong? (name : String) : Option Name :=
  if name = "help" then
    some .help
  else if name = "version" then
    some .version
  else
    (Opt.all.find? fun o => o.longName == name).map .setting

def Name.ofShort? : Char → Option Name
  | 'h' => some .help
  | 'V' => some .version
  | _ => none

inductive Argument
  | endOfOptions
  | long (name : String) (value? : Option String)
  | short (first : Char)
  | plain (text : String)
  deriving Repr, DecidableEq

def Argument.ofChars : List Char → Argument
  | ['-', '-'] => .endOfOptions
  | '-' :: '-' :: cs =>
    match Text.cutAt? '=' cs with
    | some (name, value) => .long (String.ofList name) (some (String.ofList value))
    | none => .long (String.ofList cs) none
  | '-' :: c :: _ => .short c
  | cs => .plain (String.ofList cs)

inductive Pending
  | nothing
  | awaiting (option : Opt)
  | holding (option : Opt) (value : String)
  deriving Repr, DecidableEq

structure Progress where
  given : Given
  pending : Pending

namespace Progress

def settle (g : Given) (option : Opt) (value : String) : Except Error Given :=
  if g.has option then .error (.repeated option) else g.store option value

def resolve (p : Progress) : Except Error Given :=
  match p.pending with
  | .nothing => .ok p.given
  | .awaiting option => .error (.invalidValue option "")
  | .holding option value => settle p.given option value

def takeLong (p : Progress) (name : String) (value? : Option String) : Except Error Progress :=
  -- An unknown name and a needless value are told before anything that waits is looked at.
  match Name.ofLong? name, value? with
  | none, _ => .error (.unknown ("--" ++ name))
  | some .help, some value => .error (.needlessValue "--help" value)
  | some .version, some value => .error (.needlessValue "--version" value)
  | some .help, none => p.resolve.bind fun _ => .error .help
  | some .version, none => p.resolve.bind fun _ => .error .version
  | some (.setting option), some value =>
    if option.takesValue then do
      let given ← p.resolve
      let given ← settle given option value
      return ⟨given, .nothing⟩
    else
      .error (.needlessValue option.display value)
  | some (.setting option), none => do
    let given ← p.resolve
    if option.takesValue then
      return ⟨given, .awaiting option⟩
    else
      let given ← settle given option "true"
      return ⟨given, .nothing⟩

def takeShort (p : Progress) (c : Char) : Except Error Progress :=
  match Name.ofShort? c with
  | some .help => p.resolve.bind fun _ => .error .help
  | some .version => p.resolve.bind fun _ => .error .version
  | _ => .error (.unknown (String.ofList ['-', c]))

def takePlain (p : Progress) (text : String) : Except Error Progress :=
  match p.pending with
  | .awaiting option => .ok ⟨p.given, .holding option text⟩
  | _ => .error (.unknown text)

end Progress

def readArguments : Progress → List String → Except Error Given
  | p, [] => p.resolve
  | p, text :: rest =>
    match Argument.ofChars text.toList with
    | .endOfOptions =>
      match rest with
      | [] => p.resolve
      | extra :: _ => .error (.unknown extra)
    | .long name value? => do
      let p ← p.takeLong name value?
      readArguments p rest
    | .short c => do
      let p ← p.takeShort c
      readArguments p rest
    | .plain text => do
      let p ← p.takePlain text
      readArguments p rest

abbrev Environment := String → Option String

def addEnvironment (env : Environment) : Given → List Opt → Except Error Given
  | g, [] => .ok g
  | g, option :: rest =>
    match env option.envName with
    | some value =>
      if g.has option then
        addEnvironment env g rest
      else do
        let g ← g.store option value
        addEnvironment env g rest
    | none => addEnvironment env g rest

def read (arguments : List String) (env : Environment) : Except Error Settings := do
  let given ← readArguments ⟨.none, .nothing⟩ arguments
  let given ← addEnvironment env given Opt.all
  Settings.ofGiven given

end TokenGateway.CommandLine
