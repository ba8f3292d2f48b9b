/-! Options on a command line. An option has a long name after two hyphens and may have a letter after
one. A value follows its option as the next argument, after an equals sign, or right after the letter;
the next argument is no value if it looks like an option itself. -/
namespace Postboard.Command

structure Flag where
  name : String
  letter : Option Char := none
  value : Option String := none
  help : String
  default : Option String := none
  required : Bool := false
  accepts : String → Bool := fun _ => true

inductive Stop where
  | help
  | version
  | misuse
  deriving DecidableEq

structure Reading where
  given : List (String × String) := []
  waiting : Option Flag := none
  /-- Two hyphens alone came by, after which nothing is an option. -/
  closed : Bool := false

namespace Reading

def give (r : Reading) (flag : Flag) (value : String) : Except Stop Reading :=
  if r.given.any (·.1 == flag.name) || !flag.accepts value then .error .misuse
  else .ok { r with given := r.given ++ [(flag.name, value)], waiting := none }

def long (flags : List Flag) (r : Reading) (s : List Char) : Except Stop Reading :=
  let name := String.ofList (s.takeWhile (· != '='))
  let value : Option String := match s.dropWhile (· != '=') with
    | _ :: value => some (String.ofList value)
    | [] => none
  match flags.find? (·.name == name), value with
  | none, _ => .error (if name == "help" && value.isNone then .help else .misuse)
  | some flag, value =>
    match flag.value, value with
    | none, none => r.give flag ""
    | none, some _ => .error .misuse
    | some _, some value => r.give flag value
    | some _, none => if r.given.any (·.1 == flag.name) then .error .misuse else .ok { r with waiting := some flag }

def letters (flags : List Flag) (r : Reading) : List Char → Except Stop Reading
  | [] => .ok r
  | c :: rest =>
    match flags.find? (·.letter == some c) with
    | none => .error (if c == 'h' then .help else .misuse)
    | some flag =>
      match flag.value, rest with
      | none, _ =>
        match r.give flag "" with
        | .ok r => letters flags r rest
        | .error stop => .error stop
      | some _, [] => .ok { r with waiting := some flag }
      | some _, '=' :: value => r.give flag (String.ofList value)
      | some _, value => r.give flag (String.ofList value)

def looksLikeOption (s : List Char) : Bool :=
  match s with
  | '-' :: _ :: _ => true
  | _ => false

def next (flags : List Flag) (r : Reading) (argument : String) : Except Stop Reading :=
  let s := argument.toList
  match r.waiting, s with
  | some flag, _ => if looksLikeOption s then .error .misuse else r.give flag argument
  | none, ['-', '-'] => if r.closed then .error .misuse else .ok { r with closed := true }
  | none, '-' :: '-' :: rest => if r.closed then .error .misuse else r.long flags rest
  | none, '-' :: c :: rest => if r.closed then .error .misuse else r.letters flags (c :: rest)
  | none, _ => .error .misuse

end Reading

structure Values where
  given : List (String × String)
  flags : List Flag

def readArguments (flags : List Flag) (arguments : List String) : Except Stop Values := do
  let r ← arguments.foldlM (Reading.next flags) {}
  if r.waiting.isSome || flags.any (fun flag => flag.required && !r.given.any (·.1 == flag.name)) then
    throw .misuse
  return ⟨r.given, flags⟩

def Values.get? (v : Values) (name : String) : Option String :=
  match v.given.lookup name with
  | some value => some value
  | none => (v.flags.find? (·.name == name)).bind (·.default)

def Values.get (v : Values) (name : String) : String := (v.get? name).getD ""

def Values.has (v : Values) (name : String) : Bool := (v.given.lookup name).isSome

def Flag.usage (flag : Flag) : String :=
  (match flag.letter with
    | some c => String.ofList ['-', c, ',', ' ']
    | none => "    ") ++
  "--" ++ flag.name ++
  (match flag.value with
    | some value => " <" ++ value ++ ">"
    | none => "")

def Flag.explanation (flag : Flag) : String :=
  flag.help ++
  (match flag.default with
    | some value => " [default: " ++ value ++ "]"
    | none => "")

def columns (rows : List (String × String)) : List String :=
  let width := (rows.map (·.1.length)).foldl max 0
  rows.map fun (left, right) =>
    "  " ++ left ++ String.ofList (List.replicate (width - left.length) ' ') ++ "  " ++ right

def helpRows (flags : List Flag) : List (String × String) :=
  flags.map (fun flag => (flag.usage, flag.explanation)) ++ [("-h, --help", "Print help")]

end Postboard.Command
