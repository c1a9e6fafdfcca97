import LspHost.Text.Digit

/-!
The options of a command line.

The words are told apart first: an option, perhaps with more in the same word, or a plain word, which
may be the value of the option in front of it. Then the options are obeyed from the left, and the
first that asks for help or for the version ends it. A word that belongs to no option is misuse, but
is noticed only at the end; a word that may be the start of several options is noticed at once.
-/

namespace LspHost

/-- The options that there are. -/
inductive Switch where
  | help
  | config
  | command
  | workspace
  | language
  | logLevel
  | trace
  | version
  deriving DecidableEq, Repr

namespace Switch

/-- The names of all options. -/
def names : List (String × Switch) :=
  [("-h", .help), ("--help", .help), ("--config", .config), ("-c", .config),
    ("--command", .command), ("--workspace", .workspace), ("-w", .workspace),
    ("--lang", .language), ("--log-level", .logLevel), ("--trace", .trace),
    ("--version", .version), ("-v", .version)]

/-- The option with a name. -/
def ofName? (name : List Char) : Option Switch := names.lookup (String.ofList name)

/-- Whether an option comes with a value. -/
def takesValue : Switch → Bool
  | .config | .command | .workspace | .language | .logLevel => true
  | .help | .trace | .version => false

end Switch

/-- What the options say. The path of a configuration may be given without being there. -/
structure Options where
  config : Option (Option String)
  command : Option String
  workspace : Option String
  language : Option String
  logLevel : Option String
  trace : Bool
  deriving DecidableEq, Repr

namespace Options

/-- Nothing is said. -/
def none : Options := ⟨.none, .none, .none, .none, .none, false⟩

end Options

/-- What a command line asks for. -/
inductive Invocation where
  | run (o : Options)
  | help
  | version
  | misused
  deriving DecidableEq, Repr

/-- A word of a command line. `short` tells whether an option has one dash, `more` is what follows in
the same word. -/
inductive CommandWord where
  | option (s : Switch) (short : Bool) (more : Option (List Char))
  | plain (text : List Char)
  | stray
  deriving DecidableEq, Repr

namespace CommandWord

/-- Splits a word at its first equals sign. -/
def splitAssignment : List Char → List Char × Option (List Char)
  | [] => ([], none)
  | '=' :: cs => ([], some cs)
  | c :: cs =>
    let (name, value) := splitAssignment cs
    (c :: name, value)

/-- Digits up to the end, where a line may end. -/
def isDigits : List Char → Bool
  | [] => true
  | ['\n'] => true
  | c :: cs => (Text.digitValue? c).isSome && isDigits cs

/-- Whether a text starts with a digit and is a row of digits. -/
def isNumeral : List Char → Bool
  | c :: cs => (Text.digitValue? c).isSome && isDigits cs
  | [] => false

/-- Whether what follows a dash is a number, with or without a point. -/
def isMagnitude (cs : List Char) : Bool :=
  isNumeral cs ||
    match cs.dropWhile fun c => (Text.digitValue? c).isSome with
    | '.' :: fraction => isNumeral fraction
    | _ => false

/-- A word with dashes that is no option. -/
def unnamed (word : List Char) : CommandWord :=
  if isMagnitude (word.drop 1) || word.contains ' ' then .plain word else .stray

/-- Whether a word has two dashes in front. -/
def isLong : List Char → Bool
  | '-' :: '-' :: _ => true
  | _ => false

/-- The options that a word with two dashes may be the start of. -/
def candidates (start : List Char) : List Switch :=
  Switch.names.filterMap fun (name, s) => if start.isPrefixOf name.toList then some s else none

/-- What a word is that has dashes but is not the name of an option: the start of a name, or a
short option with more behind it. Nothing if it may be several options. -/
def abbreviated? (word : List Char) : Option CommandWord :=
  if isLong word then
    let (start, value) := splitAssignment word
    match candidates start with
    | [] => some (unnamed word)
    | [s] => some (.option s false value)
    | _ => .none
  else
    match Switch.ofName? (word.take 2) with
    | some s => some (.option s true (some (word.drop 2)))
    | .none => some (unnamed word)

/-- What an assignment is whose left side is the name of an option. -/
def assigned? (word : List Char) : Option CommandWord :=
  match splitAssignment word with
  | (name, some value) =>
    (Switch.ofName? name).map fun s => .option s (!isLong name) (some value)
  | _ => none

/-- What a word is; nothing if it may be several options. -/
def ofText? (word : List Char) : Option CommandWord :=
  match word with
  | '-' :: _ :: _ =>
    match Switch.ofName? word with
    | some s => some (.option s (!isLong word) none)
    | none =>
      match assigned? word with
      | some w => some w
      | none => abbreviated? word
  | _ => some (.plain word)

/-- What the words of a command line are. Behind two lone dashes there are no options, and words
behind them are nobody's values. -/
def ofTexts? : List (List Char) → Option (List CommandWord)
  | [] => some []
  | ['-', '-'] :: rest => some (.stray :: rest.map fun _ => .stray)
  | word :: rest => do
    let w ← ofText? word
    let ws ← ofTexts? rest
    some (w :: ws)

end CommandWord

namespace Invocation

/-- Goes on with the options, unless something else is asked for. -/
def andThen (i : Invocation) (f : Options → Invocation) : Invocation :=
  match i with
  | .run o => f o
  | i => i

/-- The languages to choose from. -/
def languages : List String := ["en", "zh"]

/-- The value of an option; two dashes stand for none. -/
def valueOf? (value : List Char) : Option String :=
  if value = ['-', '-'] then none else some (String.ofList value)

/-- Chooses a language. -/
def choose (language : Option String) (o : Options) : Invocation :=
  match language with
  | some l => if languages.contains l then .run { o with language := some l } else .misused
  | none => .run { o with language := none }

/-- Obeys an option that has its value, or needs none. -/
def obey (s : Switch) (value : List Char) (o : Options) : Invocation :=
  let v := valueOf? value
  match s with
  | .help => .help
  | .version => .version
  | .trace => .run { o with trace := true }
  | .config => .run { o with config := some v }
  | .command => .run { o with command := v }
  | .workspace => .run { o with workspace := v }
  | .logLevel => .run { o with logLevel := v }
  | .language => choose v o

/-- The options in one word, in their order, with what is left for the last one. A short option
without a value may be followed by another one. -/
def cluster? (s : Switch) (short : Bool) : Option (List Char) →
    Option (List Switch × Switch × Option (List Char))
  | none => some ([], s, none)
  | some [] => if s.takesValue then some ([], s, some []) else none
  | some (c :: cs) =>
    if s.takesValue then some ([], s, some (c :: cs))
    else if short then do
      let next ← Switch.ofName? ['-', c]
      let (flags, last, value) ← match cs with
        | [] => some ([], next, none)
        | d :: ds => cluster? next true (some (d :: ds))
      some (s :: flags, last, value)
    else none
termination_by more => (more.getD []).length

/-- Obeys flags from the left. -/
def obeyFlags (flags : List Switch) (i : Invocation) : Invocation :=
  flags.foldl (fun i s => i.andThen (obey s [])) i

/-- Reads words from the left; `strays` tells whether there was one that belongs to no option. -/
def ofWords (o : Options) (strays : Bool) : List CommandWord → Invocation
  | [] => if strays then .misused else .run o
  | .option s short more :: rest =>
    match cluster? s short more with
    | none => .misused
    | some (flags, last, value) =>
      match last.takesValue, value, rest with
      | true, none, .plain v :: rest =>
        ((obeyFlags flags (.run o)).andThen (obey last v)).andThen fun o => ofWords o strays rest
      | true, none, _ => .misused
      | _, value, rest =>
        ((obeyFlags flags (.run o)).andThen (obey last (value.getD []))).andThen fun o =>
          ofWords o strays rest
  | _ :: rest => ofWords o true rest

/-- What a command line asks for. -/
def ofArguments (args : List String) : Invocation :=
  match CommandWord.ofTexts? (args.map String.toList) with
  | some words => ofWords .none false words
  | none => .misused

end Invocation

end LspHost
