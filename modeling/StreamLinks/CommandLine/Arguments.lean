import StreamLinks.Text.Pieces

/-!
# The words of a command line

Words are read from the left, and the first thing that decides wins: a word
that cannot be read makes the command line unusable, and a request for help
or for the version is answered at once.
-/

namespace StreamLinks.CommandLine

/-- How links are listed. -/
inductive Form where
  | plain
  | json
deriving DecidableEq

/-- What a resolution is asked for. -/
structure Arguments where
  identifiers : List String := []
  config : Option String := none
  itags : List String := []
  form : Form := .plain
deriving DecidableEq

/-- What a command line asks for. -/
inductive Invocation where
  | resolve (arguments : Arguments)
  | version
  | help
  | unusable
deriving DecidableEq

/-- A word in front of the separator. -/
inductive Word where
  | operand (text : String)
  | separator
  | config (value : Option String)
  | itag (value : Option String)
  | json
  | version
  | help
  | unknown
deriving DecidableEq

namespace Word

/-- The word behind two dashes. -/
def ofLong (text : List Char) : Word :=
  let (name, value) :=
    match Text.cutAt? '=' text with
    | some (name, value) => (String.ofList name, some (String.ofList value))
    | none => (String.ofList text, none)
  match name, value with
  | "config", value => .config value
  | "itag", value => .itag value
  | "json", none => .json
  | "version", none => .version
  | "help", none => .help
  | _, _ => .unknown

/-- The word behind one dash, given by its first letter and the rest. -/
def ofShort (letter : Char) (rest : List Char) : Word :=
  match letter, rest with
  | 'c', [] => .config none
  | 'c', '=' :: value => .config (some (String.ofList value))
  | 'c', value => .config (some (String.ofList value))
  | 'V', _ => .version
  | 'h', _ => .help
  | _, _ => .unknown

/-- What a text says in front of the separator.  One dash alone is an operand. -/
def ofString (text : String) : Word :=
  match text.toList with
  | ['-', '-'] => .separator
  | '-' :: '-' :: rest => ofLong rest
  | '-' :: letter :: rest => ofShort letter rest
  | _ => .operand text

end Word

namespace Arguments

def addIdentifier (arguments : Arguments) (identifier : String) : Arguments :=
  { arguments with identifiers := arguments.identifiers ++ [identifier] }

/-- More itags, between commas. -/
def addItags (arguments : Arguments) (itags : String) : Arguments :=
  { arguments with
    itags := arguments.itags ++ (Text.splitAt ',' itags.toList).map String.ofList }

/-- The configuration file, which has a name and is told once. -/
def withConfig? (arguments : Arguments) (path : String) : Option Arguments :=
  if path = "" ∨ arguments.config.isSome then none
  else some { arguments with config := some path }

/-- The listing as JSON, which is asked for once. -/
def withJson? (arguments : Arguments) : Option Arguments :=
  if arguments.form = .json then none else some { arguments with form := .json }

/-- The invocation once all words are read: the environment may name the
configuration file, and there has to be an identifier. -/
def finish (configVariable : Option String) (arguments : Arguments) : Invocation :=
  match arguments.config, configVariable with
  | none, some path =>
      match arguments.withConfig? path with
      | some arguments =>
          if arguments.identifiers.isEmpty then .unusable else .resolve arguments
      | none => .unusable
  | _, _ => if arguments.identifiers.isEmpty then .unusable else .resolve arguments

end Arguments

namespace Invocation

/-- Reads the words of a command line on top of what has been read. -/
def read (configVariable : Option String) : Arguments → List String → Invocation
  | arguments, [] => arguments.finish configVariable
  | arguments, text :: rest =>
      match Word.ofString text with
      | .operand identifier => read configVariable (arguments.addIdentifier identifier) rest
      | .separator =>
          Arguments.finish configVariable
            { arguments with identifiers := arguments.identifiers ++ rest }
      | .config (some path) =>
          match arguments.withConfig? path with
          | some arguments => read configVariable arguments rest
          | none => .unusable
      | .config none =>
          match rest with
          | [] => .unusable
          | next :: rest =>
              match Word.ofString next with
              | .operand path =>
                  match arguments.withConfig? path with
                  | some arguments => read configVariable arguments rest
                  | none => .unusable
              | _ => .unusable
      | .itag (some itags) => read configVariable (arguments.addItags itags) rest
      | .itag none =>
          match rest with
          | [] => .unusable
          | next :: rest =>
              match Word.ofString next with
              | .operand itags => read configVariable (arguments.addItags itags) rest
              | _ => .unusable
      | .json =>
          match arguments.withJson? with
          | some arguments => read configVariable arguments rest
          | none => .unusable
      | .version => .version
      | .help => .help
      | .unknown => .unusable

/-- What the words of a command line ask for, in an environment that may name
a configuration file. -/
def ofWords (configVariable : Option String) (words : List String) : Invocation :=
  read configVariable {} words

end Invocation

end StreamLinks.CommandLine
