/-!
# Arguments of a command

The words after the name of a command are options with a value, flags without one, and free words.
They are read from left to right into settings. A question for the version or for help ends the
reading, and so does a word that fits nowhere.

An option is named by a word with two hyphens in front, with its value in the next word or after
`=`; or by a letter behind one hyphen, with its value in the next word or right behind the letter.
Letters of flags may share a word. A next word that begins with a hyphen and goes on is no value.
After a word of just two hyphens all words are free.
-/

namespace CrawlGraph.Command

/-- A flag or an option of a command. -/
structure Switch where
  name : String
  letter : Option Char
  takesValue : Bool
  deriving DecidableEq, Repr

/-- The words that a command takes: its switches, and how many free words. -/
structure Shape where
  switches : List Switch
  freeWords : Nat
  deriving DecidableEq, Repr

/-- Why the words of a command line cannot be followed. -/
inductive Misuse where
  | noCommand
  | unexpected (word : String)
  | noValue (name : String)
  | badValue (name value : String)
  | repeated (name : String)
  | missing (name : String)
  deriving DecidableEq, Repr

/-- The wording of the reason. -/
def Misuse.message : Misuse → String
  | .noCommand => "a command is required"
  | .unexpected word => s!"unexpected argument: {word}"
  | .noValue name => s!"a value is missing for: {name}"
  | .badValue name value => s!"invalid value for {name}: {value}"
  | .repeated name => s!"given more than once: {name}"
  | .missing name => s!"not given: {name}"

/-- What one or two words of a command line set. -/
inductive Setting where
  | flag (name : String)
  | option (name value : String)
  | word (text : String)
  deriving DecidableEq, Repr

/-- How the reading of a command line ended. -/
inductive Ending where
  | finished
  | askedVersion
  | askedHelp
  | misused (reason : Misuse)
  deriving DecidableEq, Repr

/-- The settings of a command line and how its reading ended. -/
structure Arguments where
  settings : List Setting
  ending : Ending
  deriving DecidableEq, Repr

namespace Arguments

/-- Puts settings in front. -/
def after (settings : List Setting) (a : Arguments) : Arguments :=
  { a with settings := settings ++ a.settings }

/-- The reading that ended without a setting. -/
def ended (ending : Ending) : Arguments := ⟨[], ending⟩

/-- The free words, of which a command takes `freeWords`. -/
def ofFreeWords : Nat → List String → Arguments
  | _, [] => ended .finished
  | 0, word :: _ => ended (.misused (.unexpected word))
  | n + 1, word :: rest => (ofFreeWords n rest).after [.word word]

/-- What a word of letters behind one hyphen sets. -/
inductive Letters where
  /-- Only flags; the reading goes on with the next word. -/
  | flags (settings : List Setting)
  /-- An option last that has its value in the next word. -/
  | awaiting (settings : List Setting) (option : Switch)
  | ended (settings : List Setting) (ending : Ending)

/-- Puts a setting in front. -/
def Letters.cons (s : Setting) : Letters → Letters
  | .flags settings => .flags (s :: settings)
  | .awaiting settings option => .awaiting (s :: settings) option
  | .ended settings ending => .ended (s :: settings) ending

/-- The value that stands right behind a letter, with or without `=`. -/
def attached (cs : List Char) : String :=
  match cs with
  | '=' :: rest => String.ofList rest
  | _ => String.ofList cs

/-- What the letters of a word set. -/
def ofLetters (switches : List Switch) : List Char → Letters
  | [] => .flags []
  | c :: rest =>
    match switches.find? fun s => s.letter == some c with
    | some s =>
      if s.takesValue then
        if rest = [] then .awaiting [] s else .flags [.option s.name (attached rest)]
      else (ofLetters switches rest).cons (.flag s.name)
    | none =>
      .ended [] (if c = 'V' then .askedVersion else if c = 'h' then .askedHelp
        else .misused (.unexpected (String.ofList ['-', c])))

/-- What a word with two hyphens in front sets, given the characters after them. -/
def ofName (switches : List Switch) (cs : List Char) : Letters :=
  let name := String.ofList (cs.takeWhile (· ≠ '='))
  let value? := match cs.dropWhile (· ≠ '=') with
    | _ :: rest => some (String.ofList rest)
    | [] => none
  let unexpected := Letters.ended [] (.misused (.unexpected (String.ofList ('-' :: '-' :: cs))))
  match switches.find? fun s => s.name == name, value? with
  | some s, some value => if s.takesValue then .flags [.option name value] else unexpected
  | some s, none => if s.takesValue then .awaiting [] s else .flags [.flag name]
  | none, none =>
    if name = "version" then .ended [] .askedVersion
    else if name = "help" then .ended [] .askedHelp
    else unexpected
  | none, some _ => unexpected

/-- Whether a word can be the value of the option before it. -/
def isValueWord (word : String) : Bool := word = "-" || word.toList.head? ≠ some '-'

/-- Reads the words after the name of a command. -/
def read (shape : Shape) : Nat → List String → Arguments
  | _, [] => ended .finished
  | freeWords, word :: rest =>
    let go (letters : Letters) : Arguments :=
      match letters with
      | .ended settings ending => ⟨settings, ending⟩
      | .flags settings => (read shape freeWords rest).after settings
      | .awaiting settings option =>
        match rest with
        | value :: rest =>
          if isValueWord value then
            (read shape freeWords rest).after (settings ++ [.option option.name value])
          else ⟨settings, .misused (.noValue option.name)⟩
        | [] => ⟨settings, .misused (.noValue option.name)⟩
    match word.toList with
    | ['-', '-'] => ofFreeWords freeWords rest
    | '-' :: '-' :: cs => go (ofName shape.switches cs)
    | '-' :: c :: cs => go (ofLetters shape.switches (c :: cs))
    | _ =>
      match freeWords with
      | 0 => ended (.misused (.unexpected word))
      | n + 1 => (read shape n rest).after [.word word]

end Arguments

/-- The arguments that words give a command. -/
def Shape.read (shape : Shape) (words : List String) : Arguments :=
  Arguments.read shape shape.freeWords words

end CrawlGraph.Command
