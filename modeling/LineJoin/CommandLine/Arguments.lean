import LineJoin.Clipboard
import LineJoin.Text.DecimalDigit
import LineJoin.Text.Quoted

/-!
# Arguments

The words of a command line, first told apart as options and operands, then taken one after the
other. An option may be shortened as long as only one option starts that way, and takes its value
from the same word after an equals sign or from the next word. A double hyphen ends the options. The
first operand is the file; whatever is left over is an error.
-/

namespace LineJoin.CommandLine

/-- The options. -/
inductive Switch
  | help
  | lines
  | language
  | toClipboard
  | stdout
  | clipboard
  | server
  | serve
  | verbose
  deriving DecidableEq, Repr

namespace Switch

/-- Every option, in the order in which they are declared. -/
def all : List Switch :=
  [help, lines, language, toClipboard, stdout, clipboard, server, serve, verbose]

/-- How an option is written. -/
def forms : Switch → List String
  | help => ["-h", "--help"]
  | lines => ["--lines"]
  | language => ["--language"]
  | toClipboard => ["--to-clipboard"]
  | stdout => ["--stdout"]
  | clipboard => ["--clipboard"]
  | server => ["--server"]
  | serve => ["--serve"]
  | verbose => ["--verbose"]

/-- Whether an option takes a value. -/
def takesValue : Switch → Bool
  | lines | language | clipboard | server => true
  | _ => false

/-- An option in messages: all the ways to write it. -/
def title (s : Switch) : Text := "/".toList.intercalate (s.forms.map (·.toList))

/-- Every way to write an option, with the option. -/
def table : List (Text × Switch) := all.flatMap fun s => s.forms.map fun form => (form.toList, s)

end Switch

/-- What was chosen on the command line. -/
structure Options where
  file : Option Text := none
  lines : List Text := []
  language : Option Text := none
  toClipboard : Bool := false
  stdout : Bool := false
  clipboard : Clipboard := .system
  server : Option Text := none
  serve : Bool := false
  verbose : Bool := false
  deriving DecidableEq, Repr

/-- Why the arguments cannot be taken. -/
inductive Misuse
  | ambiguous (word : Text) (matching : List Text)
  | valueMissing (switch : Switch)
  | valueIgnored (switch : Switch) (value : Text)
  | badClipboard (value : Text)
  | conflict (switch other : Switch)
  | unrecognized (words : List Text)
  deriving DecidableEq, Repr

/-- The words that report a misuse. -/
def Misuse.message : Misuse → Text
  | ambiguous word matching =>
    "ambiguous option: ".toList ++ word ++ " could match ".toList
      ++ ", ".toList.intercalate matching
  | valueMissing switch =>
    "argument ".toList ++ switch.title ++ ": expected one argument".toList
  | valueIgnored switch value =>
    "argument ".toList ++ switch.title ++ ": ignored explicit argument ".toList
      ++ Text.quoted value
  | badClipboard value =>
    "argument --clipboard: invalid choice: ".toList ++ Text.quoted value
      ++ " (choose from 'system', 'stream')".toList
  | conflict switch other =>
    "argument ".toList ++ switch.title ++ ": not allowed with argument ".toList ++ other.title
  | unrecognized words => "unrecognized arguments: ".toList ++ " ".toList.intercalate words

/-! ## Telling words apart -/

/-- What a word of the command line is. -/
inductive Word
  | operand (text : Text)
  | separator
  /-- An option that is known, with the value from the same word. -/
  | option (switch : Switch) (form : Text) (value : Option Text)
  /-- A word that looks like an option and is none. -/
  | unknown (text : Text)
  deriving DecidableEq, Repr

/-- A name and the value after its first equals sign. -/
def splitValue (t : Text) : Text × Option Text :=
  match Text.splitFirst '=' t with
  | some (name, value) => (name, some value)
  | none => (t, none)

/-- The options that a word may be short for: a long option by any of its beginnings, a short one
with its value attached. -/
def candidates (t : Text) : List Word :=
  match t with
  | '-' :: '-' :: _ =>
    let (name, value) := splitValue t
    (Switch.table.filter (name.isPrefixOf ·.1)).map fun (form, switch) =>
      .option switch form value
  | _ =>
    (Switch.table.filter (t.take 2 == ·.1)).map fun (form, switch) =>
      .option switch form (some (t.drop 2))

/-- A text without the line feed that it may end in. -/
def dropLastFeed (t : Text) : Text := if t.getLast? = some '\n' then t.dropLast else t

/-- A negative number: digits after a hyphen, with or without a point among them. A line feed at the
end does not count. -/
def isNegativeNumber (t : Text) : Bool :=
  match dropLastFeed t with
  | '-' :: rest =>
    let whole := rest.takeWhile fun c => (Text.digitValue? c).isSome
    match rest.dropWhile fun c => (Text.digitValue? c).isSome with
    | [] => !whole.isEmpty
    | '.' :: fraction => !fraction.isEmpty && fraction.all fun c => (Text.digitValue? c).isSome
    | _ => false
  | _ => false

/-- What a word is that has no option written in full. -/
def shortened (t : Text) : Except Misuse Word :=
  match candidates t with
  | [word] => .ok word
  | [] =>
    if isNegativeNumber t || t.contains ' ' then .ok (.operand t) else .ok (.unknown t)
  | words =>
    .error (.ambiguous t (words.filterMap fun
      | .option _ form _ => some form
      | _ => none))

/-- What a word before the double hyphen is. -/
def wordOf (t : Text) : Except Misuse Word :=
  match t with
  | '-' :: _ :: _ =>
    match Switch.table.lookup t with
    | some switch => .ok (.option switch t none)
    | none =>
      match splitValue t with
      | (name, some value) =>
        match Switch.table.lookup name with
        | some switch => .ok (.option switch name (some value))
        | none => shortened t
      | (_, none) => shortened t
  | _ => .ok (.operand t)

/-- What the words of a command line are. -/
def wordsOf : List Text → Except Misuse (List Word)
  | [] => .ok []
  | t :: rest =>
    if t = ['-', '-'] then .ok (.separator :: rest.map .operand)
    else do
      let word ← wordOf t
      let words ← wordsOf rest
      return word :: words

/-! ## Taking them -/

/-- What was taken so far: the options, whether the place of the file is filled, and the words that
found no place. -/
structure Taken where
  options : Options := {}
  fileFilled : Bool := false
  leftOver : List Text := []

/-- A word that is taken as the file. -/
def Taken.fill (taken : Taken) (file : Text) : Taken :=
  { taken with options := { taken.options with file := some file }, fileFilled := true }

/-- Words that found no place. -/
def Taken.leave (taken : Taken) (words : List Text) : Taken :=
  { taken with leftOver := taken.leftOver ++ words }

/-- A command line asks for help, or for a run. -/
inductive Intent
  | help
  | run (options : Options)
  deriving DecidableEq, Repr

/-- The clipboards that can be chosen. -/
def choosable (value : Text) : Option Clipboard :=
  [Clipboard.system, Clipboard.stream].find? (·.key.toList == value)

/-- The options after one with a value. -/
def Options.setValue (o : Options) (switch : Switch) (value : Text) : Except Misuse Options :=
  match switch with
  | .lines => .ok { o with lines := o.lines ++ [value] }
  | .language => .ok { o with language := some value }
  | .server => .ok { o with server := some value }
  | .clipboard =>
    match choosable value with
    | some clipboard => .ok { o with clipboard }
    | none => .error (.badClipboard value)
  | _ => .error (.valueIgnored switch value)

/-- The options after one without a value. The two outputs exclude each other. -/
def Options.setFlag (o : Options) (switch : Switch) : Except Misuse Options :=
  match switch with
  | .toClipboard =>
    if o.stdout then .error (.conflict .toClipboard .stdout) else .ok { o with toClipboard := true }
  | .stdout =>
    if o.toClipboard then .error (.conflict .stdout .toClipboard) else .ok { o with stdout := true }
  | .serve => .ok { o with serve := true }
  | .verbose => .ok { o with verbose := true }
  | _ => .error (.valueMissing switch)

/-- Whether a value attached to a short option is that option again, so many times. -/
def repeatsShort (form value : Text) : Bool :=
  form == ['-', 'h'] && !value.isEmpty && value.all (· == 'h')

/-- What is left over of an attached value after the repetitions of its short option. -/
def afterShort (form value : Text) : Text :=
  if form == ['-', 'h'] then value.dropWhile (· == 'h') else value

/-- Take the words one after the other. The double hyphen goes with the operand beside it when that
is taken as the file, and is left over when the place of the file is filled. -/
def take (taken : Taken) : List Word → Except Misuse Intent
  | [] =>
    if taken.leftOver.isEmpty then .ok (.run taken.options)
    else .error (.unrecognized taken.leftOver)
  | .operand t :: .separator :: rest =>
    if taken.fileFilled then take (taken.leave [t, ['-', '-']]) rest else take (taken.fill t) rest
  | .operand t :: rest =>
    if taken.fileFilled then take (taken.leave [t]) rest else take (taken.fill t) rest
  | .separator :: rest =>
    if taken.fileFilled then take (taken.leave [['-', '-']]) rest else take taken rest
  | .unknown t :: rest => take (taken.leave [t]) rest
  | .option .help form (some value) :: _ =>
    if repeatsShort form value then .ok .help
    else .error (.valueIgnored .help (afterShort form value))
  | .option .help _ none :: _ => .ok .help
  | .option switch _ (some value) :: rest =>
    if switch.takesValue then do
      take { taken with options := ← taken.options.setValue switch value } rest
    else .error (.valueIgnored switch value)
  | .option switch _ none :: rest =>
    if switch.takesValue then
      match rest with
      | .operand value :: rest => do
        take { taken with options := ← taken.options.setValue switch value } rest
      | _ => .error (.valueMissing switch)
    else do
      take { taken with options := ← taken.options.setFlag switch } rest

/-- What a command line asks for. -/
def parse (argv : List Text) : Except Misuse Intent := do
  take {} (← wordsOf argv)

end LineJoin.CommandLine
