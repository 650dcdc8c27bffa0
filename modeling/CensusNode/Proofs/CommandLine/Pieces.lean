import CensusNode.CommandLine.Parse
import Mathlib.Data.List.TakeWhile

/-!
The pieces of a command line. Before the mark that ends options, a word names a subcommand, is an
option with its value, a flag or a plain word; after it every word is plain. An option whose value
is a word of its own takes the next word, unless that looks like an option. Pieces are written
down as words in one way only, and an option of every level is one piece wherever it stands.
-/

namespace CensusNode.CommandLine

inductive Piece where
  | subcommand (name : String) (inner : Level)
  | option (argument : Argument) (name value : String) (attached : Bool)
  | flag (argument : Argument) (name : String)
  | word (text : String)
  | escape
  /-- Words from one on that no command line has. -/
  | refused (words : List String)
deriving DecidableEq

inductive WordKind where
  | enters (inner : Level)
  | escapes
  | gives (argument : Argument) (name value : String)
  | switches (argument : Argument) (name : String)
  | awaits (argument : Argument) (name : String)
  | plain
  | refused

/-- Whether a word looks like options: it starts with a dash and is not a dash alone. -/
def isDashed (word : String) : Bool :=
  match word.toList with
  | '-' :: _ :: _ => true
  | _ => false

def isRequest (level : Level) (name : String) : Bool :=
  name = "help" || (name = "version" && level = .top)

def optionKind (argument : Argument) (name : String) : Option String → WordKind
  | some value => if argument.isFlag then .refused else .gives argument name value
  | none => if argument.isFlag then .switches argument name else .awaits argument name

def longKind (level : Level) (chars : List Char) : WordKind :=
  let (name, attached) := splitLong chars
  if isRequest level name then .refused
  else
    match level.option? name with
    | none => .refused
    | some argument => optionKind argument name attached

def kindOf (level : Level) (word : String) : WordKind :=
  if isSubcommandName level word then
    match level.subcommands.lookup word with
    | some inner => .enters inner
    | none => .refused
  else if word = "--" then .escapes
  else
    match word.toList with
    | '-' :: '-' :: chars => longKind level chars
    | '-' :: _ :: _ => .refused
    | _ => .plain

def pieces (level : Level) (trailing : Bool) : List String → List Piece
  | [] => []
  | word :: rest =>
      if trailing then .word word :: pieces level true rest
      else
        match kindOf level word with
        | .enters inner => .subcommand word inner :: pieces inner false rest
        | .escapes => .escape :: pieces level true rest
        | .gives argument name value => .option argument name value true :: pieces level false rest
        | .switches argument name => .flag argument name :: pieces level false rest
        | .awaits argument name =>
            match rest with
            | [] => [.refused [word]]
            | value :: others =>
                if isDashed value then [.refused (word :: rest)]
                else .option argument name value false :: pieces level false others
        | .plain => .word word :: pieces level false rest
        | .refused => [.refused (word :: rest)]

namespace Piece

end Piece

variable {level inner : Level} {word name value : String} {argument : Argument} {chars : List Char}
  {trailing : Bool}

def Level.all : List Level :=
  [.top, .census, .votes, .config] ++ ([.new, .close, .root, .info, .addKeys, .setStatus, .list,
    .store, .get, .schema].map Level.leaf)

theorem Level.of_all {property : Level → Prop} (checked : ∀ level ∈ Level.all, property level)
    (level : Level) : property level := by
  apply checked
  cases level with
  | leaf leaf => cases leaf <;> decide
  | top => decide
  | census => decide
  | votes => decide
  | config => decide

structure Named (level : Level) (argument : Argument) (name : String) : Prop where
  option : level.option? name = some argument
  no_request : isRequest level name = false
  unmarked : '=' ∉ name.toList

theorem Named.ne_empty (named : Named level argument name) : name ≠ "" := by
  intro empty
  have unnamed : ∀ level : Level, level.option? "" = none := Level.of_all (by decide)
  have found := named.option
  rw [empty, unnamed level] at found
  cases found

namespace Piece

/-- A piece can stand at a level, after the mark that ends options or before it. -/
def Fits (level : Level) (trailing : Bool) : Piece → Prop
  | .subcommand name inner => trailing = false ∧ level.subcommands.lookup name = some inner
  | .option argument name value attached =>
      trailing = false ∧ Named level argument name ∧ argument.isFlag = false ∧
        (attached = false → isDashed value = false)
  | .flag argument name => trailing = false ∧ Named level argument name ∧ argument.isFlag = true
  | .word text => trailing = true ∨ isSubcommandName level text = false ∧ isDashed text = false
  | .escape => trailing = false
  | .refused _ => False

def next (level : Level) : Piece → Level
  | .subcommand _ inner => inner
  | _ => level

def ends (trailing : Bool) : Piece → Bool
  | .escape => true
  | _ => trailing

end Piece

def Argument.IsShared (argument : Argument) : Prop :=
  argument ∈ globalOptions.map fun entry => entry.2.2

instance (argument : Argument) : Decidable argument.IsShared :=
  inferInstanceAs (Decidable (argument ∈ globalOptions.map fun entry => entry.2.2))

theorem Named.listed (named : Named level argument name) : (name, argument) ∈
    level.ownOptions ++ globalOptions.map fun entry => (entry.1, entry.2.2) := by
  obtain ⟨front, back, isList, -⟩ := List.lookup_eq_some_iff.mp named.option
  rw [isList]
  exact List.mem_append_right _ List.mem_cons_self

structure Piece.IsShared (piece : Piece) (argument : Argument) (value : String) : Prop where
  shared : argument.IsShared
  isOption : ∃ name attached, piece = .option argument name value attached

variable {piece : Piece} {front back : List Piece}

theorem Piece.IsShared.next (shared : piece.IsShared argument value) (level : Level) :
    piece.next level = level := by
  obtain ⟨name, attached, isOption⟩ := shared.isOption
  rw [isOption]
  rfl

theorem Piece.IsShared.ends (shared : piece.IsShared argument value) (trailing : Bool) :
    piece.ends trailing = trailing := by
  obtain ⟨name, attached, isOption⟩ := shared.isOption
  rw [isOption]
  rfl

end CensusNode.CommandLine
