import Songbook.Text.Alphanumeric

/-!
# Paths

The paths of configuration files may begin with `~` for the home directory and may name variables
of the environment as `$NAME`, `${NAME}` or `${NAME:-default}`. Two dollar signs are one.
-/

namespace Songbook.CommandLine.Path

/-- Names are made of letters and numbers of any script and of underscores. -/
def isNameChar (c : Char) : Bool :=
  Text.isAlphanumeric c || c == '_'

/-- Splits at the first `:-`. -/
def splitDefault? : List Char → Option (List Char × List Char)
  | ':' :: '-' :: cs => some ([], cs)
  | c :: cs => (splitDefault? cs).map fun (name, value) => (c :: name, value)
  | [] => none

/-- The name of a variable and its default. A default needs a name before it. -/
def nameAndDefault (body : List Char) : String × Option (List Char) :=
  match splitDefault? body with
  | some (c :: name, value) => (String.ofList (c :: name), some value)
  | _ => (String.ofList body, none)

section Variables

variable {m : Type → Type} [Monad m] (lookup : String → m (Option String))

/-- The value of a variable, or its default if it is not set. A variable without either is an
error, given by its name. -/
def valueOf (name : String) (default : Option (List Char)) : ExceptT String m (List Char) := do
  match ← lookup name, default with
  | some value, _ => return value.toList
  | none, some value => return value
  | none, none => throw name

/-- Replaces the variables of a path by their values. The fuel is the length of the path. -/
def expandVariables : Nat → List Char → ExceptT String m (List Char)
  | 0, cs => return cs
  | _, [] => return []
  | fuel + 1, '$' :: '{' :: cs =>
    match cs.dropWhile (· != '}') with
    | _ :: rest => do
      let (name, default) := nameAndDefault (cs.takeWhile (· != '}'))
      return (← valueOf lookup name default) ++ (← expandVariables fuel rest)
    | [] => return '$' :: '{' :: (← expandVariables fuel cs)
  | fuel + 1, '$' :: '$' :: cs => return '$' :: (← expandVariables fuel cs)
  | fuel + 1, '$' :: cs =>
    match cs.takeWhile isNameChar with
    | [] => return '$' :: (← expandVariables fuel cs)
    | name => do
      let value ← valueOf lookup (String.ofList name) none
      return value ++ (← expandVariables fuel (cs.dropWhile isNameChar))
  | fuel + 1, c :: cs => return c :: (← expandVariables fuel cs)

/-- Replaces a leading `~`, alone or before a slash, by the home directory if it is known. -/
def expandHome (home : Option String) (path : List Char) : List Char :=
  match path, home with
  | ['~'], some home => home.toList
  | '~' :: '/' :: cs, some home => home.toList ++ '/' :: cs
  | _, _ => path

/-- The path that is meant, or the name of a variable that is not set. A `~` that comes from a
variable is not replaced. -/
def expand (home : Option String) (path : String) : ExceptT String m String := do
  let cs := path.toList
  let expanded ← expandVariables lookup cs.length cs
  let fromVariable := cs.head? != some '~' && expanded.head? == some '~'
  return String.ofList (if fromVariable then expanded else expandHome home expanded)

end Variables

end Songbook.CommandLine.Path
