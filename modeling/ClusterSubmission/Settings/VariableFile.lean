import ClusterSubmission.Text.Character

/-!
# Variable files

A variable file sets environment variables, one in a line: a name, an equals sign and a value, which
may stand between quotes. Lines that are not understood are skipped. A value can refer to other
variables, those of the file before those of the environment.
-/
namespace ClusterSubmission.VariableFile

def isInlineBlank (c : Char) : Bool := Text.isBlank c && c ≠ '\n' && c ≠ '\r'

def nextLine (cs : List Char) : List Char := (cs.dropWhile (· ≠ '\n')).drop 1

/-- How many characters are before the first quote that no backslash stands before. -/
def beforeQuote? (quote : Char) : Bool → List Char → Option Nat
  | _, [] => none
  | escaped, c :: cs =>
    if c = quote && !escaped then some 0 else (beforeQuote? quote (c = '\\') cs).map (· + 1)

/-- The text between quotes and what follows: up to the first quote that no backslash stands before,
or else up to the last quote. -/
def quoted? (quote : Char) (cs : List Char) : Option (List Char × List Char) :=
  match beforeQuote? quote false cs with
  | some n => some (cs.take n, cs.drop (n + 1))
  | none =>
    let after := (cs.reverse.takeWhile (· ≠ quote)).reverse
    if after.length = cs.length then none
    else some (cs.take (cs.length - after.length - 1), after)

def singleEscapes : List (Char × Char) := [('\\', '\\'), ('\x27', '\x27')]

def doubleEscapes : List (Char × Char) :=
  singleEscapes ++ [('"', '"'), ('a', '\x07'), ('b', '\x08'), ('f', '\x0c'), ('n', '\n'),
    ('r', '\r'), ('t', '\t'), ('v', '\x0b')]

def unescape (escapes : List (Char × Char)) : List Char → List Char
  | '\\' :: c :: cs =>
    match escapes.find? (·.1 == c) with
    | some (_, d) => d :: unescape escapes cs
    | none => '\\' :: unescape escapes (c :: cs)
  | c :: cs => c :: unescape escapes cs
  | [] => []

/-- A value without quotes: up to a comment, which white space stands before. -/
def beforeComment : List Char → List Char
  | [] => []
  | c :: cs =>
    if Text.isBlank c && (cs.dropWhile Text.isBlank).head? == some '#' then []
    else c :: beforeComment cs

/-- The name at the beginning of a line and what follows, none for a comment. A line without a name
fails at the place that is given. -/
def name? (cs : List Char) : Except (List Char) (Option String × List Char) :=
  match cs with
  | '#' :: _ => .ok (none, cs)
  | '\x27' :: rest =>
    match rest.span (· ≠ '\x27') with
    | (c :: name, _ :: rest) => .ok (some (String.ofList (c :: name)), rest)
    | _ => .error cs
  | _ =>
    match cs.span fun c => c ≠ '=' && c ≠ '#' && !Text.isBlank c with
    | ([], _) => .error cs
    | (name, rest) => .ok (some (String.ofList name), rest)

/-- The value after an equals sign and what follows. -/
def value? (cs : List Char) : Except (List Char) (List Char × List Char) :=
  match cs with
  | '\x27' :: rest =>
    match quoted? '\x27' rest with
    | some (text, rest) => .ok (unescape singleEscapes text, rest)
    | none => .error cs
  | '"' :: rest =>
    match quoted? '"' rest with
    | some (text, rest) => .ok (unescape doubleEscapes text, rest)
    | none => .error cs
  | _ =>
    let (line, rest) := cs.span (· ≠ '\n')
    .ok (((beforeComment line).reverse.dropWhile Text.isBlank).reverse, rest)

def lineEnd? (cs : List Char) : Except (List Char) (List Char) :=
  let cs := match cs.dropWhile isInlineBlank with
    | '#' :: rest => rest.dropWhile (· ≠ '\n')
    | _ => cs
  match cs.dropWhile isInlineBlank with
  | [] => .ok []
  | '\n' :: rest => .ok rest
  | _ => .error cs

def dropExport (cs : List Char) : List Char :=
  let word := "export".toList
  if word.isPrefixOf cs && ((cs.drop word.length).head?.any isInlineBlank) then
    (cs.drop word.length).dropWhile isInlineBlank
  else cs

/-- The next variable and its value, if it has one, and what follows. -/
def binding? (cs : List Char) :
    Except (List Char) (Option (String × Option (List Char)) × List Char) := do
  let (name, rest) ← name? (dropExport cs)
  let rest := rest.dropWhile isInlineBlank
  let (value, rest) ← match rest with
    | '=' :: rest => do
      let (value, rest) ← value? (rest.dropWhile isInlineBlank)
      pure (some value, rest)
    | rest => pure (none, rest)
  let rest ← lineEnd? rest
  return (name.map fun n => (n, value), rest)

/-- The variables of a file. The number of characters bounds the number of lines. -/
def bindings : Nat → List Char → List (String × Option (List Char))
  | 0, _ => []
  | fuel + 1, cs =>
    match cs.dropWhile Text.isBlank with
    | [] => []
    | cs =>
      match binding? cs with
      | .ok (b, rest) => b.toList ++ bindings fuel rest
      | .error place => bindings fuel (nextLine place)

/-- The name of a variable that a value refers to, the text for the case that it is not set, and
what follows the reference. The characters are those after its opening brace. -/
def reference? (cs : List Char) : Option (String × List Char × List Char) :=
  match cs.span fun c => c ≠ '\x7d' && c ≠ ':' with
  | (name, '\x7d' :: rest) => some (String.ofList name, [], rest)
  | (name, ':' :: '-' :: rest) =>
    match rest.span (· ≠ '\x7d') with
    | (default, _ :: rest) => some (String.ofList name, default, rest)
    | _ => none
  | _ => none

/-- A value with its references replaced. -/
def expand (lookup : String → Option (Option String)) : Nat → List Char → List Char
  | 0, cs => cs
  | fuel + 1, cs =>
    match cs with
    | '$' :: '\x7b' :: rest =>
      match reference? rest with
      | some (name, default, rest) =>
        let value := match lookup name with
          | some (some s) => s.toList
          | some none => []
          | none => default
        value ++ expand lookup fuel rest
      | none => '$' :: expand lookup fuel ('\x7b' :: rest)
    | c :: rest => c :: expand lookup fuel rest
    | [] => []

/-- Variables with a value stored under a name, at its place if the name is there, else last. -/
def store (done : List (String × Option String)) (name : String) (value : Option String) :
    List (String × Option String) :=
  if done.any (·.1 == name) then done.map fun e => if e.1 == name then (name, value) else e
  else done ++ [(name, value)]

/-- The variables of a file, by its text and the environment. -/
def read (environment : List (String × String)) (text : String) : List (String × Option String) :=
  let cs := Text.plainBreaks text.toList
  (bindings (cs.length + 1) cs).foldl
    (fun done b =>
      let lookup := fun name =>
        match done.find? (·.1 == name) with
        | some (_, v) => some v
        | none => (environment.find? (·.1 == name)).map fun e => some e.2
      store done b.1 (b.2.map fun cs => String.ofList (expand lookup (cs.length + 1) cs))) []

end ClusterSubmission.VariableFile
