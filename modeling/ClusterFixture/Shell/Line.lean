/-
Lines for a shell: commands, the words they consist of, and what joins them.

A word is made of texts and of parameters. Quotes and backslashes keep characters from being
special; inside double quotes a parameter is still one. A command may send its output elsewhere.
-/

set_option autoImplicit false

namespace ClusterFixture.Shell

/-! ## Words -/

/-- How the value of a parameter is used. -/
inductive Use where
  | value
  /-- A text instead, where the parameter is set; perhaps only if it is not empty. -/
  | whenSet (nonEmpty : Bool) (text : List Char)
  /-- A text instead, where the parameter is not set; perhaps also if it is empty. -/
  | whenUnset (orEmpty : Bool) (text : List Char)
  deriving DecidableEq, Repr

/-- A part of a word. -/
inductive Piece where
  | text (cs : List Char)
  | parameter (quoted : Bool) (name : List Char) (use : Use)
  deriving DecidableEq, Repr

/-- A word. -/
abbrev Word := List Piece

/-- Where output is sent. -/
inductive Outlet where
  /-- Where that of another descriptor goes. -/
  | same (descriptor : Nat)
  | file (name : Word)
  deriving DecidableEq, Repr

/-- A token of a line. -/
inductive Token where
  | word (w : Word)
  /-- Sends the output of a descriptor elsewhere. -/
  | redirect (descriptor : Nat) (outlet : Outlet)
  | pipe
  /-- Goes on, whatever came before; a line feed or not. -/
  | next (lineFeed : Bool)
  /-- Goes on if what came before succeeded. -/
  | and
  /-- Goes on if what came before failed. -/
  | or
  deriving DecidableEq, Repr

/-! ## Parameters -/

/-- A character of a name. -/
def isNameChar (c : Char) : Bool := c.isAlphanum || c = '_'

/-- The parameter in braces whose content is given. -/
def bracedParameter (quoted : Bool) (content : List Char) : Piece :=
  let name := if content.head?.any isNameChar then content.takeWhile isNameChar else content.take 1
  let use : Use := match content.drop name.length with
    | ':' :: '+' :: text => .whenSet true text
    | '+' :: text => .whenSet false text
    | ':' :: '-' :: text => .whenUnset true text
    | '-' :: text => .whenUnset false text
    | _ => .value
  .parameter quoted name use

/-- The parameter behind a dollar sign, with what follows it. -/
def takeParameter (quoted : Bool) : List Char → Piece × List Char
  | [] => (.text ['$'], [])
  | c :: rest =>
    if c = '\x7b' then
      let content := rest.takeWhile (· ≠ '\x7d')
      (bracedParameter quoted content, rest.drop (content.length + 1))
    else if c.isDigit || ['$', '?', '!', '#', '*', '@', '-'].contains c then
      (.parameter quoted [c] .value, rest)
    else if isNameChar c then
      let name := (c :: rest).takeWhile isNameChar
      (.parameter quoted name .value, (c :: rest).drop name.length)
    else (.text ['$'], c :: rest)

/-! ## Tokens -/

/-- A word in the making: its pieces in reverse, once it has begun. -/
structure Draft where
  pieces : List Piece := []
  begun : Bool := false

namespace Draft

/-- One more piece. -/
def add (d : Draft) (p : Piece) : Draft := ⟨p :: d.pieces, true⟩

/-- The token of the word, if it has begun. -/
def tokens (d : Draft) : List Token := if d.begun then [.word d.pieces.reverse] else []

/-- The number that the word is, if it has digits only. -/
def number? (d : Draft) : Option Nat :=
  let digits := d.pieces.reverse.flatMap fun
    | .text [c] => [c]
    | _ => ['x']
  if !digits.isEmpty && digits.all Char.isDigit then (String.ofList digits).toNat? else none

end Draft

/-- The pieces inside double quotes, and what follows the closing quote. -/
def takeQuoted : Nat → List Char → Draft → Draft × List Char
  | 0, cs, d => (d, cs)
  | _, [], d => (d, [])
  | n + 1, c :: rest, d =>
    if c = '"' then (d, rest)
    else if c = '$' then
      let (p, after) := takeParameter true rest
      takeQuoted n after (d.add p)
    else match c, rest with
      | '\\', '\n' :: after => takeQuoted n after d
      | '\\', x :: after =>
        if ['"', '\\', '$', '\x60'].contains x then takeQuoted n after (d.add (.text [x]))
        else takeQuoted n rest (d.add (.text [c]))
      | _, _ => takeQuoted n rest (d.add (.text [c]))

/-- The word at the start, and what follows it. -/
def takeWord : Nat → List Char → Draft → Draft × List Char
  | 0, cs, d => (d, cs)
  | _, [], d => (d, [])
  | n + 1, c :: rest, d =>
    if [' ', '\t', '\n', ';', '&', '|', '>', '<'].contains c then (d, c :: rest)
    else if c = '\'' then
      let content := rest.takeWhile (· ≠ '\'')
      takeWord n (rest.drop (content.length + 1)) (d.add (.text content))
    else if c = '"' then
      let (d, after) := takeQuoted rest.length rest (d.add (.text []))
      takeWord n after d
    else if c = '$' then
      let (p, after) := takeParameter false rest
      takeWord n after (d.add p)
    else match c, rest with
      | '\\', '\n' :: after => takeWord n after d
      | '\\', x :: after => takeWord n after (d.add (.text [x]))
      | _, _ => takeWord n rest (d.add (.text [c]))

/-- The outlet behind its mark, and what follows it. -/
def takeOutlet (cs : List Char) : Outlet × List Char :=
  let cs := if cs.head? = some '>' then cs.drop 1 else cs
  match cs with
  | '&' :: rest =>
    let (d, after) := takeWord rest.length rest {}
    (.same (d.number?.getD 1), after)
  | _ =>
    let cs := cs.dropWhile fun c => c = ' ' || c = '\t'
    let (d, after) := takeWord cs.length cs {}
    (.file d.pieces.reverse, after)

/-- The tokens of a line; the number bounds the steps. -/
def tokensWithin : Nat → List Char → List Token
  | 0, _ => []
  | _, [] => []
  | n + 1, c :: rest =>
    if c = ' ' || c = '\t' then tokensWithin n rest
    else if c = '#' then tokensWithin n (rest.dropWhile (· ≠ '\n'))
    else if c = '\n' then .next true :: tokensWithin n rest
    else if c = ';' then .next false :: tokensWithin n rest
    else if c = '&' && rest.head? = some '&' then .and :: tokensWithin n (rest.drop 1)
    else if c = '|' && rest.head? = some '|' then .or :: tokensWithin n (rest.drop 1)
    else if c = '|' then .pipe :: tokensWithin n rest
    else if c = '&' then .next false :: tokensWithin n rest
    else if c = '>' then
      let (outlet, after) := takeOutlet rest
      .redirect 1 outlet :: tokensWithin n after
    else if c = '<' then tokensWithin n (takeOutlet rest).2
    else
      let (d, after) := takeWord (rest.length + 1) (c :: rest) {}
      match d.number?, after with
      | some k, '>' :: more =>
        let (outlet, after) := takeOutlet more
        .redirect k outlet :: tokensWithin n after
      | _, _ => d.tokens ++ tokensWithin n after

/-- The tokens of a line. -/
def tokens (line : List Char) : List Token := tokensWithin (line.length + 1) line

/-! ## Commands -/

/-- A command: its words, where it sends output, and the line it stands on. -/
structure Simple where
  words : List Word := []
  redirections : List (Nat × Outlet) := []
  line : Nat := 1
  deriving Repr

/-- When a command goes ahead. -/
inductive Link where
  | always
  | ifOk
  | ifFailed
  deriving DecidableEq, Repr

/-- Commands whose outputs feed each other, and when they go ahead. -/
structure Chain where
  link : Link
  stages : List Simple
  deriving Repr

/-- What is read of a line. -/
structure Reading where
  /-- The chains so far, in reverse. -/
  chains : List Chain := []
  link : Link := .always
  /-- The earlier stages of the present chain, in reverse. -/
  stages : List Simple := []
  current : Simple := {}

namespace Reading

/-- Ends the present command. -/
def endStage (r : Reading) : Reading :=
  let stages := if r.current.words.isEmpty && r.current.redirections.isEmpty then r.stages
    else r.current :: r.stages
  { r with stages, current := { line := r.current.line } }

/-- Ends the present chain. -/
def endChain (r : Reading) (link : Link) : Reading :=
  let r := r.endStage
  if r.stages.isEmpty then r
  else { r with chains := ⟨r.link, r.stages.reverse⟩ :: r.chains, stages := [], link }

/-- Reads one token. -/
def read (r : Reading) : Token → Reading
  | .word w => { r with current := { r.current with words := r.current.words ++ [w] } }
  | .redirect k outlet =>
    { r with current := { r.current with redirections := r.current.redirections ++ [(k, outlet)] } }
  | .pipe => r.endStage
  | .next lineFeed =>
    let r := r.endChain .always
    if lineFeed then { r with current := { line := r.current.line + 1 } } else r
  | .and => r.endChain .ifOk
  | .or => r.endChain .ifFailed

end Reading

/-- The chains of a line. -/
def chains (line : String) : List Chain :=
  let r := (tokens line.toList).foldl Reading.read {}
  (r.endChain .always).chains.reverse

end ClusterFixture.Shell
