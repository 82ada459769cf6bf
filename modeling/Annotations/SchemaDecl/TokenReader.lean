import Annotations.SchemaDecl.Fault

/-!
Readers of tokens. A reader takes tokens from the front of those in its group, or finds a fault. Tokens
that it leaves over in a group are a fault too, but one that counts only if there is no other.
-/
namespace Annotations.SchemaDecl

structure Progress where
  /-- The tokens ahead, up to the end of the group around them. -/
  ahead : List Token
  /-- The first group in which tokens were left over. -/
  leftover : Option Delimiter := none
deriving Repr

abbrev TokenReader := StateT Progress (Except Fault)

namespace TokenReader

variable {α β : Type}

/-- The tokens ahead, left where they are. -/
def ahead : TokenReader (List Token) := fun progress => .ok (progress.ahead, progress)

def atEnd : TokenReader Bool := return (← ahead).isEmpty

/-- Whether a test holds of the tokens ahead. -/
def sees (test : List Token → Bool) : TokenReader Bool := return test (← ahead)

/-- Passes over some tokens. -/
def pass (count : Nat) : TokenReader Unit := fun progress =>
  .ok ((), { progress with ahead := progress.ahead.drop count })

/-- Finds the fault that one of some things should be here. -/
def want (choices : List String) : TokenReader α := do throw (.wanted (← atEnd) choices)

/-- Takes marks that must be here. The end is no other fault than any token. -/
def mark (wanted : String) : TokenReader Unit := do
  if ← sees (seesMark wanted) then pass wanted.length else throw (.wanted false [quote wanted])

/-- Takes marks if they are here. -/
def mark? (wanted : String) : TokenReader Bool := do
  let here ← sees (seesMark wanted)
  if here then pass wanted.length
  return here

/-- Takes a keyword that must be here. -/
def keyword (wanted : String) : TokenReader Unit := do
  if ← sees (seesWord wanted) then pass 1 else want [quote wanted]

/-- Takes a keyword if it is here. -/
def keyword? (wanted : String) : TokenReader Bool := do
  let here ← sees (seesWord wanted)
  if here then pass 1
  return here

/-- Takes an identifier. -/
def name : TokenReader String := do
  match ← ahead with
  | .word text :: _ =>
    if keywords.contains text then throw (.keyword text)
    pass 1
    return text
  | _ => want ["identifier"]

/-- Takes a word, be it a keyword or not. -/
def anyWord : TokenReader String := do
  match ← ahead with
  | .word text :: _ =>
    pass 1
    return text
  | _ => want ["ident"]

def lifetime : TokenReader Unit := do
  if ← sees seesLifetime then pass 1 else want ["lifetime"]

/-- Takes a lifetime if it is here. -/
def lifetime? : TokenReader Bool := do
  let here ← sees seesLifetime
  if here then pass 1
  return here

/-- Takes a literal. -/
def literal : TokenReader Literal := do
  match SchemaDecl.literal? (← ahead) with
  | some (l, negative, _) =>
    pass (if negative then 2 else 1)
    return l
  | none => want ["literal"]

/-- Takes a group and understands what it holds. -/
def group (delimiter : Delimiter) (content : TokenReader α) : TokenReader α := fun progress =>
  match progress.ahead with
  | .group d tokens :: rest =>
    if d = delimiter then do
      let (result, inside) ← content { progress with ahead := tokens }
      let left := if inside.ahead.isEmpty then none else some delimiter
      return (result, { ahead := rest, leftover := inside.leftover <|> left })
    else .error (.wanted false [delimiter.name])
  | rest => .error (.wanted rest.isEmpty [delimiter.name])

/-- Takes a group of any kind and what it holds as it is. -/
def anyGroup : TokenReader (Delimiter × List Token) := do
  match ← ahead with
  | .group delimiter content :: _ =>
    pass 1
    return (delimiter, content)
  | _ => want ["delimiter"]

/-- What a reader understands here, if it finds no fault; nothing is taken. -/
def foresee (reader : TokenReader α) : TokenReader (Option (α × Progress)) := fun progress =>
  match reader progress with
  | .ok outcome => .ok (some outcome, progress)
  | .error _ => .ok (none, progress)

/-- Goes on from some progress. -/
def resume (progress : Progress) : TokenReader Unit := fun _ => .ok ((), progress)

/-- Takes steps as long as they want another, at most so many. -/
def stepsUpTo (step : α → TokenReader (α × Bool)) : Nat → α → TokenReader α
  | 0, state => return state
  | limit + 1, state => do
    let (state, again) ← step state
    if again then stepsUpTo step limit state else return state

/-- Takes steps as long as they want another. A step that wants one has to take a token. -/
def steps (step : α → TokenReader (α × Bool)) (state : α) : TokenReader α := do
  stepsUpTo step ((← ahead).length + 1) state

/-- Repeats a reader as long as it wants to. -/
def loop (step : TokenReader Bool) : TokenReader Unit := steps (fun _ => return ((), ← step)) ()

/-- Items up to the end of the group, with a mark between them and perhaps behind the last. -/
def items (item : TokenReader α) (separator : String) : TokenReader (List α) := do
  let taken ← steps (fun taken => do
    if ← atEnd then return (taken, false)
    let taken := (← item) :: taken
    if ← atEnd then return (taken, false)
    mark separator
    return (taken, true)) []
  return taken.reverse

/-- Items up to some place, with a mark between them and perhaps behind the last. -/
def itemsUntil (stop : List Token → Bool) (item : TokenReader Unit) (separator : String) :
    TokenReader Unit :=
  loop do
    if ← sees stop then return false
    item
    if ← sees stop then return false
    mark separator
    return true

/-- Understands tokens as a whole. -/
def run (reader : TokenReader α) (tokens : List Token) : Except Fault α := do
  let (result, progress) ← reader { ahead := tokens }
  match progress.leftover with
  | some delimiter => throw (.leftover (some delimiter))
  | none => if progress.ahead.isEmpty then return result else throw (.leftover none)

end TokenReader
end Annotations.SchemaDecl
