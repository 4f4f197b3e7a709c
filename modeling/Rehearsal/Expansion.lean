import Rehearsal.Pattern.Basic

/-!
# Variable expansion

`$NAME` and `$` with braces around a name stand for a variable's value. `expand` goes through a text once from the left and
puts the values in, which it does not look at again.

A name written without braces is one of the special characters, or the longest run of ASCII letters, digits
and underscores. In braces it is whatever stands before the first closing brace; a name ending in `@R` asks
for the value escaped for use in a pattern. Empty braces and braces that never close disappear together with
their dollar sign, the text behind them stays. Any other dollar sign is itself.
-/

namespace Rehearsal.Expansion

/-- Whether a character is a whole variable name by itself. -/
def isSpecial (c : Char) : Bool := "*#$@!?-0123456789".toList.contains c

/-- Whether a character may be part of a longer name without braces. -/
def isNameChar (c : Char) : Bool := c.isAlphanum || c == '_'

/-- The name in braces and how many characters it takes together with them, given the text behind the opening brace. No name
is found in empty braces, nor where no brace closes. -/
def nameInBraces (cs : List Char) : List Char × Nat :=
  match cs.idxOf? '\x7d' with
  | none => ([], 1)
  | some 0 => ([], 2)
  | some n => (cs.take n, n + 2)

/-- The name at the start of the text behind a dollar sign, and how many characters it takes. An empty name that takes some
is bad syntax, which disappears. -/
def nameAt (c : Char) (rest : List Char) : List Char × Nat :=
  if c == '\x7b' then
    match rest with
    | d :: '\x7d' :: _ => if isSpecial d then ([d], 3) else nameInBraces rest
    | _ => nameInBraces rest
  else if isSpecial c then ([c], 1)
  else
    let name := (c :: rest).takeWhile isNameChar
    (name, name.length)

/-- The end of a name that asks for an escaped value. -/
def escapeSuffix : List Char := ['@', 'R']

/-- The value that a name stands for. -/
def valueOf (lookup : String → String) (name : List Char) : List Char :=
  if escapeSuffix.isSuffixOf name then
    Pattern.escape (lookup (String.ofList (name.take (name.length - escapeSuffix.length)))).toList
  else (lookup (String.ofList name)).toList

/-- A text with every reference replaced by its value. -/
def expandChars (lookup : String → String) : List Char → List Char
  | [] => []
  | '$' :: c :: rest =>
    let (name, width) := nameAt c rest
    let front := if !name.isEmpty then valueOf lookup name else if width == 0 then ['$'] else []
    front ++ expandChars lookup ((c :: rest).drop width)
  | c :: rest => c :: expandChars lookup rest
termination_by cs => cs.length
decreasing_by all_goals (simp only [List.length_drop, List.length_cons]; omega)

/-- A text with every reference replaced by its value. One without a dollar sign is not looked at further. -/
def expand (lookup : String → String) (s : String) : String :=
  if s.toList.contains '$' then String.ofList (expandChars lookup s.toList) else s

end Rehearsal.Expansion
