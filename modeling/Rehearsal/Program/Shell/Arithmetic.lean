import Rehearsal.Decimal.Integer
import Rehearsal.Program.Shell.Word
import Rehearsal.Program.Tools.Print
import Rehearsal.Table

/-!
# Arithmetic

Expressions on whole numbers of 64 bits. A name stands for the number that the variable of that name holds, and an
assignment gives it another. What is behind a conjunction that is already false, or a disjunction that is already true, is
read but has no effect.
-/

namespace Rehearsal.Program.Shell.Arithmetic

/-- Why an expression has no value. -/
inductive Fault where
  | expected (what : String)
  | divisionByZero
  | illegal (value : String)
  deriving DecidableEq, Repr, Inhabited

/-- The wording of the fault for the text of an expression. -/
def Fault.message (text : String) : Fault → String
  | .expected what => s!"arithmetic expression: expecting {what}: \"{text}\""
  | .divisionByZero => s!"arithmetic expression: division by zero: \"{text}\""
  | .illegal value => s!"Illegal number: {value}"

/-- A token of an expression. -/
inductive Token where
  | number (n : Nat)
  | name (s : String)
  | mark (s : String)
  | other (c : Char)
  deriving DecidableEq, Repr, Inhabited

/-- The marks, longer ones first. -/
def marks : List String :=
  ["<<=", ">>=", "&&", "||", "<<", ">>", "<=", ">=", "==", "!=", "+=", "-=", "*=", "/=", "%=", "&=", "|=", "^=", "+", "-",
    "*", "/", "%", "(", ")", "<", ">", "!", "~", "&", "|", "^", "?", ":", "="]

/-- The tokens of an expression. The bound is the number of characters. -/
def tokens : Nat → List Char → List Token
  | 0, _ | _, [] => []
  | n + 1, c :: rest =>
    if c == ' ' || c == '\t' || c == '\n' then tokens n rest
    else if c.isDigit then
      let ds := (c :: rest).takeWhile isNameChar
      .number (Tools.leadingNumber (String.ofList ds)).1.toNat :: tokens n ((c :: rest).drop ds.length)
    else if isNameChar c then
      let name := (c :: rest).takeWhile isNameChar
      .name (String.ofList name) :: tokens n ((c :: rest).drop name.length)
    else match markAt? (c :: rest) marks with
      | some (mark, left) => .mark mark :: tokens n left
      | none => .other c :: tokens n rest

/-- What is known while an expression is worked out: the tokens that are left, and the variables. -/
structure Working where
  tokens : List Token
  vars : Table String
  deriving Repr, Inhabited

/-- A step in working out an expression. -/
abbrev Work := StateT Working (Except Fault)

/-- Takes a mark if it is next and among some. -/
def accept (ms : List String) : Work (Option String) := do
  match (← get).tokens with
  | .mark m :: rest =>
    if ms.contains m then
      modify fun w => { w with tokens := rest }
      return some m
    return none
  | _ => return none

/-- A number within 64 bits. -/
def wrap (n : Int) : Int := n.bmod (Integer.twoTo 64)

/-- The number in a variable. -/
def valueOf (name : String) : Work Int := do
  let text := ((← get).vars.get? name).getD ""
  let (n, reading) := Tools.leadingNumber text
  if reading == .whole then return n else throw (.illegal text)

/-- A truth value as a number. -/
def truth (b : Bool) : Int := if b then 1 else 0

/-- The bits of a number with those of another. -/
def bits (f : Nat → Nat → Nat) (a b : Int) : Int :=
  let unsigned (n : Int) : Nat := (n % (Integer.twoTo 64 : Int)).toNat
  wrap (f (unsigned a) (unsigned b))

/-- What a mark between two numbers makes of them. -/
def combine (mark : String) (a b : Int) : Except Fault Int :=
  match mark with
  | "||" => .ok (truth (a != 0 || b != 0))
  | "&&" => .ok (truth (a != 0 && b != 0))
  | "|" => .ok (bits (· ||| ·) a b)
  | "^" => .ok (bits (· ^^^ ·) a b)
  | "&" => .ok (bits (· &&& ·) a b)
  | "==" => .ok (truth (a == b))
  | "!=" => .ok (truth (a != b))
  | "<" => .ok (truth (decide (a < b)))
  | "<=" => .ok (truth (decide (a ≤ b)))
  | ">" => .ok (truth (decide (b < a)))
  | ">=" => .ok (truth (decide (b ≤ a)))
  | "<<" => .ok (wrap (a * Integer.twoTo (b.toNat % 64)))
  | ">>" => .ok (a / (Integer.twoTo (b.toNat % 64) : Int))
  | "+" => .ok (wrap (a + b))
  | "-" => .ok (wrap (a - b))
  | "*" => .ok (wrap (a * b))
  | "/" => if b == 0 then .error .divisionByZero else .ok (wrap (a.tdiv b))
  | "%" => if b == 0 then .error .divisionByZero else .ok (wrap (a.tmod b))
  | _ => .ok b

/-- The marks between numbers, those that bind least first. -/
def levels : List (List String) :=
  [["||"], ["&&"], ["|"], ["^"], ["&"], ["==", "!="], ["<=", ">=", "<", ">"], ["<<", ">>"], ["+", "-"], ["*", "/", "%"]]

/-- The marks of assignments. -/
def assignments : List String := ["=", "+=", "-=", "*=", "/=", "%=", "<<=", ">>=", "&=", "|=", "^="]

mutual

/-- An expression, which has an effect if it is live. The bound is on the tokens that are left. -/
def expression (live : Bool) : Nat → Work Int
  | 0 => throw (.expected "primary")
  | n + 1 => do
    match (← get).tokens with
    | .name name :: .mark mark :: rest =>
      if assignments.contains mark then
        modify fun w => { w with tokens := rest }
        let right ← expression live n
        if mark == "=" then assign name right
        else
          let left ← valueOf name
          assign name (← combine (String.ofList mark.toList.dropLast) left right)
      else choice live n
    | _ => choice live n
where
  /-- Gives a variable a number. -/
  assign (name : String) (value : Int) : Work Int := do
    if live then modify fun w => { w with vars := w.vars.insert name (toString value) }
    return value

/-- One of two expressions, as another says. -/
def choice (live : Bool) : Nat → Work Int
  | 0 => throw (.expected "primary")
  | n + 1 => do
    let test ← binary live levels n
    if (← accept ["?"]).isSome then
      let yes ← expression (live && test != 0) n
      unless (← accept [":"]).isSome do throw (.expected "':'")
      let no ← choice (live && test == 0) n
      return if test != 0 then yes else no
    return test

/-- Numbers with marks between them of some levels. -/
def binary (live : Bool) (levels : List (List String)) : Nat → Work Int
  | 0 => throw (.expected "primary")
  | n + 1 => do
    match levels with
    | [] => unary live n
    | level :: tighter => more live level tighter (← binary live tighter n) n

/-- What marks of a level make of a number that was read and those behind it. -/
def more (live : Bool) (level : List String) (tighter : List (List String)) (left : Int) : Nat → Work Int
  | 0 => return left
  | n + 1 => do
    match ← accept level with
    | none => return left
    | some mark =>
      let live' := live && !(mark == "&&" && left == 0) && !(mark == "||" && left != 0)
      let right ← binary live' tighter n
      let value ← if live' then combine mark left right else pure (truth (mark == "||"))
      more live level tighter value n

/-- A number with marks in front of it. -/
def unary (live : Bool) : Nat → Work Int
  | 0 => throw (.expected "primary")
  | n + 1 => do
    match ← accept ["!", "~", "+", "-"] with
    | some "!" => return truth ((← unary live n) == 0)
    | some "~" => return -(← unary live n) - 1
    | some "-" => return wrap (-(← unary live n))
    | some _ => unary live n
    | none =>
      match (← get).tokens with
      | .number k :: rest =>
        modify fun w => { w with tokens := rest }
        return wrap k
      | .name name :: rest =>
        modify fun w => { w with tokens := rest }
        valueOf name
      | .mark "(" :: rest =>
        modify fun w => { w with tokens := rest }
        let value ← expression live n
        unless (← accept [")"]).isSome do throw (.expected "')'")
        return value
      | _ => throw (.expected "primary")

end

/-- The value of an expression, and the variables after it. -/
def value (vars : Table String) (text : String) : Except Fault (Int × Table String) := do
  let ts := tokens text.length text.toList
  if ts.isEmpty then return (0, vars)
  let (n, w) ← (expression true (16 * ts.length + 32)).run ⟨ts, vars⟩
  if w.tokens.isEmpty then return (n, w.vars) else throw (.expected "EOF")

end Rehearsal.Program.Shell.Arithmetic
