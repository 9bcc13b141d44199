import MiniSql.Token.Basic

/-!
# Groups and lists of tokens

Cutting token lists at marks that stand outside parentheses. The depth of nesting is counted
from the left; a closing parenthesis without a partner leaves the depth at zero.

**Results.** A list cut into two parts is the parts put together.
-/

namespace MiniSql.Token

/-- Depth of nesting after a token. -/
def nest (depth : Nat) : Token → Nat
  | mark .leftParen => depth + 1
  | mark .rightParen => depth - 1
  | _ => depth

/-- Cuts at separators outside parentheses, with the piece `current` under way. An empty
piece at the end is dropped, an empty piece before a separator is kept. -/
def splitFrom (isSeparator : Token → Bool) (depth : Nat) (current : List Token) :
    List Token → List (List Token)
  | [] => if current = [] then [] else [current]
  | t :: ts =>
    if depth = 0 && isSeparator t then current :: splitFrom isSeparator 0 [] ts
    else splitFrom isSeparator (nest depth t) (current ++ [t]) ts

/-- Cuts a list at separators outside parentheses. -/
def split (isSeparator : Token → Bool) (tokens : List Token) : List (List Token) :=
  splitFrom isSeparator 0 [] tokens

/-- Cuts a list at commas outside parentheses. -/
def splitAtCommas (tokens : List Token) : List (List Token) :=
  split (· = mark .comma) tokens

/-- The tokens before the first semicolon or stopping token outside parentheses, and the
rest beginning with it. -/
def takeUntil (stop : Token → Bool) (depth : Nat) : List Token → List Token × List Token
  | [] => ([], [])
  | t :: ts =>
    if depth = 0 && (t = mark .semicolon || stop t) then ([], t :: ts)
    else
      let (taken, rest) := takeUntil stop (nest depth t) ts
      (t :: taken, rest)

/-- The tokens up to the parenthesis that closes a group, with `depth` groups open inside
it, and the tokens after that parenthesis. -/
def closeGroup (depth : Nat) : List Token → Option (List Token × List Token)
  | [] => none
  | t :: ts =>
    if t = mark .rightParen ∧ depth = 0 then some ([], ts)
    else (closeGroup (nest depth t) ts).map fun (inner, rest) => (t :: inner, rest)

/-- Parentheses pair up, with `depth` of them already open. -/
def balanced (depth : Nat) : List Token → Bool
  | [] => depth = 0
  | mark .leftParen :: ts => balanced (depth + 1) ts
  | mark .rightParen :: ts =>
    match depth with
    | 0 => false
    | outer + 1 => balanced outer ts
  | _ :: ts => balanced depth ts

/-- The tokens between an opening parenthesis and its partner, when these are the first and
the last token of the list. -/
def unwrap? : List Token → Option (List Token)
  | mark .leftParen :: rest =>
    if rest.getLast? = some (mark .rightParen) ∧ balanced 0 rest.dropLast then
      some rest.dropLast
    else none
  | _ => none

/-- Taking off a pair of parentheses shortens a list. -/
theorem length_of_unwrap? {tokens inner : List Token} (h : unwrap? tokens = some inner) :
    inner.length < tokens.length := by
  unfold unwrap? at h
  split at h
  · split at h
    · cases h
      simp only [List.length_cons, List.length_dropLast]
      omega
    · cases h
  · cases h

/-- Takes off every pair of parentheses around the whole list. -/
def stripParens (tokens : List Token) : List Token :=
  match _h : unwrap? tokens with
  | none => tokens
  | some inner => stripParens inner
termination_by tokens.length
decreasing_by exact length_of_unwrap? _h

/-- The taken tokens and the rest, put together, are the list. -/
theorem takeUntil_append (stop : Token → Bool) (depth : Nat) (tokens : List Token) :
    (takeUntil stop depth tokens).1 ++ (takeUntil stop depth tokens).2 = tokens := by
  induction tokens generalizing depth with
  | nil => rfl
  | cons t ts ih =>
      rw [takeUntil]
      split
      · rfl
      · exact congrArg (t :: ·) (ih _)

/-- A group, its closing parenthesis and the rest, put together, are the list. -/
theorem closeGroup_append {depth : Nat} {tokens inner rest : List Token}
    (h : closeGroup depth tokens = some (inner, rest)) :
    inner ++ mark .rightParen :: rest = tokens := by
  induction tokens generalizing depth inner with
  | nil => simp [closeGroup] at h
  | cons t ts ih =>
      rw [closeGroup] at h
      split at h
      · next hclose =>
          cases h
          simp [hclose.1]
      · obtain ⟨⟨inner', rest'⟩, hgroup, hpair⟩ := Option.map_eq_some_iff.1 h
        cases hpair
        simp [ih hgroup]

end MiniSql.Token
