import ContentBatch.Pattern.Fault

/-!
# Flags

Flags change how the rest of a group is read: `i` ignores case, `m` lets `^` and `$`
hold at the ends of lines, `s` lets the point stand for line feeds too, `R` lets lines
end in carriage returns, `x` allows blanks and comments, `U` swaps which repetitions are
greedy, and `u`, which is set at the start, makes classes and case variants those of
Unicode.

Greediness does not decide whether a text matches, so `U` is read and has no effect.
-/

namespace ContentBatch.Pattern

/-- What can be switched within a pattern. -/
inductive Flag where
  | ignoreCase
  | multiLine
  | pointTakesAll
  | carriageReturns
  | verbose
  | swapGreed
  | unicode
  deriving DecidableEq, Repr

/-- The state of all flags that matter. -/
structure Flags where
  ignoreCase : Bool := false
  multiLine : Bool := false
  pointTakesAll : Bool := false
  carriageReturns : Bool := false
  verbose : Bool := false
  unicode : Bool := true
  deriving DecidableEq, Repr

/-- Flags to be switched on and off. -/
abbrev FlagChange := List (Flag × Bool)

namespace Flag

/-- The flag that a letter stands for. -/
def ofLetter? : Char → Option Flag
  | 'i' => some ignoreCase
  | 'm' => some multiLine
  | 's' => some pointTakesAll
  | 'R' => some carriageReturns
  | 'x' => some verbose
  | 'U' => some swapGreed
  | 'u' => some unicode
  | _ => none

end Flag

namespace Flags

/-- Switches one flag. -/
def switch (flags : Flags) : Flag × Bool → Flags
  | (.ignoreCase, on) => { flags with ignoreCase := on }
  | (.multiLine, on) => { flags with multiLine := on }
  | (.pointTakesAll, on) => { flags with pointTakesAll := on }
  | (.carriageReturns, on) => { flags with carriageReturns := on }
  | (.verbose, on) => { flags with verbose := on }
  | (.swapGreed, _) => flags
  | (.unicode, on) => { flags with unicode := on }

/-- Switches several flags. -/
def change (flags : Flags) (changes : FlagChange) : Flags :=
  changes.foldl switch flags

/-- Whether a dash has been read, and whether it was the last character. -/
inductive Dash where
  | unread
  | last
  | read
  deriving DecidableEq, Repr

/-- Flags up to a closing parenthesis or a colon, which is returned together with them.
No flag may be named twice, nor the dash, after which flags are switched off, and the
dash may not come last. -/
def readChange :
    Dash → FlagChange → List Char → Except Fault ((FlagChange × Char) × List Char)
  | _, _, [] => .error .badFlags
  | dash, changes, c :: rest =>
    if c == ')' || c == ':' then
      if dash = .last then .error .badFlags else .ok ((changes.reverse, c), rest)
    else if c == '-' then
      if dash = .unread then readChange .last changes rest else .error .badFlags
    else
      match Flag.ofLetter? c with
      | none => .error .badFlags
      | some flag =>
        if changes.any fun change => change.1 == flag then .error .badFlags
        else
          readChange (if dash = .unread then .unread else .read)
            ((flag, dash = .unread) :: changes) rest

end Flags

end ContentBatch.Pattern
