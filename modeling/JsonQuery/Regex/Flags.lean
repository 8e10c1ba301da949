import JsonQuery.Regex.Basic
import JsonQuery.Text.Reading
import JsonQuery.Unicode.CaseFolding

/-!
The flags of regular expressions, and the sets and conditions that constructs stand for under
them. Without the Unicode flag only ASCII is known, and a set that would reach beyond ASCII is
refused, because it could match a part of a character.
-/

namespace JsonQuery.Regex

structure Flags where
  /-- `i`: case does not count. -/
  ignoreCase : Bool := false
  /-- `m`: the text divides into lines. -/
  multiLine : Bool := false
  /-- `s`: a point stands for a line end too. -/
  dotAll : Bool := false
  /-- `U`: the meaning of a question mark after a repetition is reversed. -/
  swapGreed : Bool := false
  /-- `u`: classes know all characters. -/
  unicode : Bool := true
  /-- `R`: a carriage return ends a line too. -/
  crlf : Bool := false
  /-- `x`: blanks and comments in the pattern do not count. -/
  verbose : Bool := false
  deriving DecidableEq

namespace Flags

def set? (flags : Flags) (letter : Char) (on : Bool) : Option Flags :=
  if letter = 'i' then some { flags with ignoreCase := on }
  else if letter = 'm' then some { flags with multiLine := on }
  else if letter = 's' then some { flags with dotAll := on }
  else if letter = 'U' then some { flags with swapGreed := on }
  else if letter = 'u' then some { flags with unicode := on }
  else if letter = 'R' then some { flags with crlf := on }
  else if letter = 'x' then some { flags with verbose := on }
  else none

/-- A set, if it is allowed: without the Unicode flag it holds ASCII only. -/
def allow (flags : Flags) (set : Unicode.Ranges) : Option Unicode.Ranges :=
  if flags.unicode || set.isAscii then some set else none

def fold (flags : Flags) (set : Unicode.Ranges) : Unicode.Ranges :=
  if !flags.ignoreCase then set
  else if flags.unicode then set.foldCase
  else set.foldAsciiCase

/-- Negation comes after closing under case. -/
def foldAndNegate (flags : Flags) (negated : Bool) (set : Unicode.Ranges) :
    Option Unicode.Ranges :=
  let set := flags.fold set
  flags.allow (if negated then set.complement else set)

def literal (flags : Flags) (c : Char) : Unicode.Ranges :=
  let set := [(c.toNat, c.toNat)]
  if flags.unicode || c.toNat < 0x80 then flags.fold set else set

def letterClass (flags : Flags) (letter : Char) : Option Unicode.Ranges :=
  let set :=
    if letter.toLower = 'd' then
      if flags.unicode then Unicode.digits else [(0x30, 0x39)]
    else if letter.toLower = 's' then
      if flags.unicode then Unicode.spaces else [(0x09, 0x0D), (0x20, 0x20)]
    else if flags.unicode then Unicode.wordChars
    else [(0x30, 0x39), (0x41, 0x5A), (0x5F, 0x5F), (0x61, 0x7A)]
  flags.allow (if letter.isUpper then set.complement else set)

def dot (flags : Flags) : Option Unicode.Ranges :=
  if !flags.unicode then none
  else if flags.dotAll then some [(0, Unicode.lastChar)]
  else if flags.crlf then some (Unicode.Ranges.complement [(0x0A, 0x0A), (0x0D, 0x0D)])
  else some (Unicode.Ranges.complement [(0x0A, 0x0A)])

def lineStart (flags : Flags) : Look :=
  if flags.multiLine then .lineStart flags.crlf else .textStart

def lineEnd (flags : Flags) : Look :=
  if flags.multiLine then .lineEnd flags.crlf else .textEnd

end Flags

def asciiClass? (name : List Char) : Option Unicode.Ranges :=
  match String.ofList name with
  | "alnum" => some [(0x30, 0x39), (0x41, 0x5A), (0x61, 0x7A)]
  | "alpha" => some [(0x41, 0x5A), (0x61, 0x7A)]
  | "ascii" => some [(0x00, 0x7F)]
  | "blank" => some [(0x09, 0x09), (0x20, 0x20)]
  | "cntrl" => some [(0x00, 0x1F), (0x7F, 0x7F)]
  | "digit" => some [(0x30, 0x39)]
  | "graph" => some [(0x21, 0x7E)]
  | "lower" => some [(0x61, 0x7A)]
  | "print" => some [(0x20, 0x7E)]
  | "punct" => some [(0x21, 0x2F), (0x3A, 0x40), (0x5B, 0x60), (0x7B, 0x7E)]
  | "space" => some [(0x09, 0x0D), (0x20, 0x20)]
  | "upper" => some [(0x41, 0x5A)]
  | "word" => some [(0x30, 0x39), (0x41, 0x5A), (0x5F, 0x5F), (0x61, 0x7A)]
  | "xdigit" => some [(0x30, 0x39), (0x41, 0x46), (0x61, 0x66)]
  | _ => none

end JsonQuery.Regex
