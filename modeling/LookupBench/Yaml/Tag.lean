import LookupBench.Yaml.ScalarText
import LookupBench.Text.Utf8

/-!
# Tags and directives

A tag is a handle and the rest of a name. A `%TAG` directive says what a handle stands for. Names
are octets, since they may be written with escaped ones.
-/

namespace LookupBench.Yaml

/-- The characters of a tag. Inside angle brackets some marks count as well. -/
def isTagChar (bracketed : Bool) (x : Char) : Bool :=
  isNameChar x || [';', '/', '?', ':', '@', '&', '=', '+', '$', '.', '%', '!', '~', '*', '\'', '(',
    ')'].contains x || (bracketed && [',', '[', ']'].contains x)

/-- How many octets a character has whose first octet is given. -/
def octetCount? (b : Nat) : Option Nat :=
  if b < 0x80 then some 1
  else if b / 0x20 = 6 then some 2
  else if b / 0x10 = 14 then some 3
  else if b / 8 = 30 then some 4
  else none

def escapedOctet (activity : Activity) (start : Mark) (c : Cursor) : Except Refusal Nat :=
  match c.peek? 0, (c.peek? 1).bind hexValue?, (c.peek? 2).bind hexValue? with
  | some '%', some high, some low => .ok (16 * high + low)
  | _, _, _ => refuse activity start .noOctet c

/-- The octets of a character behind its first one. -/
def escapedTail (activity : Activity) (start : Mark) :
    Nat → Cursor → Except Refusal (Bytes × Cursor)
  | 0, c => .ok ([], c)
  | n + 1, c => do
    let b ← escapedOctet activity start c
    if b / 0x40 ≠ 2 then refuse activity start .wrongTrailingOctet c
    else
      let (tail, c) ← escapedTail activity start n (c.skip 3)
      .ok (b.toUInt8 :: tail, c)

/-- One character in escaped octets. -/
def escapedOctets (activity : Activity) (start : Mark) (c : Cursor) :
    Except Refusal (Bytes × Cursor) := do
  let b ← escapedOctet activity start c
  match octetCount? b with
  | none => refuse activity start .wrongLeadingOctet c
  | some n =>
    let (tail, c) ← escapedTail activity start (n - 1) (c.skip 3)
    .ok (b.toUInt8 :: tail, c)

def tagOctets (bracketed : Bool) (activity : Activity) (start : Mark) :
    Nat → Cursor → Except Refusal (Bytes × Cursor)
  | 0, c => .ok ([], c)
  | fuel + 1, c =>
    match c.peek? with
    | none => .ok ([], c)
    | some x =>
      if !isTagChar bracketed x then .ok ([], c)
      else do
        let (piece, c) ← if x = '%' then escapedOctets activity start c
          else pure (Utf8.encodeChar x, c.next)
        let (rest, c) ← tagOctets bracketed activity start fuel c
        .ok (piece ++ rest, c)

/-- The text of a tag. It may be empty only behind a handle. -/
def tagText (bracketed directive : Bool) (handled : Bool) (start : Mark) (c : Cursor) :
    Except Refusal (Bytes × Cursor) := do
  let activity := if directive then .tagDirective else .tagText
  let (text, c) ← tagOctets bracketed activity start c.rest.length c
  if text.isEmpty && !handled then refuse activity start .noTagText c
  else .ok (text, c)

/-- An exclamation mark, a name, and a second mark if there is one. -/
def tagHandle (directive : Bool) (start : Mark) (c : Cursor) :
    Except Refusal (List Char × Cursor) :=
  if !c.looksAt '!' then
    refuse (if directive then .handleDirective else .tag) start .noHandleMark c
  else
    let (name, c) := c.next.takeWhile isNameChar
    if c.looksAt '!' then .ok ('!' :: name ++ ['!'], c.next)
    else if directive && !name.isEmpty then refuse .handleOfDirective start .noHandleMark c
    else .ok ('!' :: name, c)

structure Tag where
  /-- What a directive may give a meaning to. The tag is complete where it is empty. -/
  handle : Bytes
  suffix : Bytes
  deriving DecidableEq, Repr

def Tag.read (flow : Bool) (start : Mark) (c : Cursor) : Except Refusal (Tag × Cursor) := do
  let mark := Utf8.encodeChar '!'
  let (tag, c) ←
    if c.looksAt '<' 1 then do
      let (text, c) ← tagText true false false start (c.skip 2)
      if c.looksAt '>' then pure (⟨[], text⟩, c.next) else refuse .tag start .noTagEnd c
    else do
      let (handle, c) ← tagHandle false start c
      if 1 < handle.length ∧ handle.getLast? = some '!' then
        let (suffix, c) ← tagText false false false start c
        pure (⟨Utf8.encodeChars handle, suffix⟩, c)
      else
        let (rest, c) ← tagText false false true start c
        let suffix := Utf8.encodeChars (handle.drop 1) ++ rest
        pure (if suffix.isEmpty then ⟨[], mark⟩ else ⟨mark, suffix⟩, c)
  if c.blankAt || (flow && c.looksAt ',') then .ok (tag, c)
  else refuse .tag start .noBlankOrBreak c

inductive Directive where
  | version (major minor : Nat)
  | handle (name pre : Bytes)
  deriving DecidableEq, Repr

def versionNumber (start : Mark) (c : Cursor) : Except Refusal (Nat × Cursor) :=
  let (digits, after) := c.takeWhile isDigit
  if 9 < digits.length then refuse .versionDirective start .longVersionNumber (c.skip 9)
  else if digits.isEmpty then refuse .versionDirective start .noVersionNumber c
  else .ok (digits.foldl (fun n x => 10 * n + (x.toNat - 48)) 0, after)

/-- A directive, up to the end of its line. -/
def Directive.read (c : Cursor) : Except Refusal (Directive × Cursor) := do
  let start := c.mark
  let (name, c) := c.next.takeWhile isNameChar
  if name.isEmpty then refuse .directive start .noDirectiveName c
  else if !c.blankAt then refuse .directive start .oddDirectiveName c
  else
    let (directive, c) ←
      if name = "YAML".toList then do
        let (major, c) ← versionNumber start c.skipBlanks
        if !c.looksAt '.' then refuse .versionDirective start .noVersionPoint c
        else
          let (minor, c) ← versionNumber start c.next
          pure (Directive.version major minor, c)
      else if name = "TAG".toList then do
        let (mark, c) ← tagHandle true start c.skipBlanks
        if !c.has isBlank then refuse .tagDirective start .noBlank c
        else
          let (pre, c) ← tagText true true false start c.skipBlanks
          if c.blankAt then pure (Directive.handle (Utf8.encodeChars mark) pre, c)
          else refuse .tagDirective start .noBlankOrBreak c
      else refuse .directive start .unknownDirective c
    let c := c.skipBlanks.skipComment
    if c.atBreak then .ok (directive, c.passBreak)
    else refuse .directive start .noCommentOrBreak c

end LookupBench.Yaml
