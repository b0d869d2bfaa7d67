import Showcase.Json.Document
import Showcase.Json.Literal

namespace Showcase.Document.Reader

open Json

def isSpace (c : Char) : Bool := c == ' ' || c == '\n' || c == '\r' || c == '\t'

def skipSpaces (cs : List Char) : List Char := cs.dropWhile isSpace

/-- What was read and what follows it; nothing follows where the text is broken. -/
abbrev Reading (α : Type) := α × Option (List Char)

def readNumber (cs : List Char) : Reading Document :=
  match numberLiteral? cs with
  | none => (broken, none)
  | some (l, rest) => (l.value?.elim unreadable .number, some rest)

def readString (cs : List Char) : Reading Document :=
  match pieces? cs with
  | none => (broken, none)
  | some (ps, rest) =>
    ((characters? ps).elim unreadable fun s ↦ .string (String.ofList s), some rest)

/-- What stands for the contents of a list or an object with no level left to hold it. -/
def sealedContents : Option (List Char) → Document
  | some _ => unreadable
  | none => broken

mutual

/-- Reads a value that may hold `levels` lists and objects inside each other. -/
def readValue (levels : Nat) : Nat → List Char → Reading Document
  | 0, _ => (broken, none)
  | fuel + 1, cs =>
    match skipSpaces cs with
    | 'n' :: 'u' :: 'l' :: 'l' :: rest => (.null, some rest)
    | 't' :: 'r' :: 'u' :: 'e' :: rest => (.bool true, some rest)
    | 'f' :: 'a' :: 'l' :: 's' :: 'e' :: rest => (.bool false, some rest)
    | '"' :: rest => readString rest
    | '[' :: rest =>
      let (items, rest) := readList (levels - 1) fuel rest
      (.array (if levels = 0 then [sealedContents rest] else items), rest)
    | '\x7b' :: rest =>
      let (entries, rest) := readObject (levels - 1) fuel rest
      (.object (if levels = 0 then [(none, sealedContents rest)] else entries), rest)
    | rest => readNumber rest

def readList (levels : Nat) : Nat → List Char → Reading (List Document)
  | 0, _ => ([broken], none)
  | fuel + 1, cs =>
    match skipSpaces cs with
    | ']' :: rest => ([], some rest)
    | rest => readItems levels fuel rest

def readItems (levels : Nat) : Nat → List Char → Reading (List Document)
  | 0, _ => ([broken], none)
  | fuel + 1, cs =>
    match readValue levels fuel cs with
    | (d, none) => ([d], none)
    | (d, some rest) =>
      match skipSpaces rest with
      | ',' :: rest =>
        let (ds, rest) := readItems levels fuel rest
        (d :: ds, rest)
      | ']' :: rest => ([d], some rest)
      | _ => ([d, broken], none)

def readObject (levels : Nat) : Nat → List Char → Reading (List (Option String × Document))
  | 0, _ => ([(none, broken)], none)
  | fuel + 1, cs =>
    match skipSpaces cs with
    | '\x7d' :: rest => ([], some rest)
    | rest => readEntries levels fuel rest

def readEntries (levels : Nat) : Nat → List Char → Reading (List (Option String × Document))
  | 0, _ => ([(none, broken)], none)
  | fuel + 1, cs =>
    match readEntry levels fuel cs with
    | (e, none) => ([e], none)
    | (e, some rest) =>
      match skipSpaces rest with
      | ',' :: rest =>
        let (es, rest) := readEntries levels fuel rest
        (e :: es, rest)
      | '\x7d' :: rest => ([e], some rest)
      | _ => ([e, (none, broken)], none)

def readEntry (levels : Nat) : Nat → List Char → Reading (Option String × Document)
  | 0, _ => ((none, broken), none)
  | fuel + 1, cs =>
    match skipSpaces cs with
    | '"' :: rest =>
      match pieces? rest with
      | none => ((none, broken), none)
      | some (ps, rest) =>
        let key := (characters? ps).map String.ofList
        match skipSpaces rest with
        | ':' :: rest =>
          let (d, rest) := readValue levels fuel rest
          ((key, d), rest)
        | _ => ((key, broken), none)
    | _ => ((none, broken), none)

end

end Showcase.Document.Reader

namespace Showcase.Document

open Reader

/-- A text as a value, and whether only blanks follow it. -/
def ofText (levels : Nat) (text : String) : Document × Bool :=
  let cs := text.toList
  match readValue levels (4 * cs.length + 4) cs with
  | (d, none) => (d, false)
  | (d, some rest) => (d, (skipSpaces rest).isEmpty)

/-- Lists and objects may be nested this deep in a text. -/
def maxLevels : Nat := 127

end Showcase.Document

namespace Showcase.Json

def ofText? (levels : Nat) (text : String) : Option Json :=
  let (d, complete) := Document.ofText levels text
  if complete then d.toJson? else none

end Showcase.Json
