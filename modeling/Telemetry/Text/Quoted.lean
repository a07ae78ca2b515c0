/-
A text as it is written into a log: between quotation marks, on one line, with
nothing in it that a reader could not see. A quotation mark and a backslash are
written behind a backslash, as are the four controls with a letter of their
own; every other character that is not seen by itself is written by number.
-/

import Telemetry.Bytes
import Telemetry.Text.CodePoints

namespace Telemetry.Quoted

def byNumber (character : Char) : List Char :=
  ['\\', 'u', '\x7b'] ++ Nat.toDigits 16 character.toNat ++ ['\x7d']

def standsAlone (character : Char) : Bool :=
  CodePoints.isPrintable character && !CodePoints.isExtending character

def escape (character : Char) : List Char :=
  if character = '\x00' then ['\\', '0']
  else if character = '\t' then ['\\', 't']
  else if character = '\r' then ['\\', 'r']
  else if character = '\n' then ['\\', 'n']
  else if character = '\\' then ['\\', '\\']
  else if character = '\"' then ['\\', '\"']
  else if standsAlone character then [character]
  else byNumber character

def quote (text : String) : String :=
  String.ofList ('\"' :: (text.toList.flatMap escape ++ ['\"']))

end Telemetry.Quoted
