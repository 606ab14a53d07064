import DeviceTestbed.Text.Blank
import DeviceTestbed.Text.Numeral
import DeviceTestbed.Text.Printable

/-!
Text shown between quotation marks, so that every character of it can be told from the message
around it.
-/

namespace DeviceTestbed.Quoted

def escape (mark character : Char) : List Char :=
  if character = '\x00' then ['\\', '0']
  else if character = '\t' then ['\\', 't']
  else if character = '\r' then ['\\', 'r']
  else if character = '\n' then ['\\', 'n']
  else if character = '\\' then ['\\', '\\']
  else if character = mark then ['\\', mark]
  else if isExtending character || !isPrintable character then
    ['\\', 'u', '\x7b'] ++ Numeral.hexadecimal character.toNat ++ ['\x7d']
  else [character]

def text (characters : List Char) : String :=
  String.ofList ('\x22' :: characters.flatMap (escape '\x22') ++ ['\x22'])

def character (character : Char) : String :=
  String.ofList ('\x27' :: escape '\x27' character ++ ['\x27'])

end DeviceTestbed.Quoted
