import Mathlib.Data.List.Sort
import BlazCtf.Lib.Json
import BlazCtf.Lib.PercentCoding

set_option autoImplicit false

namespace Tonyallet

/-- A string, by its characters. -/
abbrev Text := List Char

/-- What `verifyTelegramWebAppData` takes from its surroundings: the environment variable
`BYPASS_TELEGRAM_CHECK`, the hexadecimal HMAC under the secret of the bot's token,
`localeCompare`, and `JSON.parse`, which throws on what is not JSON. -/
structure Platform where
  bypass : Bool
  hmac : Text → Text
  localeCompare : Text → Text → Int
  jsonParse : Text → Option Json

structure Verified where
  isValid : Bool
  user : Json

/-- `decodeURIComponent`, which throws on a malformed escape. -/
def decodeURIComponent (text : Text) : Option Text := PercentCoding.strict text

namespace UrlSearchParams

/-- A name or a value of a form. -/
def decodeComponent (text : Text) : Text :=
  PercentCoding.lossy (text.map fun char => if char = '+' then ' ' else char)

def withoutMark : Text → Text
  | '?' :: rest => rest
  | text => text

/-- One name and value, apart at the first equals sign. -/
def pair (part : Text) : Text × Text :=
  (decodeComponent (part.takeWhile (· ≠ '=')),
    decodeComponent ((part.dropWhile (· ≠ '=')).drop 1))

def pairs (text : Text) : List (Text × Text) :=
  (((withoutMark text).splitOn '&').filter (· ≠ [])).map pair

/-- `new URLSearchParams(text).get(name)` -/
def get (text name : Text) : Option Text := ((pairs text).find? (·.1 = name)).map Prod.snd

end UrlSearchParams

def userKey : Text := ['u', 's', 'e', 'r']

def isHash (part : Text) : Bool := ['h', 'a', 's', 'h', '='].isPrefixOf part

/-- `arr.splice(hashIndex)`: what stays in `arr` and what is returned. Without a hash the
index is -1, which is the last element. -/
def spliced (arr : List Text) : List Text × List Text :=
  match arr.findIdx? isHash with
  | some hashIndex => (arr.take hashIndex, arr.drop hashIndex)
  | none => (arr.take (arr.length - 1), arr.drop (arr.length - 1))

/-- The fields that are checked. -/
def checkedFields (encoded : Text) : List Text := (spliced (encoded.splitOn '&')).1

/-- `arr.splice(hashIndex)[0].split('=')[1]` -/
def receivedHash (encoded : Text) : Option Text :=
  (spliced (encoded.splitOn '&')).2.head?.bind fun part => (part.splitOn '=')[1]?

/-- `get('user') || '{}'` -/
def userText (encoded : Text) : Text :=
  match UrlSearchParams.get encoded userKey with
  | none | some [] => ['\x7b', '\x7d']
  | some text => text

namespace Platform

variable (platform : Platform)

def dataCheckString (encoded : Text) : Text :=
  ['\n'].intercalate
    ((checkedFields encoded).insertionSort fun a b => platform.localeCompare a b ≤ 0)

/-- `none` is a call that throws. -/
def verifyTelegramWebAppData (telegramInitData : Text) : Option Verified :=
  if platform.bypass then some ⟨true, .object [("id", .number "123")]⟩
  else do
    let encoded ← decodeURIComponent telegramInitData
    let expected := platform.hmac (platform.dataCheckString encoded)
    let user ← platform.jsonParse (userText encoded)
    return ⟨receivedHash encoded = some expected, user⟩

end Platform

end Tonyallet
