/-
The query of a request, and the one flag in it that is understood.

A query is a list of fields with `&` between them. A field is a name and a value
with the first `=` between them, and without one its value is empty. In both a
plus sign is a space and percent signs are read. Of several fields with one name
the last counts.

A flag has a handful of words for yes and for no, in letters of any size. A flag
that is there with any other value is a mistake; one that is missing is off.
-/
import Taskbook.Text.Percent
import Taskbook.Text.Split

set_option autoImplicit false

namespace Taskbook.Http

/-- The characters of a raw query: one for each of its bytes. -/
def rawCharacters (query : String) : List Char :=
  query.toUTF8.toList.map fun byte => Char.ofNat byte.toNat

/-- A name or a value of a field as it is meant. -/
def fieldText (raw : List Char) : String :=
  String.ofList (Text.percentDecode (raw.map fun c => if c = '+' then ' ' else c))

/-- The name and the value of a field. -/
def field (raw : List Char) : String × String :=
  (fieldText (raw.takeWhile (· != '=')), fieldText ((raw.dropWhile (· != '=')).drop 1))

/-- The fields of a query, in order. -/
def fields (query : String) : List (String × String) :=
  ((Text.splitWhere (· == '&') (rawCharacters query)).filter fun raw => !raw.isEmpty).map field

/-- The value of the last field called `name`. -/
def lastField? (name query : String) : Option String :=
  (fields query).reverse.lookup name

/-- The words for yes. -/
def onWords : List String := ["1", "true", "t", "yes", "y", "on"]

/-- The words for no. -/
def offWords : List String := ["0", "false", "f", "no", "n", "off"]

/-- The flag that a word means, if it means one. -/
def flag? (word : String) : Option Bool :=
  if onWords.contains word.toLower then some true
  else if offWords.contains word.toLower then some false
  else none

/-- The flag called `name` in the query, off if it is missing; its value if it
means nothing. -/
def flag (name query : String) : Except String Bool :=
  match lastField? name query with
  | none => .ok false
  | some word =>
    match flag? word with
    | some value => .ok value
    | none => .error word

end Taskbook.Http
