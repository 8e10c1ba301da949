import JsonQuery.Unicode.Age
import JsonQuery.Unicode.BinaryProperty
import JsonQuery.Unicode.GeneralCategory
import JsonQuery.Unicode.GraphemeBreak
import JsonQuery.Unicode.Script
import JsonQuery.Unicode.ScriptExtension
import JsonQuery.Unicode.SentenceBreak
import JsonQuery.Unicode.WordBreak

/-!
Properties of characters by name. Case, blanks, hyphens and underscores do not count in a
name, nor does `is` at its start.
-/

namespace JsonQuery.Unicode

/-- What counts in a name. The name of one letter after `is` keeps it, for `isc` is the name
of another property. -/
def looseName (name : List Char) : String :=
  let isPrefixed := match name with
    | i :: s :: _ => i.toLower == 'i' && s.toLower == 's'
    | _ => false
  let kept := (if isPrefixed then name.drop 2 else name).filter fun c =>
    c.toNat < 0x80 && c != ' ' && c != '_' && c != '-'
  let lower := kept.map Char.toLower
  .ofList (if isPrefixed && lower == ['c'] then ['i', 's', 'c'] else lower)

/-! ### General categories -/

/-- The categories that are groups of others. -/
def categoryGroups : List (List String × List String) := [
  (["l", "letter"], ["lu", "ll", "lt", "lm", "lo"]),
  (["lc", "casedletter"], ["lu", "ll", "lt"]),
  (["m", "mark", "combiningmark"], ["mn", "mc", "me"]),
  (["n", "number"], ["nd", "nl", "no"]),
  (["p", "punctuation", "punct"], ["pc", "pd", "ps", "pe", "pi", "pf", "po"]),
  (["s", "symbol"], ["sm", "sc", "sk", "so"]),
  (["z", "separator"], ["zs", "zl", "zp"]),
  (["c", "other"], ["cc", "cf", "co", "cn"])]

/-- The characters of several categories. -/
def categories (names : List String) : Ranges :=
  (names.filterMap (lookup? generalCategoryTable)).foldl Ranges.union []

/-- The characters of a general category, or of one of the three sets that go with them. -/
def category? (name : String) : Option Ranges :=
  if name = "any" then some [(0, lastChar)]
  else if name = "ascii" then some [(0, 0x7F)]
  else if name = "assigned" then (lookup? generalCategoryTable "cn").map Ranges.complement
  else
    match categoryGroups.find? (·.1.contains name) with
    | some group => some (categories group.2)
    | none => lookup? generalCategoryTable name

/-! ### Other properties -/

def script? (name : String) : Option Ranges := lookup? scriptTable name

/-- The characters used in a script: where the table has no entry, those that belong to it. -/
def scriptExtension? (name : String) : Option Ranges :=
  (lookup? scriptExtensionTable name).orElse fun _ => script? name

/-- The characters assigned in a version of Unicode or in one before it. -/
def age? (name : String) : Option Ranges :=
  if ageTable.any (·.1.contains name) then
    let upTo := ageTable.takeWhile (!·.1.contains name) ++ ageTable.filter (·.1.contains name)
    some ((upTo.map fun p => rangesOfText p.2).foldl Ranges.union [])
  else none

/-- The names of properties that have a value for each character. -/
def valued : List (List String × (String → Option Ranges)) := [
  (["gc", "generalcategory"], category?),
  (["sc", "script"], script?),
  (["scx", "scriptextensions"], scriptExtension?),
  (["age"], age?),
  (["gcb", "graphemeclusterbreak"], lookup? graphemeBreakTable),
  (["wb", "wordbreak"], lookup? wordBreakTable),
  (["sb", "sentencebreak"], lookup? sentenceBreakTable)]

/-- The characters with a property that is named alone: a binary property, a general category
or a script. -/
def named? (name : List Char) : Option Ranges :=
  let name := looseName name
  (lookup? binaryPropertyTable name).orElse fun _ =>
    (category? name).orElse fun _ => script? name

/-- The characters for which a property has a value. -/
def withValue? (property value : List Char) : Option Ranges := do
  let entry ← valued.find? (·.1.contains (looseName property))
  entry.2 (looseName value)

/-! ### Classes of characters -/

/-- Decimal digits. -/
def digits : Ranges := (category? "nd").getD []

/-- White space. -/
def spaces : Ranges := (lookup? binaryPropertyTable "whitespace").getD []

def alphabetic : Ranges := (lookup? binaryPropertyTable "alphabetic").getD []

/-- The characters of words: letters, marks, digits, connectors and joiners. -/
def wordChars : Ranges :=
  ((alphabetic.union (categories ["mn", "mc", "me", "nd", "pc"])).union
    ((lookup? binaryPropertyTable "joincontrol").getD []))

end JsonQuery.Unicode
