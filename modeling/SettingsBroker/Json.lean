/-
# JSON values

A JSON text as a tree.  Numbers keep their spelling, since only whole numbers
are ever taken from a text and the width of the others must not matter.  A
string may be well formed and still spell no text, when one of its escapes is
half of a pair or its bytes are not UTF-8; such a string may be skipped but not
used.
-/

namespace SettingsBroker

/-- A JSON value as it was written. -/
inductive Json where
  | null
  | bool (value : Bool)
  /-- A number in its spelling. -/
  | number (spelling : String)
  /-- A string, with the text it spells if it spells one. -/
  | string (text : Option String)
  | array (items : List Json)
  /-- An object in written order, repeated names included. -/
  | object (members : List (Option String × Json))
  deriving Inhabited, Repr

end SettingsBroker
