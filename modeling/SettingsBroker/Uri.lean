/-
# URIs

A URI in its parts: scheme, authority, path, query and fragment, each kept in
its written form.  The written URI is put together from the parts, so a URI is
read once and its parts are found again without reading.
-/

import SettingsBroker.Uri.Host

namespace SettingsBroker

namespace Uri

/-- Who serves a resource: user, host and port. -/
structure Authority where
  user : String
  /-- The password, encoded; absent when empty. -/
  password : Option String
  host : Host
  /-- The port, absent when it is the scheme's own. -/
  port : Option Nat
  deriving DecidableEq, Repr

/-- The written form of an authority. -/
def Authority.text (a : Authority) : String :=
  let credentials :=
    match a.password with
    | some password => a.user ++ ":" ++ password ++ "@"
    | none => if a.user = "" then "" else a.user ++ "@"
  let port :=
    match a.port with
    | some port => ":" ++ toString port
    | none => ""
  credentials ++ a.host.text ++ port

/-- The path of a URI. -/
inductive Path where
  /-- A text without structure, such as the address of a mail. -/
  | plain (text : String)
  /-- A row of segments; none at all is the empty path. -/
  | segments (names : List String)
  deriving DecidableEq, Repr

/-- The written form of a path. -/
def Path.text : Path → String
  | .plain text => text
  | .segments names => String.join (names.map ("/" ++ ·))

end Uri

/-- A URI by its parts. -/
structure Uri where
  /-- The scheme, in lower case. -/
  scheme : String
  authority : Option Uri.Authority
  path : Uri.Path
  query : Option String
  fragment : Option String
  deriving DecidableEq, Repr

namespace Uri

/-- The part of the written form before the path.  Without an authority, a
path that starts with an empty segment gets a dot segment in front, because
two slashes would read as the start of an authority. -/
def headText (u : Uri) : String :=
  match u.authority, u.path with
  | some authority, _ => u.scheme ++ "://" ++ authority.text
  | none, .segments ("" :: _ :: _) => u.scheme ++ ":/."
  | none, _ => u.scheme ++ ":"

/-- The written form of a URI. -/
def text (u : Uri) : String :=
  let query := match u.query with
    | some query => "?" ++ query
    | none => ""
  let fragment := match u.fragment with
    | some fragment => "#" ++ fragment
    | none => ""
  u.headText ++ u.path.text ++ query ++ fragment

end Uri

end SettingsBroker
