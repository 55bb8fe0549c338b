import TaskGraph.Schema.Draft
import TaskGraph.Schema.Format.Clock
import TaskGraph.Schema.Format.Mail
import TaskGraph.Schema.Format.Template
import TaskGraph.Text.Pattern.Reader
import TaskGraph.Uri

/-!
# Formats of texts

A schema can ask for a format of texts by its name. A name that a draft does not know asks for nothing.
-/

set_option autoImplicit false

namespace TaskGraph

/-- A format of texts. -/
inductive TextFormat where
  | date
  | moment
  | time
  | mail
  | foreignMail
  | host
  | foreignHost
  | fourBytes
  | eightPieces
  | address (anyScript relative : Bool)
  | template
  | pointer
  | relativePointer
  | regex
  deriving Repr, DecidableEq

namespace TextFormat

/-- The formats with their names and the first drafts that know them. -/
def known : List (TextFormat × String × Draft) := [
  (date, "date", .four), (moment, "date-time", .four), (time, "time", .four), (mail, "email", .four),
  (foreignMail, "idn-email", .four), (host, "hostname", .four),
  (foreignHost, "idn-hostname", .seven), (fourBytes, "ipv4", .four), (eightPieces, "ipv6", .four),
  (address true false, "iri", .seven), (address true true, "iri-reference", .seven),
  (address false false, "uri", .four), (address false true, "uri-reference", .six),
  (template, "uri-template", .six), (pointer, "json-pointer", .six),
  (relativePointer, "relative-json-pointer", .seven), (regex, "regex", .four)]

/-- The format of a name in a draft. -/
def ofName? (d : Draft) (name : String) : Option TextFormat :=
  known.findSome? fun (f, n, first) => if n == name && d.since first then some f else none

/-- The name of a format. -/
def name (f : TextFormat) : String := ((known.lookup f).map Prod.fst).getD ""

/-- Whether a text has a format. -/
def admits (f : TextFormat) (s : String) : Bool :=
  match f with
  | date => Clock.isDate s.toList
  | moment => Clock.isMoment s.toList
  | time => Clock.isTime s.toList
  | mail | foreignMail => Mail.isAddress s.toList
  | host => Mail.isHost s.toList
  | foreignHost => Mail.isForeignHost s.toList
  | fourBytes => Mail.isFourBytes s.toList
  | eightPieces => (Http.Site.six? s.toList).isSome
  | address anyScript relative =>
    (Uri.parse? anyScript s).any fun u => relative || u.scheme.isSome
  | template => Template.isTemplate s.toList
  | pointer => Template.isPointer s.toList
  | relativePointer => Template.isRelativePointer s.toList
  | regex => (Pattern.parse? s).isSome

end TextFormat

end TaskGraph
